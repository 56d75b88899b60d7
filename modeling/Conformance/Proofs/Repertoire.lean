import Conformance.Proofs.PathReader

/-!
# Texts within a repertoire

A document is written in the characters of its repertoire, whatever texts stand in the value: what
the repertoire does not admit is escaped, and an escape consists of printable ASCII characters. The
same goes for the accessors in paths.
-/

namespace Conformance

namespace Text.Repertoire

variable {r : Repertoire}

/-! ### Characters -/

def Spells (r : Repertoire) (s : String) : Prop := ∀ c ∈ s.toList, r.admits c = true

instance (r : Repertoire) (s : String) : Decidable (r.Spells s) :=
  decidable_of_iff (s.toList.all r.admits = true) List.all_eq_true

theorem admits_of_ascii {c : Char} (h : ascii.admits c = true) : r.admits c = true := by
  cases r with
  | ascii => exact h
  | unicode =>
    simp only [admits, Bool.and_eq_true, decide_eq_true_eq] at h ⊢
    exact h.1

theorem admits_of_isNameChar {c : Char} (h : Path.isNameChar c = true) : r.admits c = true := by
  refine admits_of_ascii ?_
  have hletter : c.isAlpha = (c.isUpper || c.isLower) := rfl
  have hupper : c.isUpper = decide (65 ≤ c.val ∧ c.val ≤ 90) := rfl
  have hlower : c.isLower = (decide (97 ≤ c.val) && decide (c.val ≤ 122)) := rfl
  have hdigit : c.isDigit = (decide (48 ≤ c.val) && decide (c.val ≤ 57)) := rfl
  simp only [Path.isNameChar, Path.isHead, hletter, hupper, hlower, hdigit, Bool.or_eq_true,
    Bool.and_eq_true, decide_eq_true_eq, UInt32.le_iff_toNat_le] at h
  have hrange : 0x20 ≤ c.val.toNat ∧ c.val.toNat ≤ 0x7E := by
    rcases h with ((((⟨hl, hu⟩ | ⟨hl, hu⟩) | rfl) | rfl) | ⟨hl, hu⟩)
    · change 65 ≤ c.val.toNat at hl
      change c.val.toNat ≤ 90 at hu
      omega
    · change 97 ≤ c.val.toNat at hl
      change c.val.toNat ≤ 122 at hu
      omega
    · decide
    · decide
    · change 48 ≤ c.val.toNat at hl
      change c.val.toNat ≤ 57 at hu
      omega
  simpa [admits] using hrange

theorem admits_of_isDigit {c : Char} (h : c.isDigit = true) : r.admits c = true :=
  admits_of_isNameChar (by rw [Path.isNameChar, h, Bool.or_true])

theorem hexDigit_admitted : ∀ n < 16, ascii.admits (hexDigit n) = true := by decide

theorem hexDigits_admitted (width n : Nat) : ∀ c ∈ hexDigits width n, ascii.admits c = true := by
  induction width generalizing n with
  | zero => exact List.forall_mem_nil _
  | succ width ih =>
    rw [hexDigits]
    intro c hc
    rcases List.mem_append.mp hc with hc | hc
    · exact ih (n / 16) c hc
    · rw [List.mem_singleton.mp hc]
      exact hexDigit_admitted (n % 16) (Nat.mod_lt n (by decide))

theorem escapeUnit_admitted (n : Nat) : ∀ c ∈ escapeUnit n, ascii.admits c = true := by
  refine List.forall_mem_cons.mpr ⟨by decide, List.forall_mem_cons.mpr ⟨by decide, ?_⟩⟩
  exact hexDigits_admitted 4 n

theorem escapeCode_admitted (n : Nat) : ∀ c ∈ escapeCode n, ascii.admits c = true := by
  rw [escapeCode]
  split
  · exact escapeUnit_admitted n
  · exact List.forall_mem_append.mpr ⟨escapeUnit_admitted _, escapeUnit_admitted _⟩

/-- The written form of a character is within the repertoire, also if the character is not. -/
theorem escape_admitted (c : Char) : ∀ d ∈ r.escape c, r.admits d = true := by
  have hpair : ∀ d, ascii.admits d = true → ∀ e ∈ ['\\', d], r.admits e = true := by
    intro d hd
    exact List.forall_mem_cons.mpr ⟨admits_of_ascii (by decide),
      List.forall_mem_singleton.mpr (admits_of_ascii hd)⟩
  rw [escape]
  split
  · exact hpair '"' (by decide)
  split
  · exact hpair '\\' (by decide)
  split
  · rename_i h
    exact List.forall_mem_singleton.mpr h
  split
  · exact hpair 'n' (by decide)
  split
  · exact hpair 'r' (by decide)
  split
  · exact hpair 't' (by decide)
  split
  · exact hpair 'b' (by decide)
  split
  · exact hpair 'f' (by decide)
  · exact fun d hd => admits_of_ascii (escapeCode_admitted c.toNat d hd)

theorem quoteChars_admitted (s : List Char) : ∀ c ∈ r.quoteChars s, r.admits c = true := by
  have hmark : r.admits '"' = true := admits_of_ascii (by decide)
  refine List.forall_mem_cons.mpr ⟨hmark, List.forall_mem_append.mpr ⟨?_, ?_⟩⟩
  · intro c hc
    obtain ⟨d, -, hd⟩ := List.mem_flatMap.mp hc
    exact escape_admitted d c hd
  · exact List.forall_mem_singleton.mpr hmark

/-! ### Texts -/

namespace Spells

theorem of_ascii {s : String} (h : ascii.Spells s) : r.Spells s :=
  fun c hc => admits_of_ascii (h c hc)

theorem ofList {cs : List Char} (h : ∀ c ∈ cs, r.admits c = true) : r.Spells (String.ofList cs) := by
  rw [Spells, String.toList_ofList]
  exact h

theorem append {s t : String} (hs : r.Spells s) (ht : r.Spells t) : r.Spells (s ++ t) := by
  rw [Spells, String.toList_append]
  exact List.forall_mem_append.mpr ⟨hs, ht⟩

theorem intercalate {separator : String} {items : List String} (hseparator : r.Spells separator)
    (hitems : ∀ s ∈ items, r.Spells s) : r.Spells (separator.intercalate items) := by
  rw [Spells, String.toList_intercalate]
  induction items with
  | nil => exact List.forall_mem_nil _
  | cons s rest ih =>
    obtain ⟨hs, hrest⟩ := List.forall_mem_cons.mp hitems
    cases rest with
    | nil => simpa [List.intercalate, Spells] using hs
    | cons t rest =>
      have hcons : separator.toList.intercalate ((s :: t :: rest).map String.toList) =
          s.toList ++ (separator.toList ++ separator.toList.intercalate ((t :: rest).map _)) := rfl
      rw [hcons]
      exact List.forall_mem_append.mpr ⟨hs, List.forall_mem_append.mpr ⟨hseparator, ih hrest⟩⟩

theorem enclosed {opening closing : String} {items : List String} (hopening : r.Spells opening)
    (hclosing : r.Spells closing) (hitems : ∀ s ∈ items, r.Spells s) :
    r.Spells (Conformance.enclosed opening closing items) :=
  ((hopening.append (.intercalate (.of_ascii (by decide)) hitems)).append hclosing)

theorem quote (s : String) : r.Spells (r.quote s) := .ofList (quoteChars_admitted s.toList)

end Spells

/-! ### Numbers -/

theorem spells_natText (n : Nat) : r.Spells (toString n) := by
  have hchars : (toString n).toList = Nat.toDigits 10 n := by
    rw [Nat.toString_eq_repr, Nat.repr_eq_ofList_toDigits, String.toList_ofList]
  rw [Spells, hchars]
  exact fun c hc => admits_of_isDigit (Nat.isDigit_of_mem_toDigits (by decide) (by decide) hc)

theorem spells_intText (n : Int) : r.Spells (toString n) := by
  have hdigits : ∀ k : Nat, ∀ c ∈ Nat.toDigits 10 k, r.admits c = true := fun k c hc =>
    admits_of_isDigit (Nat.isDigit_of_mem_toDigits (by decide) (by decide) hc)
  rw [Spells]
  by_cases hn : 0 ≤ n
  · rw [Path.toList_toString_nonneg hn]
    exact hdigits n.toNat
  · rw [Path.toList_toString_neg hn]
    exact List.forall_mem_cons.mpr ⟨admits_of_ascii (by decide), hdigits (-n).toNat⟩

theorem spells_exponentText (e : Int) : r.Spells (exponentText e) := by
  have hdigits : r.Spells (toString e.natAbs) := spells_natText e.natAbs
  refine .append (.append (.of_ascii (by decide)) ?_) ?_
  · split <;> exact .of_ascii (by decide)
  · split
    · exact .append (.of_ascii (by decide)) hdigits
    · exact hdigits

theorem positional_admitted {digits : List Char} (h : ∀ c ∈ digits, r.admits c = true)
    (keepsPoint : Bool) (point : Int) :
    ∀ c ∈ positional keepsPoint digits point, r.admits c = true := by
  have hzeros : ∀ n, ∀ c ∈ List.replicate n '0', r.admits c = true := fun n c hc => by
    rw [List.eq_of_mem_replicate hc]
    exact admits_of_ascii (by decide)
  have hpoint : r.admits '.' = true := admits_of_ascii (by decide)
  rw [positional]
  split
  · exact List.forall_mem_append.mpr ⟨List.forall_mem_cons.mpr ⟨admits_of_ascii (by decide),
      List.forall_mem_cons.mpr ⟨hpoint, hzeros _⟩⟩, h⟩
  · have hwhole : ∀ c ∈ digits.take point.toNat ++
        List.replicate (point.toNat - digits.length) '0', r.admits c = true :=
      List.forall_mem_append.mpr ⟨fun c hc => h c (List.mem_of_mem_take hc), hzeros _⟩
    have hrest : ∀ c ∈ digits.drop point.toNat, r.admits c = true := fun c hc =>
      h c (List.mem_of_mem_drop hc)
    dsimp only
    split
    · split
      · exact List.forall_mem_append.mpr ⟨hwhole, List.forall_mem_cons.mpr ⟨hpoint, hzeros 1⟩⟩
      · exact hwhole
    · exact List.forall_mem_append.mpr ⟨hwhole, List.forall_mem_cons.mpr ⟨hpoint, hrest⟩⟩

theorem withLeadingPoint_admitted {digits : List Char} (h : ∀ c ∈ digits, r.admits c = true) :
    ∀ c ∈ withLeadingPoint digits, r.admits c = true := by
  rw [withLeadingPoint.eq_def]
  split
  · obtain ⟨hd, hrest⟩ := List.forall_mem_cons.mp h
    exact List.forall_mem_cons.mpr ⟨hd,
      List.forall_mem_cons.mpr ⟨admits_of_ascii (by decide), hrest⟩⟩
  · exact h

theorem spells_scaledDecimal (keepsPoint : Bool) (d : ScaledDecimal) :
    r.Spells (d.text keepsPoint) := by
  have hdigits : r.Spells (toString d.digits) := spells_natText d.digits
  rw [ScaledDecimal.text]
  split
  · exact .ofList (positional_admitted hdigits keepsPoint _)
  · exact .append (.ofList (withLeadingPoint_admitted hdigits)) (spells_exponentText _)

theorem spells_double {l : DoubleLayout} (hnan : r.Spells l.nan) (hinfinity : r.Spells l.infinity)
    (x : Double) : r.Spells (l.write x) := by
  have hmagnitude : r.Spells (l.magnitude x) := by
    rw [DoubleLayout.magnitude]
    split
    · exact hnan
    · exact hinfinity
    · exact spells_scaledDecimal _ _
  rw [DoubleLayout.write]
  split
  · exact .append (.of_ascii (by decide)) hmagnitude
  · exact hmagnitude

end Text.Repertoire

/-! ### Results -/

/-- What the computation returns, if it returns, is good. -/
def Returns {α : Type} (good : α → Prop) (x : Except Fault α) : Prop := ∀ a, x = .ok a → good a

namespace Returns

variable {α β : Type} {good : α → Prop} {better : β → Prop}

theorem ok {a : α} (h : good a) : Returns good (.ok a) := by
  intro b hb
  cases hb
  exact h

theorem error (f : Fault) : Returns good (.error f) := by
  intro b hb
  cases hb

theorem bind {x : Except Fault α} {next : α → Except Fault β} (hx : Returns good x)
    (hnext : ∀ a, good a → Returns better (next a)) : Returns better (x >>= next) := by
  cases x with
  | error f => exact error f
  | ok a => exact hnext a (hx a rfl)

theorem trivial (x : Except Fault α) : Returns (fun _ => True) x := fun _ _ => True.intro

theorem ite {p : Prop} [Decidable p] {x y : Except Fault α} (hx : Returns good x)
    (hy : Returns good y) : Returns good (if p then x else y) := by
  split
  · exact hx
  · exact hy

theorem mapM {f : α → Except Fault β} {xs : List α} (h : ∀ x, Returns better (f x)) :
    Returns (fun ys => ∀ y ∈ ys, better y) (xs.mapM f) := by
  induction xs with
  | nil => exact ok (List.forall_mem_nil _)
  | cons x xs ih =>
    rw [List.mapM_cons]
    exact bind (h x) fun y hy => bind ih fun ys hys => ok (List.forall_mem_cons.mpr ⟨hy, hys⟩)

end Returns

/-! ### Documents -/

namespace Heap

variable (h : Heap) (style : DocumentStyle)

theorem integerText_spelled (r : Text.Repertoire) (n : Int) : Returns r.Spells (integerText n) :=
  .ite (.ok (Text.Repertoire.spells_intText n)) (.error _)

theorem scalarDocument?_spelled {v : Value} {text : Except Fault String}
    (hv : scalarDocument? style v = some text) : Returns style.repertoire.Spells text := by
  have hdouble : ∀ x, style.repertoire.Spells (DoubleLayout.document.write x) :=
    Text.Repertoire.spells_double (.of_ascii (by decide)) (.of_ascii (by decide))
  cases v with
  | null =>
    cases hv
    exact .ok (.of_ascii (by decide))
  | bool b =>
    cases hv
    cases b <;> exact .ok (.of_ascii (by decide))
  | int n =>
    rw [scalarDocument?, Option.some.injEq] at hv
    rw [← hv]
    exact integerText_spelled _ n
  | float x =>
    cases hv
    exact .ok (hdouble x)
  | str s =>
    cases hv
    exact .ok (.quote s)
  | boxed b =>
    cases b with
    | int n =>
      rw [scalarDocument?, Option.some.injEq] at hv
      rw [← hv]
      exact integerText_spelled _ n
    | float x =>
      cases hv
      exact .ok (hdouble x)
    | str s =>
      cases hv
      exact .ok (.quote s)
  | _ => cases hv

theorem otherDocument_spelled (v : Value) :
    Returns style.repertoire.Spells (h.otherDocument style v) := by
  rw [otherDocument]
  cases style.unencodable with
  | refuse => exact .error _
  | describe => exact .bind (.trivial _) fun text _ => .ok (.quote text)

theorem documentAt_spelled (depth : Nat) (active : List Address) (v : Value) :
    Returns style.repertoire.Spells (h.documentAt style depth active v) := by
  have hascii : ∀ {s : String}, Text.Repertoire.ascii.Spells s → style.repertoire.Spells s :=
    fun hs => .of_ascii hs
  induction depth generalizing active v with
  | zero => exact .error _
  | succ depth ih =>
    rw [documentAt.eq_def]
    dsimp only
    split
    · rename_i text hv
      exact scalarDocument?_spelled style hv
    · split
      · split
        · refine .ite (h.otherDocument_spelled style _)
            (.ite (.ok (hascii (by decide))) (.ite (.error _) ?_))
          exact .bind (.mapM fun w => ih _ w) fun items hitems =>
            .ok (.enclosed (hascii (by decide)) (hascii (by decide)) hitems)
        · refine .ite (h.otherDocument_spelled style _)
            (.ite (.ok (hascii (by decide))) (.ite (.error _) ?_))
          -- an entry is written as its quoted key, a mark, and the document of its value
          have hitem : ∀ (inner : List Address) (e : Value × Value),
              Returns style.repertoire.Spells (do
                let key ← h.documentKey e.1
                return style.repertoire.quote key ++ ": " ++
                  (← h.documentAt style depth inner e.2)) := fun inner e =>
            .bind (.trivial _) fun key _ => .bind (ih inner e.2) fun text htext =>
              .ok (.append (.append (.quote key) (hascii (by decide))) htext)
          exact .bind (.mapM (hitem _)) fun items hitems =>
            .ok (.enclosed (hascii (by decide)) (hascii (by decide)) hitems)
        · exact h.otherDocument_spelled style _
      · exact h.otherDocument_spelled style _

theorem document_spelled (v : Value) : Returns style.repertoire.Spells (h.document style v) :=
  h.documentAt_spelled style nestingLimit [] v

end Heap

/-! ### Accessors -/

namespace Path

open Text.Repertoire

theorem accessorChars_admitted (name : List Char) :
    ∀ c ∈ accessorChars name, unicode.admits c = true := by
  have hopening : unicode.admits '[' = true := by decide
  have hclosing : ∀ c ∈ [']'], unicode.admits c = true :=
    List.forall_mem_singleton.mpr (by decide)
  rw [accessorChars]
  split
  · rename_i hnumeric
    simp only [isNumeric, Bool.and_eq_true, List.all_eq_true] at hnumeric
    exact List.forall_mem_append.mpr ⟨List.forall_mem_cons.mpr ⟨hopening, fun c hc =>
      admits_of_isDigit (hnumeric.2 c hc)⟩, hclosing⟩
  · split
    · rename_i hname
      simp only [Bool.and_eq_true] at hname
      exact fun c hc => admits_of_isNameChar (all_isNameChar_of_isIdentifier hname.1 c hc)
    · exact List.forall_mem_append.mpr ⟨List.forall_mem_cons.mpr ⟨hopening,
        quoteChars_admitted name⟩, hclosing⟩

theorem keyAccessor_spelled (h : Heap) (key : Value) :
    Returns unicode.Spells (keyAccessor h key) := by
  rw [keyAccessor]
  split
  · rename_i n hn
    exact .bind (Heap.integerText_spelled unicode n) fun text htext =>
      .ok (.append (.append (.of_ascii (by decide)) htext) (.of_ascii (by decide)))
  · exact .bind (.trivial _) fun text _ => .ok (.ofList (accessorChars_admitted text.toList))

theorem concat_spelled {base tail : String} (hbase : unicode.Spells base)
    (htail : unicode.Spells tail) : unicode.Spells (concat base tail) := by
  rw [concat]
  split
  · exact htail
  split
  · exact hbase
  split
  · exact .append hbase htail
  · exact .append (.append hbase (.of_ascii (by decide))) htail

theorem join_spelled {h : Heap} {path : String} (hpath : unicode.Spells path) (key : Value) :
    Returns unicode.Spells (join h path key) :=
  .bind (keyAccessor_spelled h key) fun _ haccessor => .ok (concat_spelled hpath haccessor)

end Path
end Conformance
