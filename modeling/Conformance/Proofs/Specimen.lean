import Conformance.Proofs.ClosedPattern
import Conformance.Proofs.FaultCause
import Conformance.Proofs.RawPattern
import Conformance.Proofs.Reordering

/-!
# Specimens

A specimen is a value that can be given as a raw pattern too: an atom, a list of one specimen, or a
plain dictionary from texts to specimens. That it is nested too deeply is the only cause for which
a specimen does not stand for a pattern, and the fields that a dictionary declares are what its
entries stand for.
-/

namespace Conformance
namespace Heap

variable {h : Heap} {v : Value} {a : Address} {n m : Nat}

/-- The value is a document of literals: an atom, a list of one document, or a dictionary from
different texts to documents. The number bounds how many of them lie in each other. -/
inductive IsSpecimen (h : Heap) : Nat → Value → Prop where
  | atom {n : Nat} {v : Value} (hv : v.isAtom = true) : IsSpecimen h (n + 1) v
  | list {n : Nat} {a : Address} {x : Value} (ha : h.cell a = .sequence .list [x])
    (hx : IsSpecimen h n x) : IsSpecimen h (n + 1) (.ref a)
  | dict {n : Nat} {a : Address} {entries : List (Value × Value)}
    (ha : h.cell a = .dict .plain entries) (hkeys : ∀ e ∈ entries, ∃ s, e.1 = .str s)
    (hdistinct : (entries.map (·.1)).Nodup) (hparts : ∀ e ∈ entries, IsSpecimen h n e.2) :
    IsSpecimen h (n + 1) (.ref a)

/-! ### Lists and dictionaries -/

theorem isArrayLike_of_list {x : Value} (ha : h.cell a = .sequence .list [x]) :
    h.isArrayLike (.ref a) = true := by
  simp only [isArrayLike, isInstance, classes, ha, Cell.classes]
  decide

theorem category_of_list {x : Value} (ha : h.cell a = .sequence .list [x]) :
    h.category (.ref a) = .array := by
  simp only [category, structuralCategory, isArrayLike_of_list ha, if_true]

theorem plainEntries?_of_list {x : Value} (ha : h.cell a = .sequence .list [x]) :
    h.plainEntries? (.ref a) = none := by
  simp only [plainEntries?, ha]

theorem elements_of_list {x : Value} (ha : h.cell a = .sequence .list [x]) :
    (h.elements (.ref a)).toList = [x] := by
  simp only [elements, ha, Elements.toList]

theorem plainEntries?_of_dict {entries : List (Value × Value)}
    (ha : h.cell a = .dict .plain entries) : h.plainEntries? (.ref a) = some entries := by
  simp only [plainEntries?, ha]

theorem isArrayLike_of_dict {entries : List (Value × Value)}
    (ha : h.cell a = .dict .plain entries) : h.isArrayLike (.ref a) = false := by
  simp only [isArrayLike, isInstance, classes, ha, Cell.classes]
  decide

theorem holds_of_list_iff {x key y : Value} (ha : h.cell a = .sequence .list [x]) :
    h.Holds (.ref a) key y ↔ key = .int 0 ∧ y = x := by
  constructor
  · intro hy
    cases hy with
    | @element i _ _ hi =>
      rw [elements_of_list ha] at hi
      obtain ⟨hlt, rfl⟩ := List.getElem?_eq_some_iff.mp hi
      have hzero : i = 0 := by
        rw [List.length_singleton] at hlt
        omega
      subst hzero
      exact ⟨rfl, rfl⟩
    | entry hentries _ =>
      rw [plainEntries?_of_list ha] at hentries
      cases hentries
  · rintro ⟨rfl, rfl⟩
    have hy : (h.elements (.ref a)).toList[0]? = some y := by
      rw [elements_of_list ha]
      rfl
    exact .element (isArrayLike_of_list ha) hy

theorem holds_of_dict_iff {entries : List (Value × Value)} {key y : Value}
    (ha : h.cell a = .dict .plain entries) : h.Holds (.ref a) key y ↔ (key, y) ∈ entries := by
  have hentries := plainEntries?_of_dict ha
  constructor
  · intro hy
    cases hy with
    | element harray _ =>
      rw [isArrayLike_of_dict ha] at harray
      cases harray
    | entry hentries' hy =>
      rw [hentries] at hentries'
      cases hentries'
      exact hy
  · exact fun hy => .entry hentries hy

theorem IsSpecimen.part (hv : h.IsSpecimen (n + 1) v) {key x : Value} (hx : h.Holds v key x) :
    h.IsSpecimen n x := by
  cases hv with
  | atom hatom => exact absurd hx (not_holds_of_isAtom hatom)
  | list ha hy =>
    obtain ⟨-, rfl⟩ := (holds_of_list_iff ha).mp hx
    exact hy
  | dict ha _ _ hparts => exact hparts _ ((holds_of_dict_iff ha).mp hx)

theorem IsSpecimen.exists_succ (hv : h.IsSpecimen n v) : ∃ m, n = m + 1 := by
  cases hv <;> exact ⟨_, rfl⟩

theorem IsSpecimen.keys_of_dict {entries : List (Value × Value)} (hv : h.IsSpecimen n (.ref a))
    (ha : h.cell a = .dict .plain entries) :
    (∀ e ∈ entries, ∃ s, e.1 = .str s) ∧ (entries.map (·.1)).Nodup := by
  cases hv with
  | atom hatom => exact absurd hatom Bool.false_ne_true
  | list ha' _ => cases ha.symm.trans ha'
  | dict ha' hkeys hdistinct _ =>
    cases ha.symm.trans ha'
    exact ⟨hkeys, hdistinct⟩

theorem IsSpecimen.holds_unique (hv : h.IsSpecimen n v) {key x y : Value} (hx : h.Holds v key x)
    (hy : h.Holds v key y) : x = y := by
  cases hv with
  | atom hatom => exact absurd hx (not_holds_of_isAtom hatom)
  | list ha _ =>
    rw [holds_of_list_iff ha] at hx hy
    exact hx.2.trans hy.2.symm
  | dict ha _ hdistinct _ =>
    rw [holds_of_dict_iff ha] at hx hy
    have hfound := (find?_key_of_mem hdistinct hx).symm.trans (find?_key_of_mem hdistinct hy)
    exact (Prod.mk.inj (Option.some.inj hfound)).2

theorem IsSpecimen.reaches_unique (hv : h.IsSpecimen n v) {keys : List Value} {x y : Value}
    (hx : h.Reaches v keys x) (hy : h.Reaches v keys y) : x = y := by
  induction hx generalizing n with
  | here v =>
    cases hy
    rfl
  | @under v key x' w keys hx' hw ih =>
    cases hy with
    | under hy' hy =>
      have heq := hv.holds_unique hx' hy'
      subst heq
      cases n with
      | zero => cases hv
      | succ n => exact ih (hv.part hx') hy

/-! ### Patterns of specimens -/

theorem IsSpecimen.exists_toPatternAt (hv : h.IsSpecimen n v) :
    ∃ p, h.toPatternAt n v = .ok p := by
  induction hv with
  | @atom n v hv =>
    cases v with
    | undefined | null | bool b | int n | float x | str s => exact ⟨_, rfl⟩
    | _ => exact absurd hv Bool.false_ne_true
  | list ha _ ih =>
    obtain ⟨q, hq⟩ := ih
    exact ⟨.arrayOf q, (toPatternAt_element_eq_ok_iff ha).mpr ⟨rfl, q, hq, rfl⟩⟩
  | @dict n a entries ha hkeys _ _ ih =>
    have hnames : ∀ e ∈ entries, ∃ s, e.1.string? = some s := by
      intro e he
      obtain ⟨s, hs⟩ := hkeys e he
      exact ⟨s, by rw [hs]; rfl⟩
    obtain ⟨fields, hfields⟩ := exists_declareFields (h := h) hnames ih
    exact ⟨_, (toPatternAt_dict_eq_ok_iff ha).mpr ⟨rfl, fields, hfields, rfl⟩⟩

theorem IsSpecimen.of_toPatternAt (hv : h.IsSpecimen m v) {p : Pattern}
    (hp : h.toPatternAt n v = .ok p) : h.IsSpecimen n v := by
  induction hv generalizing n p with
  | atom hv =>
    obtain ⟨n, rfl⟩ := exists_succ_of_toPatternAt hp
    exact .atom hv
  | list ha _ ih =>
    obtain ⟨n, rfl⟩ := exists_succ_of_toPatternAt hp
    obtain ⟨-, q, hq, -⟩ := (toPatternAt_element_eq_ok_iff ha).mp hp
    exact .list ha (ih hq)
  | dict ha hkeys hdistinct _ ih =>
    obtain ⟨n, rfl⟩ := exists_succ_of_toPatternAt hp
    obtain ⟨-, fields, hfields, -⟩ := (toPatternAt_dict_eq_ok_iff ha).mp hp
    refine .dict ha hkeys hdistinct fun e he => ?_
    obtain ⟨q, hq⟩ := exists_build_of_declareFields hfields he
    exact ih e he hq

theorem declareFields_faultsOnly {good : Fault → Prop} {build : Value → Except Fault Pattern}
    {entries : List (Value × Value)} (hkeys : ∀ e ∈ entries, ∃ s, e.1 = .str s)
    (hbuild : ∀ e ∈ entries, FaultsOnly good (build e.2)) :
    FaultsOnly good (h.declareFields build entries) := by
  induction entries with
  | nil => exact .ok _
  | cons e rest ih =>
    obtain ⟨⟨s, hs⟩, hkeys⟩ := List.forall_mem_cons.mp hkeys
    obtain ⟨hfirst, hbuild⟩ := List.forall_mem_cons.mp hbuild
    rw [declareFields, hs]
    exact .bind hfirst fun p => .bind (ih hkeys hbuild) fun more => .ok _

theorem IsSpecimen.toPatternAt_faultsOnly (hv : h.IsSpecimen m v) (n : Nat) :
    FaultsOnly (· = .nestingLimit) (h.toPatternAt n v) := by
  induction hv generalizing n with
  | @atom m v hv =>
    cases n with
    | zero => exact .error rfl
    | succ n =>
      obtain ⟨p, hp⟩ := (IsSpecimen.atom (h := h) (n := n) hv).exists_toPatternAt
      rw [hp]
      exact .ok p
  | list ha _ ih =>
    cases n with
    | zero => exact .error rfl
    | succ n =>
      rw [toPatternAt]
      simp only [ha]
      exact .bind (ih n) fun q => .ok _
  | dict ha hkeys _ _ ih =>
    cases n with
    | zero => exact .error rfl
    | succ n =>
      rw [toPatternAt]
      simp only [ha]
      exact .bind (declareFields_faultsOnly hkeys fun e he => ih e he n) fun fields => .ok _

/-- No specimen stands for a wrapper, so all fields of one must be present. -/
theorem IsSpecimen.isWrapped_eq_false (hv : h.IsSpecimen m v) {p : Pattern}
    (hp : h.toPatternAt n v = .ok p) : p.isWrapped = false := by
  obtain ⟨n, rfl⟩ := exists_succ_of_toPatternAt hp
  cases hv with
  | atom hv =>
    cases v with
    | undefined | null | bool b | int n | float x | str s =>
      cases hp
      rfl
    | _ => exact absurd hv Bool.false_ne_true
  | list ha _ =>
    obtain ⟨-, q, -, rfl⟩ := (toPatternAt_element_eq_ok_iff ha).mp hp
    rfl
  | dict ha _ _ _ =>
    obtain ⟨-, fields, -, rfl⟩ := (toPatternAt_dict_eq_ok_iff ha).mp hp
    rfl

/-! ### Fields of dictionaries -/

section Fields

variable {build : Value → Except Fault Pattern} {entries : List (Value × Value)}
  {fields : List (String × Pattern)} {q : Pattern} {s : String}

theorem keys_of_declareFields (hkeys : ∀ e ∈ entries, ∃ s, e.1 = .str s)
    (hfields : h.declareFields build entries = .ok fields) :
    entries.map (·.1) = (fields.map (·.1)).map Value.str := by
  induction entries generalizing fields with
  | nil =>
    cases hfields
    rfl
  | cons e rest ih =>
    obtain ⟨⟨s, hs⟩, hkeys⟩ := List.forall_mem_cons.mp hkeys
    obtain ⟨name, p, more, hname, -, hmore, rfl⟩ := declareFields_cons_eq_ok_iff.mp hfields
    have heq : s = name := by
      rw [hs] at hname
      exact Option.some.inj hname
    rw [List.map_cons, ih hkeys hmore, hs, heq]
    rfl

theorem declared?_str_iff (hkeys : ∀ e ∈ entries, ∃ s, e.1 = .str s)
    (hdistinct : (entries.map (·.1)).Nodup)
    (hfields : h.declareFields build entries = .ok fields) :
    Pattern.declared? fields (.str s) = some q ↔
      ∃ x, (.str s, x) ∈ entries ∧ build x = .ok q := by
  have hrelated := declareFields_eq_ok_iff.mp hfields
  constructor
  · intro hq
    obtain ⟨name, hname, hmem⟩ := Pattern.mem_of_declared? hq
    cases hname
    obtain ⟨⟨key, x⟩, he, hkey, hbuild⟩ := exists_of_mem_right hrelated hmem
    obtain ⟨t, rfl⟩ := hkeys _ he
    cases hkey
    exact ⟨x, he, hbuild⟩
  · rintro ⟨x, he, hbuild⟩
    obtain ⟨⟨name, r⟩, hmem, hname, hr⟩ := exists_of_mem_left hrelated he
    cases hname
    cases hbuild.symm.trans hr
    have hnames : (fields.map (·.1)).Nodup := by
      rw [keys_of_declareFields hkeys hfields] at hdistinct
      have hne : ∀ s t, Value.str s ≠ Value.str t → s ≠ t := fun s t h heq => h (congrArg _ heq)
      exact List.Pairwise.of_map Value.str hne hdistinct
    rw [Pattern.declared?, Value.text?_str, Option.bind_some, find?_key_of_mem hnames hmem]
    rfl

end Fields

end Heap
end Conformance
