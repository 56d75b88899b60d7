import Conformance.Heap.Conversion.Container
import Conformance.Proofs.FaultCause
import Conformance.Proofs.ObjectEquality

/-!
# Pairs of fields

A tuple that declares fields is read as a dictionary is made of pairs: one element after the other,
each as a key with its value. The first element that is refused decides the fault, and none of these
faults says that a pattern is malformed. What is collected has pairwise different names, and pairs
that have different names already are collected as they stand.
-/

namespace Conformance

namespace Heap

variable {h : Heap} {f : Fault}

/-! ### The first element that is refused -/

def takePair (h : Heap) (i : Nat) (entries : List (Value × Value)) (item : Value) :
    Except Fault (List (Value × Value)) := do
  let pair ← h.sizedPair i item
  h.insertKey entries pair.1 pair.2

theorem collectPairs_cons (i : Nat) (entries : List (Value × Value)) (item : Value)
    (rest : List Value) :
    h.collectPairs h.sizedPair i entries (item :: rest) =
      h.takePair i entries item >>= fun held => h.collectPairs h.sizedPair (i + 1) held rest := by
  rw [collectPairs, takePair, bind_assoc]

theorem collectPairs_error_iff {i : Nat} {entries : List (Value × Value)} {items : List Value} :
    h.collectPairs h.sizedPair i entries items = .error f ↔
      ∃ before item after held, items = before ++ item :: after ∧
        h.collectPairs h.sizedPair i entries before = .ok held ∧
        h.takePair (i + before.length) held item = .error f := by
  induction items generalizing i entries with
  | nil => simp [collectPairs]
  | cons item rest ih =>
    rw [collectPairs_cons, bind_eq_error_iff]
    constructor
    · rintro (hitem | ⟨held, hheld, hrest⟩)
      · exact ⟨[], item, rest, entries, rfl, rfl, hitem⟩
      · obtain ⟨before, next, after, held', rfl, hbefore, hnext⟩ := ih.mp hrest
        refine ⟨item :: before, next, after, held', rfl, ?_, ?_⟩
        · rw [collectPairs_cons, hheld]
          exact hbefore
        · rw [List.length_cons, Nat.add_comm before.length, ← Nat.add_assoc]
          exact hnext
    · rintro ⟨before, next, after, held, hsplit, hbefore, hnext⟩
      cases before with
      | nil =>
        cases hsplit
        cases hbefore
        exact .inl hnext
      | cons first before =>
        cases hsplit
        rw [collectPairs_cons] at hbefore
        rw [List.length_cons, Nat.add_comm before.length, ← Nat.add_assoc] at hnext
        cases hheld : h.takePair i entries item with
        | error g =>
          rw [hheld] at hbefore
          cases hbefore
        | ok held' =>
          rw [hheld] at hbefore
          exact .inr ⟨held', rfl, ih.mpr ⟨before, next, after, held, rfl, hbefore, hnext⟩⟩

end Heap

/-! ### Why an element is refused -/

/-- Why an element of a tuple is refused as an entry of a dictionary. -/
inductive Fault.IsPairing : Fault → Prop where
  | length (i n : Nat) : IsPairing (.pairLength i n)
  | notSequence (i : Nat) : IsPairing (.pairNotSequence i)
  | unhashable (typeName : String) : IsPairing (.unhashable typeName)
  | signaling : IsPairing .signalingHash
  | incomparable {f : Fault} (hf : f.IsComparative) : IsPairing f
  | conversion (flaw : ConversionFlaw) : IsPairing (.conversion flaw)

namespace Pattern

variable {good : Fault → Prop} {check : Value → Except Fault Unit}

theorem checkFields_faultsOnly {fields : List (String × Pattern)}
    (h : ∀ f ∈ fields, FaultsOnly good (f.2.checkOperands check)) :
    FaultsOnly good (checkFields check fields) := by
  induction fields with
  | nil => exact .ok _
  | cons f rest ih =>
    obtain ⟨hf, hrest⟩ := List.forall_mem_cons.mp h
    exact .bind hf fun _ => ih hrest

theorem checkChoices_faultsOnly {choices : List Pattern}
    (h : ∀ p ∈ choices, FaultsOnly good (p.checkOperands check)) :
    FaultsOnly good (checkChoices check choices) := by
  induction choices with
  | nil => exact .ok _
  | cons p rest ih =>
    obtain ⟨hp, hrest⟩ := List.forall_mem_cons.mp h
    exact .bind hp fun _ => ih hrest

theorem checkOperands_faultsOnly (hcheck : ∀ v, FaultsOnly good (check v)) (p : Pattern) :
    FaultsOnly good (p.checkOperands check) := by
  induction p using childrenInduction with
  | step p ih =>
    cases p with
    | literal v | instanceOf v | satisfies v => exact hcheck v
    | arrayOf p | objectWithValues p | wrap o w p => exact ih p (List.mem_singleton_self p)
    | object u fields =>
      exact checkFields_faultsOnly fun f hf => ih f.2 (List.mem_map_of_mem hf)
    | oneOf choices => exact checkChoices_faultsOnly ih
    | _ => exact .ok _

end Pattern

namespace Heap

variable (h : Heap)

theorem checkHashable_faultsOnly (v : Value) : FaultsOnly Fault.IsPairing (h.checkHashable v) := by
  have hdepth : ∀ depth v, FaultsOnly Fault.IsPairing (h.checkHashableAt depth v) := by
    intro depth
    induction depth with
    | zero => exact fun _ => .error (.incomparable (.inl rfl))
    | succ depth ih =>
      have hitems : ∀ items : List Value,
          FaultsOnly Fault.IsPairing (items.forM (h.checkHashableAt depth)) := by
        intro items
        induction items with
        | nil => exact .ok _
        | cons v rest hrest => exact .bind (ih v) fun _ => hrest
      intro v
      rw [checkHashableAt.eq_def]
      dsimp only
      split
      · exact .ite (.error .signaling) (.ok _)
      · split
        any_goals exact .error (.unhashable _)
        · exact hitems _
        · exact hitems _
        · exact .ok _
        · exact Pattern.checkOperands_faultsOnly ih _
        · exact .ok _
      · exact .ok _
  exact hdepth nestingLimit v

theorem equalPart_faultsOnly (v w : Value) : FaultsOnly Fault.IsComparative (h.equalPart v w) :=
  .ite (.ok _) (h.equal_faultsOnly v w)

theorem insertKey_faultsOnly (entries : List (Value × Value)) (key value : Value) :
    FaultsOnly Fault.IsPairing (h.insertKey entries key value) := by
  refine .bind (h.checkHashable_faultsOnly key) fun _ => ?_
  refine .mono (fun _ => .incomparable) ?_
  induction entries with
  | nil => exact .ok _
  | cons e rest ih =>
    exact .bind (h.equalPart_faultsOnly e.1 key) fun _ => .ite (.ok _) (.bind ih fun _ => .ok _)

theorem takePair_faultsOnly (i : Nat) (entries : List (Value × Value)) (item : Value) :
    FaultsOnly Fault.IsPairing (h.takePair i entries item) := by
  refine .bind ?_ fun pair => h.insertKey_faultsOnly entries pair.1 pair.2
  rw [sizedPair]
  cases hparts : h.iterate? item with
  | none => exact .error (.notSequence i)
  | some parts =>
    have hlength : FaultsOnly Fault.IsPairing
        (.error (.pairLength i parts.length) : Except Fault (Value × Value)) :=
      .error (.length i _)
    refine .ite (.bind ?_ fun _ => hlength) ?_
    · rw [gather, hparts]
      exact .ite (.error (.conversion _)) (.ite (.error (.conversion _)) (.ok _))
    · split
      · exact .ok _
      · exact hlength

end Heap

theorem Fault.IsPairing.kind_ne {f : Fault} (hf : f.IsPairing) : f.kind ≠ "PatternError" := by
  cases hf with
  | incomparable hf => rcases hf with rfl | rfl <;> simp [kind]
  | conversion flaw => cases flaw <;> simp [kind, ConversionFlaw.kind]
  | _ => simp [kind]

/-! ### Names -/

theorem Value.eq_of_string? {v : Value} {s : String} (hv : v.string? = some s) :
    v = .str s ∨ v = .boxed (.str s) := by
  cases v with
  | str t =>
    cases hv
    exact .inl rfl
  | boxed b =>
    cases b with
    | str t =>
      cases hv
      exact .inr rfl
    | _ => cases hv
  | _ => cases hv

def entryNames (entries : List (Value × Value)) : List String := entries.filterMap (·.1.string?)

theorem entryNames_cons (e : Value × Value) (rest : List (Value × Value)) :
    entryNames (e :: rest) = e.1.string?.toList ++ entryNames rest := by
  rw [entryNames, List.filterMap_cons]
  cases e.1.string? <;> rfl

namespace Heap

variable {h : Heap}

theorem equalPart_of_string? {k l : Value} {s t : String} (hk : k.string? = some s)
    (hl : l.string? = some t) : h.equalPart k l = .ok (decide (s = t)) := by
  have hequal : h.equal k l = .ok (decide (s = t)) := by
    rcases Value.eq_of_string? hk with rfl | rfl <;>
      rcases Value.eq_of_string? hl with rfl | rfl <;> rfl
  rw [equalPart]
  split
  · rename_i heq
    rw [heq, hl] at hk
    rw [Option.some.inj hk, decide_eq_true rfl]
  · exact hequal

theorem checkHashable_of_string? {k : Value} {s : String} (hk : k.string? = some s) :
    h.checkHashable k = .ok () := by
  rcases Value.eq_of_string? hk with rfl | rfl <;> rfl

/-- A key that is present keeps its place, and a new one, which none of the others equals, goes to
the end. -/
theorem insertEntry_keys {eq : Value → Value → Except Fault Bool} {key value : Value}
    {entries held : List (Value × Value)} (hheld : insertEntry eq key value entries = .ok held) :
    held.map (·.1) = entries.map (·.1) ∨
      (held.map (·.1) = entries.map (·.1) ++ [key] ∧ ∀ e ∈ entries, eq e.1 key = .ok false) := by
  induction entries generalizing held with
  | nil =>
    cases hheld
    exact .inr ⟨rfl, List.forall_mem_nil _⟩
  | cons e rest ih =>
    obtain ⟨k, v⟩ := e
    rw [insertEntry, bind_eq_ok_iff] at hheld
    obtain ⟨same, heq, hheld⟩ := hheld
    cases same with
    | true =>
      cases hheld
      exact .inl rfl
    | false =>
      obtain ⟨more, hrest, hheld⟩ := bind_eq_ok_iff.mp hheld
      cases hheld
      rw [List.map_cons, List.map_cons]
      rcases ih hrest with hkeys | ⟨hkeys, hfresh⟩
      · exact .inl (by rw [hkeys])
      · exact .inr ⟨by rw [hkeys, List.cons_append], List.forall_mem_cons.mpr ⟨heq, hfresh⟩⟩

theorem entryNames_eq (entries : List (Value × Value)) :
    entryNames entries = (entries.map (·.1)).filterMap Value.string? := by
  rw [List.filterMap_map]
  rfl

theorem insertKey_nodup {key value : Value} {entries held : List (Value × Value)}
    (hheld : h.insertKey entries key value = .ok held) (hnames : (entryNames entries).Nodup) :
    (entryNames held).Nodup := by
  obtain ⟨-, -, hinsert⟩ := bind_eq_ok_iff.mp hheld
  rw [entryNames_eq] at hnames ⊢
  rcases insertEntry_keys hinsert with hkeys | ⟨hkeys, hfresh⟩
  · rwa [hkeys]
  · cases hkey : key.string? with
    | none => rwa [hkeys, List.filterMap_append, List.filterMap_cons_none hkey, List.filterMap_nil,
        List.append_nil]
    | some s =>
      rw [hkeys, List.filterMap_append, List.filterMap_cons_some hkey, List.filterMap_nil]
      refine List.nodup_append.mpr ⟨hnames, by simp, fun t ht s' hs' hts => ?_⟩
      -- the key was told apart from the one with its name, so they are no equal texts
      rw [List.mem_singleton.mp hs'] at hts
      obtain ⟨k, hk, hkt⟩ := List.mem_filterMap.mp ht
      obtain ⟨e, he, rfl⟩ := List.mem_map.mp hk
      have heq := hfresh e he
      rw [equalPart_of_string? (hkt.trans (congrArg some hts)) hkey] at heq
      simp at heq

theorem eraseEntry?_sublist {eq : Value → Value → Except Fault Bool} {key : Value}
    {entries rest : List (Value × Value)} (hrest : eraseEntry? eq key entries = .ok (some rest)) :
    rest.Sublist entries := by
  induction entries generalizing rest with
  | nil => cases hrest
  | cons e more ih =>
    obtain ⟨k, v⟩ := e
    unfold eraseEntry? at hrest
    obtain ⟨same, -, hrest⟩ := bind_eq_ok_iff.mp hrest
    cases same with
    | true =>
      cases hrest
      exact List.sublist_cons_self _ _
    | false =>
      obtain ⟨found, hmore, hrest⟩ := bind_eq_ok_iff.mp hrest
      cases found with
      | none => cases hrest
      | some kept =>
        cases hrest
        exact (ih hmore).cons_cons _

/-! ### Pairs that are collected -/

theorem collectPairs_nodup {i : Nat} {entries held : List (Value × Value)} {items : List Value}
    (hheld : h.collectPairs h.sizedPair i entries items = .ok held)
    (hnames : (entryNames entries).Nodup) : (entryNames held).Nodup := by
  induction items generalizing i entries with
  | nil =>
    cases hheld
    exact hnames
  | cons item rest ih =>
    rw [collectPairs_cons, bind_eq_ok_iff] at hheld
    obtain ⟨more, hitem, hrest⟩ := hheld
    obtain ⟨pair, -, hmore⟩ := bind_eq_ok_iff.mp hitem
    exact ih hrest (insertKey_nodup hmore hnames)

theorem insertEntry_of_fresh {eq : Value → Value → Except Fault Bool} {key value : Value}
    {entries : List (Value × Value)} (hfresh : ∀ e ∈ entries, eq e.1 key = .ok false) :
    insertEntry eq key value entries = .ok (entries ++ [(key, value)]) := by
  induction entries with
  | nil => rfl
  | cons e rest ih =>
    obtain ⟨he, hrest⟩ := List.forall_mem_cons.mp hfresh
    rw [insertEntry, he, ih hrest]
    rfl

def AreNamed (entries : List (Value × Value)) : Prop := ∀ e ∈ entries, ∃ s, e.1.string? = some s

theorem insertKey_of_fresh {key value : Value} {entries : List (Value × Value)} {s : String}
    (hentries : AreNamed entries) (hkey : key.string? = some s) (hfresh : s ∉ entryNames entries) :
    h.insertKey entries key value = .ok (entries ++ [(key, value)]) := by
  rw [insertKey, checkHashable_of_string? hkey]
  refine insertEntry_of_fresh fun e he => ?_
  obtain ⟨t, ht⟩ := hentries e he
  have hother : t ≠ s := by
    rintro rfl
    exact hfresh (List.mem_filterMap.mpr ⟨e, he, ht⟩)
  rw [equalPart_of_string? ht hkey, decide_eq_false hother]

theorem collectPairs_of_nodup {items : List Value} {entries held : List (Value × Value)} {i : Nat}
    (hitems : List.Forall₂ (fun item e => ∀ i, h.sizedPair i item = .ok e) items entries)
    (hnamed : AreNamed (held ++ entries)) (hnames : (entryNames (held ++ entries)).Nodup) :
    h.collectPairs h.sizedPair i held items = .ok (held ++ entries) := by
  induction hitems generalizing i held with
  | nil => rw [List.append_nil, collectPairs]
  | @cons item e items entries hitem _ ih =>
    obtain ⟨s, hs⟩ := hnamed e (List.mem_append_right held List.mem_cons_self)
    have hfresh : s ∉ entryNames held := by
      intro hmem
      rw [entryNames, List.filterMap_append, List.nodup_append] at hnames
      exact hnames.2.2 s hmem s (List.mem_filterMap.mpr ⟨e, List.mem_cons_self, hs⟩) rfl
    have hheld : AreNamed held := fun d hd => hnamed d (List.mem_append_left _ hd)
    have hassoc : held ++ e :: entries = (held ++ [e]) ++ entries := by simp
    rw [hassoc] at hnamed hnames ⊢
    rw [collectPairs_cons, takePair, hitem i]
    change (h.insertKey held e.1 e.2 >>= _) = _
    rw [insertKey_of_fresh hheld hs hfresh]
    exact ih hnamed hnames

/-! ### Values that are replaced -/

/-- The same keys in the same order, with related values. -/
def SameKeys (R : Value → Value → Prop) : List (Value × Value) → List (Value × Value) → Prop :=
  List.Forall₂ fun e d => e.1 = d.1 ∧ R e.2 d.2

variable {R : Value → Value → Prop}

/-- Where an entry goes depends on its key only. -/
theorem insertEntry_sameKeys {eq : Value → Value → Except Fault Bool} {key v w : Value}
    {es ds held : List (Value × Value)} (hentries : SameKeys R es ds) (hvalue : R v w)
    (hheld : insertEntry eq key v es = .ok held) :
    ∃ held', insertEntry eq key w ds = .ok held' ∧ SameKeys R held held' := by
  induction hentries generalizing held with
  | nil =>
    cases hheld
    exact ⟨_, rfl, .cons ⟨rfl, hvalue⟩ .nil⟩
  | @cons e d es ds he hrest ih =>
    obtain ⟨k, x⟩ := e
    obtain ⟨l, y⟩ := d
    obtain ⟨rfl, hxy⟩ := he
    rw [insertEntry, bind_eq_ok_iff] at hheld
    obtain ⟨same, heq, hheld⟩ := hheld
    rw [insertEntry, heq]
    cases same with
    | true =>
      cases hheld
      exact ⟨_, rfl, .cons ⟨rfl, hvalue⟩ hrest⟩
    | false =>
      obtain ⟨more, hmore, hheld⟩ := bind_eq_ok_iff.mp hheld
      cases hheld
      obtain ⟨more', hmore', hsame⟩ := ih hmore
      refine ⟨(k, y) :: more', ?_, .cons ⟨rfl, hxy⟩ hsame⟩
      rw [hmore']
      rfl

theorem insertKey_sameKeys {key v w : Value} {es ds held : List (Value × Value)}
    (hentries : SameKeys R es ds) (hvalue : R v w) (hheld : h.insertKey es key v = .ok held) :
    ∃ held', h.insertKey ds key w = .ok held' ∧ SameKeys R held held' := by
  obtain ⟨u, hhash, hinsert⟩ := bind_eq_ok_iff.mp hheld
  obtain ⟨held', hinsert', hsame⟩ := insertEntry_sameKeys hentries hvalue hinsert
  exact ⟨held', bind_eq_ok_iff.mpr ⟨u, hhash, hinsert'⟩, hsame⟩

end Heap

end Conformance
