import Conformance.Heap.Change
import Conformance.Proofs.FieldPairs
import Conformance.Proofs.PatternTree
import Conformance.Proofs.Recipe

/-!
# Normal forms

A built pattern is in normal form: the fields of an object pattern have different names, in the
order of the entries that declare them, and there is something to choose from in a choice. This
rests on the heap: no dictionary has a name twice, whatever is done to it, and the patterns that a
heap holds were built before.
-/

namespace Conformance

/-! ### Patterns in normal form -/

namespace Pattern

/-- Are the fields told apart by their names, and is there something to choose from? -/
def isNormal : Pattern → Bool
  | object _ fields => decide (fields.map (·.1)).Nodup
  | oneOf choices => !choices.isEmpty
  | _ => true

theorem every_isNormal_of_isAtom {p : Pattern} (hp : p.isAtom = true) : p.Every isNormal := by
  cases p <;> first | exact every_of_children_eq_nil rfl rfl | cases hp

theorem every_isNormal_of_isBare {p : Pattern} (hp : p.isBare = true) : p.Every isNormal := by
  cases p with
  | object u fields =>
    cases fields with
    | nil => exact every_of_children_eq_nil rfl rfl
    | cons => cases hp
  | _ => first | exact every_of_children_eq_nil rfl rfl | cases hp

theorem NodeOf.trans {p q r : Pattern} (hpq : NodeOf p q) (hqr : NodeOf q r) : NodeOf p r := by
  induction hqr with
  | root => exact hpq
  | child hmem _ ih => exact .child hmem ih

end Pattern

/-! ### Heaps with patterns in normal form -/

/-- A dictionary that has no name twice, a pattern in normal form, or any other object. -/
def Cell.IsRegular : Cell → Prop
  | .dict _ entries => (entryNames entries).Nodup
  | .pattern p _ => p.Every Pattern.isNormal
  | _ => True

namespace Heap

def IsRegular (h : Heap) : Prop := ∀ a, (h.cell a).IsRegular

variable {h : Heap}

theorem IsRegular.dict (hh : h.IsRegular) {a : Address} {k : DictKind}
    {entries : List (Value × Value)} (ha : h.cell a = .dict k entries) :
    (entryNames entries).Nodup := by
  have hcell := hh a
  rwa [ha] at hcell

theorem IsRegular.pattern (hh : h.IsRegular) {a : Address} {p : Pattern} {parts : List Provenance}
    (ha : h.cell a = .pattern p parts) : p.Every Pattern.isNormal := by
  have hcell := hh a
  rwa [ha] at hcell

theorem names_of_declareFields {build : Value → Except Fault Pattern}
    {entries : List (Value × Value)} {fields : List (String × Pattern)}
    (hfields : h.declareFields build entries = .ok fields) :
    fields.map (·.1) = entryNames entries := by
  induction entries generalizing fields with
  | nil =>
    cases hfields
    rfl
  | cons e rest ih =>
    obtain ⟨name, p, more, hname, -, hmore, rfl⟩ := declareFields_cons_eq_ok_iff.mp hfields
    rw [List.map_cons, ih hmore, entryNames_cons, hname]
    rfl

theorem exists_entry_of_declareFields {build : Value → Except Fault Pattern}
    {entries : List (Value × Value)} {fields : List (String × Pattern)}
    (hfields : h.declareFields build entries = .ok fields) {f : String × Pattern}
    (hf : f ∈ fields) : ∃ e ∈ entries, build e.2 = .ok f.2 := by
  induction entries generalizing fields with
  | nil =>
    cases hfields
    exact absurd hf List.not_mem_nil
  | cons e rest ih =>
    obtain ⟨name, p, more, -, hp, hmore, rfl⟩ := declareFields_cons_eq_ok_iff.mp hfields
    rcases List.mem_cons.mp hf with rfl | hf
    · exact ⟨e, List.mem_cons_self, hp⟩
    · obtain ⟨d, hd, hbuild⟩ := ih hmore hf
      exact ⟨d, List.mem_cons_of_mem e hd, hbuild⟩

theorem every_isNormal_of_declareFields {build : Value → Except Fault Pattern}
    (hbuild : ∀ v p, build v = .ok p → p.Every Pattern.isNormal) {u : UnknownKeys}
    {entries : List (Value × Value)} {fields : List (String × Pattern)}
    (hfields : h.declareFields build entries = .ok fields)
    (hnames : (entryNames entries).Nodup) : (Pattern.object u fields).Every Pattern.isNormal := by
  refine Pattern.every_iff.mpr ⟨?_, fun q hq => ?_⟩
  · rw [Pattern.isNormal, names_of_declareFields hfields, decide_eq_true hnames]
  · obtain ⟨f, hf, rfl⟩ := List.mem_map.mp hq
    obtain ⟨e, -, he⟩ := exists_entry_of_declareFields hfields hf
    exact hbuild e.2 f.2 he

theorem IsRegular.toPatternAt (hh : h.IsRegular) {n : Nat} {v : Value} {p : Pattern}
    (hp : h.toPatternAt n v = .ok p) : p.Every Pattern.isNormal := by
  induction n generalizing v p with
  | zero => cases hp
  | succ n ih =>
    cases h.rawForm v with
    | atom hatom hv =>
      cases (hv n).symm.trans hp
      exact Pattern.every_isNormal_of_isAtom hatom
    | stored ha hv =>
      cases (hv n).symm.trans hp
      exact hh.pattern ha
    | unknown hv => cases (hv n).symm.trans hp
    | element ha hk =>
      obtain ⟨-, q, hq, rfl⟩ := (toPatternAt_element_eq_ok_iff ha).mp hp
      exact Pattern.every_iff.mpr ⟨rfl, List.forall_mem_singleton.mpr (ih hq)⟩
    | list ha hk hitems => exact absurd hp (toPatternAt_sequence_ne_ok ha hitems)
    | fields ha hk =>
      obtain ⟨-, fields, hfields, rfl⟩ := (toPatternAt_dict_eq_ok_iff ha).mp hp
      exact every_isNormal_of_declareFields (fun _ _ => ih) hfields (hh.dict ha)

theorem IsRegular.fieldEntries (hh : h.IsRegular) {v : Value} {entries : List (Value × Value)}
    (hentries : h.fieldEntries v = .ok entries) : (entryNames entries).Nodup := by
  cases v with
  | ref a =>
    cases ha : h.cell a with
    | sequence k items =>
      by_cases hk : k.family = .tuple
      · rw [fieldEntries_tuple ha hk] at hentries
        exact collectPairs_nodup hentries List.nodup_nil
      · cases k with
        | tuple | point => exact absurd rfl hk
        | _ =>
          simp only [Heap.fieldEntries, ha] at hentries
          cases hentries
    | dict k es =>
      simp only [Heap.fieldEntries, ha] at hentries
      cases hentries
      exact hh.dict ha
    | _ =>
      simp only [Heap.fieldEntries, ha] at hentries
      cases hentries
  | _ => cases hentries

end Heap

theorem Recipe.around_every_isNormal {r : Recipe} {v : Value} {p : Pattern}
    (hr : r.operand? = some v) (hp : p.Every Pattern.isNormal) :
    (r.around p).Every Pattern.isNormal := by
  cases r with
  | raw w => exact hp
  | arrayOf w | objectWithValues w | wrap o t w =>
    exact Pattern.every_iff.mpr ⟨rfl, List.forall_mem_singleton.mpr hp⟩
  | _ => cases hr

/-- There are as many choices as raw choices, all in normal form. -/
theorem Recipe.oneOf_every_isNormal {build : Value → Except Fault Pattern} {choices : List Value}
    {ps : List Pattern} (hsome : choices ≠ [])
    (hps : List.Forall₂ (fun v p => build v = .ok p) choices ps)
    (hbuild : ∀ v p, build v = .ok p → p.Every Pattern.isNormal) :
    (Pattern.oneOf ps).Every Pattern.isNormal := by
  refine Pattern.every_iff.mpr ⟨?_, ?_⟩
  · cases hps with
    | nil => exact absurd rfl hsome
    | cons => rfl
  · clear hsome
    induction hps with
    | nil => exact List.forall_mem_nil _
    | cons hv _ ih => exact List.forall_mem_cons.mpr ⟨hbuild _ _ hv, ih⟩

theorem Recipe.every_isNormal {h : Heap} (hh : h.IsRegular) {r : Recipe} {p : Pattern}
    (hp : r.build h = .ok p) : p.Every Pattern.isNormal := by
  cases hoperand : r.operand? with
  | some v =>
    rw [build_of_operand? hoperand, bind_eq_ok_iff] at hp
    obtain ⟨q, hq, hp⟩ := hp
    cases hp
    exact around_every_isNormal hoperand (hh.toPatternAt hq)
  | none =>
    cases r with
    | raw v | arrayOf v | objectWithValues v | wrap o w v => cases hoperand
    | bare q hq =>
      cases hp
      exact Pattern.every_isNormal_of_isBare hq
    | typeTag o name =>
      rw [build, Heap.tagPattern] at hp
      split at hp
      · cases hp
        exact Pattern.every_isNormal_of_isAtom rfl
      · obtain ⟨_, -, hp⟩ := bind_eq_ok_iff.mp hp
        cases hp
    | object u v =>
      obtain ⟨es, fields, hes, rfl, hfields⟩ := object_build_eq_ok_iff.mp hp
      exact Heap.every_isNormal_of_declareFields (fun _ _ => hh.toPatternAt)
        (Heap.declareFields_toPattern_eq_ok_iff.mpr hfields) (hh.fieldEntries hes)
    | oneOf choices =>
      obtain ⟨hsome, ps, rfl, hps⟩ := oneOf_build_eq_ok_iff.mp hp
      exact oneOf_every_isNormal hsome hps fun _ _ => hh.toPatternAt
    | satisfies g =>
      rw [build, Heap.predicatePattern] at hp
      split at hp
      · cases hp
        exact Pattern.every_isNormal_of_isAtom rfl
      · cases hp

/-! ### Changes in place -/

namespace Heap

variable {h h' : Heap} {object key value : Value}

/-- What a change with the given values does to one object of the heap. The types of the objects
stay as they are, and sets are not changed. -/
inductive Change (h : Heap) (given : List Value) : Heap → Prop where
  | insert {a : Address} {k : DictKind} {entries held : List (Value × Value)} {key value : Value}
    (ha : h.cell a = .dict k entries) (hkey : key ∈ given) (hvalue : value ∈ given)
    (hheld : h.insertKey entries key value = .ok held) : Change h given (h.update a (.dict k held))
  | erase {a : Address} {k : DictKind} {entries rest : List (Value × Value)}
    (ha : h.cell a = .dict k entries) (hrest : rest.Sublist entries) :
    Change h given (h.update a (.dict k rest))
  | items {a : Address} {k : SequenceKind} {r : Row} {xs ys : List Value}
    (ha : h.cell a = .sequence k xs) (hk : Row.ofKind? k = some r)
    (hys : ∀ y ∈ ys, y ∈ xs ∨ y ∈ given) : Change h given (h.update a (.sequence k ys))
  | bytes {a : Address} {content : List UInt8} (ha : h.cell a = .byteArray content)
    (content' : List UInt8) : Change h given (h.update a (.byteArray content'))

theorem setItem_change (hset : h.setItem object key value = .ok h') :
    h.Change [key, value] h' := by
  rw [Heap.setItem.eq_def] at hset
  dsimp only at hset
  split at hset
  · split at hset
    · cases hset
    · rename_i ha
      obtain ⟨held, hheld, hset⟩ := bind_eq_ok_iff.mp hset
      cases hset
      exact .insert ha (by simp) (by simp) hheld
    · rename_i ha
      split at hset
      · rename_i hk
        obtain ⟨_, -, hset⟩ := bind_eq_ok_iff.mp hset
        obtain ⟨_, -, hset⟩ := bind_eq_ok_iff.mp hset
        cases hset
        refine .items ha hk fun y hy => ?_
        rcases List.mem_or_eq_of_mem_set hy with hy | rfl
        · exact .inl hy
        · exact .inr (by simp)
      · cases hset
    · rename_i ha
      obtain ⟨_, -, hset⟩ := bind_eq_ok_iff.mp hset
      obtain ⟨_, -, hset⟩ := bind_eq_ok_iff.mp hset
      obtain ⟨_, -, hset⟩ := bind_eq_ok_iff.mp hset
      cases hset
      exact .bytes ha _
    · cases hset
  · cases hset

theorem appendItem_change (happend : h.appendItem object value = .ok h') :
    h.Change [value] h' := by
  rw [Heap.appendItem.eq_def] at happend
  dsimp only at happend
  split at happend
  · split at happend
    · rename_i ha
      split at happend
      · rename_i hk
        cases happend
        exact .items ha hk fun y hy => List.mem_append.mp hy
      · cases happend
    · rename_i ha
      obtain ⟨_, -, happend⟩ := bind_eq_ok_iff.mp happend
      cases happend
      exact .bytes ha _
    · cases happend
  · cases happend

theorem dropItem_change (hdrop : h.dropItem object key = .ok h') : h.Change [] h' := by
  rw [Heap.dropItem.eq_def] at hdrop
  dsimp only at hdrop
  split at hdrop
  · split at hdrop
    · cases hdrop
    · rename_i ha
      obtain ⟨_, -, hdrop⟩ := bind_eq_ok_iff.mp hdrop
      obtain ⟨found, hfound, hdrop⟩ := bind_eq_ok_iff.mp hdrop
      cases found with
      | some rest =>
        cases hdrop
        exact .erase ha (eraseEntry?_sublist hfound)
      | none =>
        obtain ⟨_, -, hdrop⟩ := bind_eq_ok_iff.mp hdrop
        cases hdrop
    · rename_i ha
      split at hdrop
      · rename_i hk
        obtain ⟨_, -, hdrop⟩ := bind_eq_ok_iff.mp hdrop
        obtain ⟨_, -, hdrop⟩ := bind_eq_ok_iff.mp hdrop
        cases hdrop
        exact .items ha hk fun y hy => .inl (List.mem_of_mem_eraseIdx hy)
      · cases hdrop
    · rename_i ha
      obtain ⟨_, -, hdrop⟩ := bind_eq_ok_iff.mp hdrop
      obtain ⟨_, -, hdrop⟩ := bind_eq_ok_iff.mp hdrop
      cases hdrop
      exact .bytes ha _
    · cases hdrop
  · cases hdrop

end Heap

/-! ### Heaps that come about -/

namespace Heap

variable {h h' : Heap}

/-- What holds of all objects and of a new one. -/
theorem forall_cell_alloc {motive : Cell → Prop} (hh : ∀ a, motive (h.cell a)) {c : Cell}
    (hc : motive c) (a : Address) : motive ((h.alloc c).1.cell a) := by
  rcases Nat.lt_trichotomy a h.cells.size with ha | rfl | ha
  · rw [cell_alloc_of_lt ha]
    exact hh a
  · rwa [cell_alloc_self]
  · have hold := hh a
    rw [cell, Array.getElem?_eq_none (Nat.le_of_lt ha)] at hold
    rwa [cell, Array.getElem?_eq_none (by rwa [Heap.alloc, Array.size_push])]

/-- What holds of all objects and of the one that takes the place of another. -/
theorem forall_cell_update {motive : Cell → Prop} (hh : ∀ b, motive (h.cell b)) (a : Address)
    {c : Cell} (hc : motive c) (b : Address) : motive ((h.update a c).cell b) := by
  by_cases hb : b = a
  · subst hb
    rw [cell, Heap.update, Array.getElem?_setIfInBounds_self]
    split
    · exact hc
    · rename_i hsize
      have hold := hh b
      rwa [cell, Array.getElem?_eq_none (Nat.le_of_not_lt hsize)] at hold
  · rw [cell_update_of_ne hb]
    exact hh b

theorem IsRegular.alloc (hh : h.IsRegular) {c : Cell} (hc : c.IsRegular) :
    (h.alloc c).1.IsRegular := forall_cell_alloc hh hc

theorem IsRegular.update (hh : h.IsRegular) (a : Address) {c : Cell} (hc : c.IsRegular) :
    (h.update a c).IsRegular := forall_cell_update hh a hc

theorem IsRegular.change (hh : h.IsRegular) {given : List Value} (hchange : h.Change given h') :
    h'.IsRegular := by
  cases hchange with
  | insert ha _ _ hheld => exact hh.update _ (insertKey_nodup hheld (hh.dict ha))
  | erase ha hrest =>
    have hnames : (entryNames _).Sublist (entryNames _) := hrest.filterMap _
    exact hh.update _ (hnames.nodup (hh.dict ha))
  | items | bytes => exact hh.update _ trivial

def collectEntries (h : Heap) (pairs : List (Value × Value)) :
    Except Fault (List (Value × Value)) :=
  pairs.foldlM (fun entries e => h.insertKey entries e.1 e.2) []

/-- A heap that comes about when objects are made and changed and patterns are built. -/
inductive Built : Heap → Prop where
  | empty : Built empty
  | dict {h : Heap} {pairs entries : List (Value × Value)} (k : DictKind) (hh : Built h)
    (hentries : h.collectEntries pairs = .ok entries) : Built (h.alloc (.dict k entries)).1
  | pattern {h : Heap} {r : Recipe} {p : Pattern} (parts : List Provenance) (hh : Built h)
    (hr : r.build h = .ok p) : Built (h.alloc (.pattern p parts)).1
  | sequence {h : Heap} (k : SequenceKind) (items : List Value) (hh : Built h) :
    Built (h.alloc (.sequence k items)).1
  | byteArray {h : Heap} (content : List UInt8) (hh : Built h) :
    Built (h.alloc (.byteArray content)).1
  | inst {h : Heap} (c : Class) (hh : Built h) : Built (h.alloc (.inst c)).1
  | predicate {h : Heap} (g : Predicate) (hh : Built h) : Built (h.alloc (.predicate g)).1
  | setItem {h h' : Heap} {object key value : Value} (hh : Built h)
    (hset : h.setItem object key value = .ok h') : Built h'
  | appendItem {h h' : Heap} {object value : Value} (hh : Built h)
    (happend : h.appendItem object value = .ok h') : Built h'
  | dropItem {h h' : Heap} {object key : Value} (hh : Built h)
    (hdrop : h.dropItem object key = .ok h') : Built h'

theorem collectEntries_nodup {pairs entries : List (Value × Value)}
    (hentries : h.collectEntries pairs = .ok entries) : (entryNames entries).Nodup := by
  refine foldlM_ok_induction (motive := fun held => (entryNames held).Nodup) ?_ ?_ hentries
  · exact fun _ hheld _ _ _ hmore => insertKey_nodup hmore hheld
  · exact List.nodup_nil

theorem Built.isRegular (hh : Built h) : h.IsRegular := by
  induction hh with
  | empty => exact fun _ => trivial
  | dict k _ hentries ih => exact ih.alloc (collectEntries_nodup hentries)
  | pattern parts _ hr ih => exact ih.alloc (Recipe.every_isNormal ih hr)
  | sequence | byteArray | inst | predicate => exact IsRegular.alloc ‹_› trivial
  | setItem _ hset ih => exact ih.change (setItem_change hset)
  | appendItem _ happend ih => exact ih.change (appendItem_change happend)
  | dropItem _ hdrop ih => exact ih.change (dropItem_change hdrop)

end Heap

end Conformance
