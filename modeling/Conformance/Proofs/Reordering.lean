import Conformance.Proofs.Comparison
import Conformance.Proofs.Conforms
import Mathlib.Data.List.Perm.Basic

/-!
# Reordered values

One value is another one reordered if it differs only in the order of the entries of plain
dictionaries, at any depth. As values may contain themselves, this is not a matter of induction on
the value: it is a relation that holds of parts where it holds of the whole.

A verdict does not turn from true to false when a value is reordered. Conformance itself need not
carry over, as the comparison with an operand may come to a fault earlier or later.
-/

namespace Conformance

open List (Forall₂)

/-! ### Reordered objects -/

def EntryRelated (r : Value → Value → Prop) (e e' : Value × Value) : Prop :=
  e.1 = e'.1 ∧ r e.2 e'.2

def EntriesReordered (r : Value → Value → Prop) (es es' : List (Value × Value)) : Prop :=
  ∃ ms, es.Perm ms ∧ Forall₂ (EntryRelated r) ms es'

/-- The objects are of one kind and their parts related, in order, except that the entries of plain
dictionaries may stand in any order. -/
inductive Cell.Reordered (r : Value → Value → Prop) : Cell → Cell → Prop where
  | sequence {k : SequenceKind} {xs ys : List Value} (h : Forall₂ r xs ys) :
    Reordered r (.sequence k xs) (.sequence k ys)
  | dict {k : DictKind} {es ms es' : List (Value × Value)} (hperm : es.Perm ms)
    (hkind : k = .plain ∨ ms = es) (h : Forall₂ (EntryRelated r) ms es') :
    Reordered r (.dict k es) (.dict k es')

namespace Cell.Reordered

variable {r q : Value → Value → Prop} {c d : Cell}

theorem mono (hrq : ∀ v w, r v w → q v w) (h : Cell.Reordered r c d) : Cell.Reordered q c d := by
  cases h with
  | sequence h => exact .sequence (h.imp hrq)
  | dict hperm hkind h =>
    exact .dict hperm hkind (h.imp fun e e' he => ⟨he.1, hrq e.2 e'.2 he.2⟩)

theorem symm (h : Cell.Reordered r c d) : Cell.Reordered (fun v w => r w v) d c := by
  cases h with
  | sequence h => exact .sequence h.flip
  | @dict k es ms es' hperm hkind h =>
    have hback : Forall₂ (EntryRelated fun v w => r w v) es' ms :=
      (h.imp fun e e' he => (⟨he.1.symm, he.2⟩ : EntryRelated (fun v w => r w v) e' e)).flip
    rcases hkind with rfl | rfl
    · -- to permute and then relate is to relate and then permute
      have hcomp : Relation.Comp (Forall₂ (EntryRelated r)) List.Perm es es' :=
        List.perm_comp_forall₂ hperm h
      obtain ⟨ns, hns, hperm'⟩ := hcomp
      refine .dict hperm'.symm (.inl rfl) ?_
      exact (hns.imp fun e e' he =>
        (⟨he.1.symm, he.2⟩ : EntryRelated (fun v w => r w v) e' e)).flip
    · exact .dict (.refl es') (.inr rfl) hback

end Cell.Reordered

namespace Heap

variable {h : Heap} {v w x : Value}

/-- Related values are the same value or objects of which one is the other with related parts, with
the entries of plain dictionaries in any order. -/
def IsReordering (h : Heap) (r : Value → Value → Prop) : Prop :=
  ∀ v w, r v w →
    v = w ∨ ∃ a b, v = .ref a ∧ w = .ref b ∧ (h.cell a).Reordered r (h.cell b)

/-- The second value is the first with the entries of plain dictionaries in it, at any depth, in any
order. -/
def Reordered (h : Heap) (v w : Value) : Prop := ∃ r, h.IsReordering r ∧ r v w

theorem Reordered.refl (v : Value) : h.Reordered v v := ⟨Eq, fun _ _ hvw => .inl hvw, rfl⟩

theorem Reordered.symm (hv : h.Reordered v w) : h.Reordered w v := by
  obtain ⟨r, hr, hvw⟩ := hv
  refine ⟨fun v w => r w v, fun x y hxy => ?_, hvw⟩
  rcases hr y x hxy with rfl | ⟨a, b, rfl, rfl, hcells⟩
  · exact .inl rfl
  · exact .inr ⟨b, a, rfl, rfl, hcells.symm⟩

/-- The relation is itself one that goes on to the parts. -/
theorem isReordering_reordered (h : Heap) : h.IsReordering h.Reordered := by
  rintro v w ⟨r, hr, hvw⟩
  rcases hr v w hvw with rfl | ⟨a, b, rfl, rfl, hcells⟩
  · exact .inl rfl
  · exact .inr ⟨a, b, rfl, rfl, hcells.mono fun x y hxy => ⟨r, hr, hxy⟩⟩

/-! ### What reordering keeps -/

theorem Reordered.classes_eq (hv : h.Reordered v w) : h.classes v = h.classes w := by
  rcases h.isReordering_reordered v w hv with rfl | ⟨a, b, rfl, rfl, hcells⟩
  · rfl
  · rw [classes, classes]
    generalize h.cell a = c, h.cell b = d at hcells
    cases hcells <;> rfl

theorem Reordered.isInstance_eq (hv : h.Reordered v w) (k : Class) :
    h.isInstance v k = h.isInstance w k := by
  rw [isInstance, isInstance, hv.classes_eq]

theorem Reordered.isArrayLike_eq (hv : h.Reordered v w) : h.isArrayLike v = h.isArrayLike w := by
  simp only [isArrayLike, hv.isInstance_eq]

theorem Reordered.category_eq (hv : h.Reordered v w) : h.category v = h.category w := by
  have hstructural : h.structuralCategory v = h.structuralCategory w := by
    rw [structuralCategory, structuralCategory, isCallable, isCallable, hv.isArrayLike_eq,
      hv.isInstance_eq]
  rcases h.isReordering_reordered v w hv with rfl | ⟨a, b, rfl, rfl, -⟩
  · rfl
  · exact hstructural

theorem Reordered.excuses_eq (hv : h.Reordered v w) (wrapper : Wrapper) :
    Matcher.excuses wrapper v = Matcher.excuses wrapper w := by
  rcases h.isReordering_reordered v w hv with rfl | ⟨a, b, rfl, rfl, -⟩
  · rfl
  · cases wrapper <;> rfl

theorem Reordered.hasNoFraction_iff (hv : h.Reordered v w) :
    v.HasNoFraction ↔ w.HasNoFraction := by
  rcases h.isReordering_reordered v w hv with rfl | ⟨a, b, rfl, rfl, -⟩
  · rfl
  · rfl

theorem Reordered.elements (hv : h.Reordered v w) :
    Forall₂ h.Reordered (h.elements v).toList (h.elements w).toList := by
  rcases h.isReordering_reordered v w hv with rfl | ⟨a, b, rfl, rfl, hcells⟩
  · exact List.forall₂_same.mpr fun x _ => .refl x
  · rw [Heap.elements, Heap.elements]
    generalize h.cell a = c, h.cell b = d at hcells
    cases hcells with
    | sequence hitems => exact hitems
    | dict _ _ _ => exact .nil

theorem Reordered.plainEntries (hv : h.Reordered v w) {es : List (Value × Value)}
    (hes : h.plainEntries? v = some es) :
    ∃ es', h.plainEntries? w = some es' ∧ EntriesReordered h.Reordered es es' := by
  rcases h.isReordering_reordered v w hv with rfl | ⟨a, b, rfl, rfl, hcells⟩
  · exact ⟨es, hes, es, .refl es, List.forall₂_same.mpr fun e _ => ⟨rfl, .refl e.2⟩⟩
  · rw [plainEntries?] at hes ⊢
    generalize h.cell a = c, h.cell b = d at hcells hes
    cases hcells with
    | sequence _ => cases hes
    | @dict k es₀ ms es' hperm _ hentries =>
      cases k with
      | plain =>
        cases hes
        exact ⟨es', rfl, ms, hperm, hentries⟩
      | _ => cases hes

end Heap

/-! ### Comparisons that cannot turn out false

Where a comparison of two objects is true, or the objects are the same, it is not false for the
objects reordered. It may end in a fault, though: other parts may be compared first.
-/

section Transfer

variable {eq : Value → Value → Except Fault Bool} {r : Value → Value → Prop}

/-- Wherever a comparison is true, it is not false for related values. -/
def Transfers (eq : Value → Value → Except Fault Bool) (r : Value → Value → Prop) : Prop :=
  ∀ x y x' y', r x x' → r y y' → eq x y = .ok true → eq x' y' ≠ .ok false

/-- No value equals the keys of two entries. -/
def KeysApart (eq : Value → Value → Except Fault Bool) (es : List (Value × Value)) : Prop :=
  ∀ key, ∀ d ∈ es, ∀ e ∈ es, eq d.1 key = .ok true → eq e.1 key = .ok true → d = e

namespace EntriesReordered

variable {es es' : List (Value × Value)}

theorem length_eq (h : EntriesReordered r es es') : es.length = es'.length := by
  obtain ⟨ms, hperm, hrelated⟩ := h
  exact hperm.length_eq.trans hrelated.length_eq

theorem exists_of_mem_right (h : EntriesReordered r es es') {e' : Value × Value} (he : e' ∈ es') :
    ∃ e ∈ es, EntryRelated r e e' := by
  obtain ⟨ms, hperm, hrelated⟩ := h
  obtain ⟨e, hmem, hr⟩ := Conformance.exists_of_mem_right hrelated he
  exact ⟨e, hperm.mem_iff.mpr hmem, hr⟩

theorem exists_of_mem_left (h : EntriesReordered r es es') {e : Value × Value} (he : e ∈ es) :
    ∃ e' ∈ es', EntryRelated r e e' := by
  obtain ⟨ms, hperm, hrelated⟩ := h
  exact Conformance.exists_of_mem_left hrelated (hperm.mem_iff.mp he)

end EntriesReordered

theorem transfer_items (ht : Transfers eq r) {xs ys xs' ys' : List Value}
    (h : Forall₂ (fun x y => eq x y = .ok true) xs ys) (hxs : Forall₂ r xs xs')
    (hys : Forall₂ r ys ys') : Forall₂ (fun x y => eq x y ≠ .ok false) xs' ys' := by
  induction h generalizing xs' ys' with
  | nil =>
    cases hxs
    cases hys
    exact .nil
  | cons hxy _ ih =>
    cases hxs with
    | cons hx hxs =>
      cases hys with
      | cons hy hys => exact .cons (ht _ _ _ _ hx hy hxy) (ih hxs hys)

namespace SequenceFamily

variable {family : SequenceFamily} {xs ys xs' ys' : List Value}

theorem agrees_self (hrefl : ∀ x, eq x x = .ok true) : family.Agrees eq xs xs := by
  cases family with
  | set => exact ⟨rfl, fun x hx => ⟨x, hx, hrefl x⟩⟩
  | _ => exact List.forall₂_same.mpr fun x _ => hrefl x

theorem equalWith_ne_false (ht : Transfers eq r) (h : family.Agrees eq xs ys)
    (hxs : Forall₂ r xs xs') (hys : Forall₂ r ys ys') :
    family.equalWith eq xs' ys' ≠ .ok false := by
  cases family with
  | tuple => exact equalItems_ne_false (transfer_items ht h hxs hys)
  | set =>
    obtain ⟨hlength, hwithin⟩ := h
    have hlength' : xs'.length = ys'.length := by
      rw [← hxs.length_eq, ← hys.length_eq, hlength]
    rw [equalWith, if_pos hlength']
    refine itemsWithin_ne_false fun x' hx' => ?_
    obtain ⟨x, hx, hr⟩ := exists_of_mem_right hxs hx'
    obtain ⟨y, hy, hxy⟩ := hwithin x hx
    obtain ⟨y', hy', hr'⟩ := exists_of_mem_left hys hy
    exact ⟨y', hy', ht x y x' y' hr hr' hxy⟩
  | _ =>
    have hitems := transfer_items ht h hxs hys
    rw [equalWith, if_pos hitems.length_eq]
    · exact equalItems_ne_false hitems
    all_goals simp

end SequenceFamily

namespace EntriesAgree

variable {inOrder : Bool} {as bs as' bs' : List (Value × Value)}

theorem self (hrefl : ∀ x, eq x x = .ok true) : EntriesAgree eq inOrder as as where
  length := rfl
  within e he := ⟨e, he, hrefl e.1, hrefl e.2⟩
  keys _ := List.forall₂_same.mpr fun x _ => hrefl x

theorem equalEntries_ne_false (ht : Transfers eq r) (h : EntriesAgree eq inOrder as bs)
    (hapart : KeysApart eq bs) (has : EntriesReordered r as as') (hbs : EntriesReordered r bs bs')
    (hkeys : inOrder = true → as'.map (·.1) = as.map (·.1) ∧ bs'.map (·.1) = bs.map (·.1)) :
    equalEntries eq inOrder as' bs' ≠ .ok false := by
  have hlength : ¬ as'.length ≠ bs'.length := by
    rw [← has.length_eq, ← hbs.length_eq, h.length]
    exact fun hne => hne rfl
  rw [equalEntries, if_neg hlength]
  refine ite_ne_false (entriesWithin_ne_false ?_ ?_) ?_
  · intro e' he' hnone
    obtain ⟨e, he, hkey, -⟩ := has.exists_of_mem_right he'
    obtain ⟨d, hd, hequal, -⟩ := h.within e he
    obtain ⟨d', hd', hkey', -⟩ := hbs.exists_of_mem_left hd
    have hfalse := lookupEntry_none hnone d' hd'
    rw [← hkey, ← hkey', hequal] at hfalse
    cases hfalse
  · intro e' he' w hw
    obtain ⟨e, he, hkey, hvalue⟩ := has.exists_of_mem_right he'
    obtain ⟨d, hd, hequal, htrue⟩ := h.within e he
    obtain ⟨d', hd', hequal', rfl⟩ := lookupEntry_some hw
    obtain ⟨f, hf, hfkey, hfvalue⟩ := hbs.exists_of_mem_right hd'
    -- the entry that the lookup comes to is still the one with the equal key
    have hsame : f = d := hapart e.1 f hf d hd (by rw [hfkey, hkey, hequal']) hequal
    rw [hsame] at hfvalue
    exact ht _ _ _ _ hvalue hfvalue htrue
  · cases hin : inOrder with
    | false => exact fun hf => by cases hf
    | true =>
      obtain ⟨hkeys, hkeys'⟩ := hkeys hin
      rw [if_pos rfl, hkeys, hkeys']
      exact equalItems_ne_false ((h.keys hin).imp fun x y hxy => by simp [hxy])

end EntriesAgree

theorem keys_eq_of_forall₂ {es es' : List (Value × Value)} (h : Forall₂ (EntryRelated r) es es') :
    es'.map (·.1) = es.map (·.1) := by
  induction h with
  | nil => rfl
  | cons he _ ih => rw [List.map_cons, List.map_cons, ih, he.1]

theorem DictKind.ne_plain_of_comparesOrder {j k : DictKind} (h : j.comparesOrder k = true) :
    j ≠ .plain ∧ k ≠ .plain := by
  simp only [DictKind.comparesOrder, Bool.and_eq_true, decide_eq_true_eq] at h
  simp [h]

/-- Two objects have the same value if a comparison says so or they are the same object. -/
def Cell.Same (eq : Value → Value → Except Fault Bool) (A B : Cell) : Prop :=
  A.equalWith eq B = .ok true ∨ A = B

namespace Cell.Same

theorem sequence {j k : SequenceKind} {xs ys : List Value} (hrefl : ∀ x, eq x x = .ok true)
    (h : Cell.Same eq (.sequence j xs) (.sequence k ys)) :
    j.family = k.family ∧ (j.yieldsTo k = true → j.family.Agrees eq ys xs) ∧
      (j.yieldsTo k = false → j.family.Agrees eq xs ys) := by
  rcases h with h | h
  · rw [Cell.equalWith] at h
    split at h
    · cases h
    · rename_i hfamily
      refine ⟨by simpa using hfamily, fun hyields => ?_, fun hyields => ?_⟩
      · rw [hyields, if_pos rfl] at h
        exact SequenceFamily.agrees_of_true h
      · rw [hyields, if_neg Bool.false_ne_true] at h
        exact SequenceFamily.agrees_of_true h
  · cases h
    exact ⟨rfl, fun _ => SequenceFamily.agrees_self hrefl,
      fun _ => SequenceFamily.agrees_self hrefl⟩

theorem dict {j k : DictKind} {as bs : List (Value × Value)} (hrefl : ∀ x, eq x x = .ok true)
    (h : Cell.Same eq (.dict j as) (.dict k bs)) :
    (j.yieldsTo k = true → EntriesAgree eq (j.comparesOrder k) bs as) ∧
      (j.yieldsTo k = false → EntriesAgree eq (j.comparesOrder k) as bs) := by
  rcases h with h | h
  · rw [Cell.equalWith] at h
    refine ⟨fun hyields => ?_, fun hyields => ?_⟩
    · rw [hyields, if_pos rfl] at h
      exact .of_true h
    · rw [hyields, if_neg Bool.false_ne_true] at h
      exact .of_true h
  · cases h
    exact ⟨fun _ => .self hrefl, fun _ => .self hrefl⟩

theorem reordered_self {A A' B : Cell} (hr : ∀ x, r x x) (h : Cell.Same eq A B ∨ Cell.Same eq B A)
    (hA : A.Reordered r A') : B.Reordered r B := by
  have hentries : ∀ es : List (Value × Value), Forall₂ (EntryRelated r) es es := fun es =>
    List.forall₂_same.mpr fun e _ => ⟨rfl, hr e.2⟩
  have hself : ∀ k es, (Cell.dict k es).Reordered r (.dict k es) := fun k es =>
    .dict (.refl es) (.inr rfl) (hentries es)
  have hitems : ∀ k xs, (Cell.sequence k xs).Reordered r (.sequence k xs) := fun k xs =>
    .sequence (List.forall₂_same.mpr fun x _ => hr x)
  cases hA with
  | sequence _ =>
    cases B with
    | sequence k ys => exact hitems k ys
    | _ => rcases h with (h | h) | (h | h) <;> cases h
  | dict _ _ _ =>
    cases B with
    | dict k bs => exact hself k bs
    | _ => rcases h with (h | h) | (h | h) <;> cases h

theorem equalWith_ne_false {A B A' B' : Cell} (hrefl : ∀ x, eq x x = .ok true)
    (ht : Transfers eq r) (h : Cell.Same eq A B) (hA : A.Reordered r A') (hB : B.Reordered r B')
    (hapartA : ∀ k es, A = .dict k es → KeysApart eq es)
    (hapartB : ∀ k es, B = .dict k es → KeysApart eq es) : A'.equalWith eq B' ≠ .ok false := by
  cases hA with
  | @sequence j xs xs' hxs =>
    cases hB with
    | @sequence k ys ys' hys =>
      obtain ⟨hfamily, hled, hleads⟩ := h.sequence hrefl
      rw [Cell.equalWith, if_neg (not_not.mpr hfamily)]
      cases hyields : j.yieldsTo k with
      | true => exact SequenceFamily.equalWith_ne_false ht (hled hyields) hys hxs
      | false => exact SequenceFamily.equalWith_ne_false ht (hleads hyields) hxs hys
    | dict _ _ _ => rcases h with h | h <;> cases h
  | @dict j as ms as' hperm hkind has =>
    cases hB with
    | sequence _ => rcases h with h | h <;> cases h
    | @dict k bs ns bs' hperm' hkind' hbs =>
      obtain ⟨hled, hleads⟩ := h.dict hrefl
      have hkeys : j.comparesOrder k = true →
          as'.map (·.1) = as.map (·.1) ∧ bs'.map (·.1) = bs.map (·.1) := by
        intro horder
        obtain ⟨hj, hk⟩ := DictKind.ne_plain_of_comparesOrder horder
        obtain rfl := hkind.resolve_left hj
        obtain rfl := hkind'.resolve_left hk
        exact ⟨keys_eq_of_forall₂ has, keys_eq_of_forall₂ hbs⟩
      rw [Cell.equalWith]
      cases hyields : j.yieldsTo k with
      | true =>
        exact (hled hyields).equalEntries_ne_false ht (hapartA j as rfl) ⟨ns, hperm', hbs⟩
          ⟨ms, hperm, has⟩ fun horder => (hkeys horder).symm
      | false =>
        exact (hleads hyields).equalEntries_ne_false ht (hapartB k bs rfl) ⟨ms, hperm, has⟩
          ⟨ns, hperm', hbs⟩ hkeys

end Cell.Same

end Transfer

namespace Heap

variable {h : Heap} {n : Nat} {a b : Address} {x y : Value} {r : Value → Value → Prop}

/-- No value equals the keys of two entries of a dictionary, however deep the comparison goes. So it
is with every dictionary that is filled by lookups, as a key that is found gets no second entry. -/
def KeysUnambiguous (h : Heap) : Prop :=
  ∀ a k es, h.cell a = .dict k es → ∀ n, KeysApart (h.partAt n) es

theorem IsSound.keysUnambiguous (hsound : h.IsSound) : h.KeysUnambiguous := by
  intro a k es ha n key d hd e he hdkey hekey
  have hsame : ∀ x, h.partAt n x key = .ok true → h.SameAt n x key := fun _ =>
    sameAt_of_partAt fun _ _ => likeAt_of_equalAt hsound
  exact hsound.unique ha hd he (hsame _ hdkey) (hsame _ hekey)

theorem same_of_partAt (hab : h.partAt (n + 1) (.ref a) (.ref b) = .ok true) :
    Cell.Same (h.partAt n) (h.cell a) (h.cell b) := by
  by_cases heq : a = b
  · exact .inr (congrArg h.cell heq)
  · rw [partAt_of_ne (by simpa using heq), equalAt_ref, if_neg heq] at hab
    exact .inl hab

theorem byteContent?_of_reordered {A : Cell} (hA : (h.cell a).Reordered r A) :
    h.byteContent? (.ref a) = none := by
  rw [byteContent?]
  generalize h.cell a = c at hA
  cases hA <;> rfl

theorem exists_ref_left {A : Cell} (hA : (h.cell a).Reordered r A)
    (hy : h.partAt (n + 1) (.ref a) y = .ok true) : ∃ b, y = .ref b := by
  have hcontent := byteContent?_of_reordered hA
  cases y with
  | ref b => exact ⟨b, rfl⟩
  | _ => simp [partAt, equalAt, hcontent, Value.equalSimple_ref_left, Value.refusesComparison,
      Value.isSignaling, Value.isReal, Value.number?] at hy

theorem exists_ref_right {A : Cell} (hA : (h.cell a).Reordered r A)
    (hy : h.partAt (n + 1) y (.ref a) = .ok true) : ∃ b, y = .ref b := by
  have hcontent := byteContent?_of_reordered hA
  cases y with
  | ref b => exact ⟨b, rfl⟩
  | _ => simp [partAt, equalAt, hcontent, Value.equalSimple_ref_right, Value.refusesComparison,
      Value.isSignaling, Value.isReal, Value.number?] at hy

/-- Parts that are equal are not found unequal once they are reordered. -/
theorem partAt_transfers (hkeys : h.KeysUnambiguous) (n : Nat) :
    Transfers (h.partAt n) h.Reordered := by
  induction n with
  | zero =>
    intro x y x' y' _ _ _ hfalse
    rw [partAt] at hfalse
    split at hfalse <;> cases hfalse
  | succ n ih =>
    -- both values are objects with parts, whose parts are compared one level down
    have hrefs : ∀ a b a' b', Cell.Same (h.partAt n) (h.cell a) (h.cell b) →
        (h.cell a).Reordered h.Reordered (h.cell a') →
        (h.cell b).Reordered h.Reordered (h.cell b') →
        h.partAt (n + 1) (.ref a') (.ref b') ≠ .ok false := by
      intro a b a' b' hsame ha hb
      by_cases heq : a' = b'
      · rw [heq, partAt_self]
        exact fun hf => by cases hf
      · rw [partAt_of_ne (by simpa using heq), equalAt_ref, if_neg heq]
        exact hsame.equalWith_ne_false (partAt_self n) ih ha hb (fun k es hes => hkeys a k es hes n)
          fun k es hes => hkeys b k es hes n
    intro x y x' y' hx hy hxy
    rcases h.isReordering_reordered x x' hx with rfl | ⟨a, a', rfl, rfl, ha⟩
    · rcases h.isReordering_reordered y y' hy with rfl | ⟨b, b', rfl, rfl, hb⟩
      · simp [hxy]
      -- a value that stays as it is and equals an object with parts is one itself
      · obtain ⟨a, rfl⟩ := exists_ref_right hb hxy
        have hsame := same_of_partAt hxy
        exact hrefs a b a b' hsame (Cell.Same.reordered_self .refl (.inr hsame) hb) hb
    · obtain ⟨b, rfl⟩ := exists_ref_left ha hxy
      have hsame := same_of_partAt hxy
      rcases h.isReordering_reordered _ y' hy with rfl | ⟨b₀, b', hb₀, rfl, hb⟩
      · exact hrefs a b a' b hsame ha (Cell.Same.reordered_self .refl (.inl hsame) ha)
      · cases hb₀
        exact hrefs a b a' b' hsame ha hb

end Heap
end Conformance
