import Conformance.Heap.Equality
import Mathlib.Data.List.Forall2

/-!
# Comparisons of objects

Objects are compared part by part, and every comparison of parts may end in a fault. A comparison of
objects is true only if those of certain parts are, and it is not false if those of certain parts
are not.
-/

namespace Conformance

open List (Forall₂)

/-! ### Steps that may fail -/

theorem bind_eq_ok_iff {ε α β : Type} {x : Except ε α} {next : α → Except ε β} {b : β} :
    (x >>= next) = .ok b ↔ ∃ a, x = .ok a ∧ next a = .ok b := by
  cases x <;> simp [Bind.bind, Except.bind]

theorem bind_unit_eq_ok_iff {ε : Type} {x y : Except ε Unit} :
    (do x; y) = .ok () ↔ x = .ok () ∧ y = .ok () := by
  cases x <;> simp [Bind.bind, Except.bind]

theorem bind_eq_error_iff {ε α β : Type} {x : Except ε α} {next : α → Except ε β} {e : ε} :
    (x >>= next) = .error e ↔ x = .error e ∨ ∃ a, x = .ok a ∧ next a = .error e := by
  cases x <;> simp [Bind.bind, Except.bind]

theorem mapM_eq_ok_iff {ε α β : Type} {f : α → Except ε β} {xs : List α} {ys : List β} :
    xs.mapM f = .ok ys ↔ Forall₂ (fun x y => f x = .ok y) xs ys := by
  induction xs generalizing ys with
  | nil => simp [pure, Except.pure, eq_comm]
  | cons x xs ih =>
    simp only [List.mapM_cons, bind_eq_ok_iff, List.forall₂_cons_left_iff, ih]
    simp [pure, Except.pure, eq_comm]

/-- What every step keeps holds of the result. -/
theorem foldlM_ok_induction {ε α β : Type} {step : β → α → Except ε β} {motive : β → Prop}
    {xs : List α} {b b' : β}
    (hstep : ∀ b, motive b → ∀ x ∈ xs, ∀ b', step b x = .ok b' → motive b') (hb : motive b)
    (hfold : xs.foldlM step b = .ok b') : motive b' := by
  induction xs generalizing b with
  | nil =>
    cases hfold
    exact hb
  | cons x xs ih =>
    obtain ⟨more, hmore, hrest⟩ := bind_eq_ok_iff.mp hfold
    refine ih (fun b hb y hy => hstep b hb y (List.mem_cons_of_mem x hy)) ?_ hrest
    exact hstep b hb x List.mem_cons_self more hmore

/-! ### Related lists -/

section Related

variable {α β : Type} {r : α → β → Prop} {xs : List α} {ys : List β}

theorem exists_of_mem_right (h : Forall₂ r xs ys) {y : β} (hy : y ∈ ys) : ∃ x ∈ xs, r x y := by
  induction h with
  | nil => exact absurd hy List.not_mem_nil
  | @cons x z xs ys hxz _ ih =>
    rcases List.mem_cons.mp hy with rfl | hmem
    · exact ⟨x, List.mem_cons_self, hxz⟩
    · obtain ⟨w, hw, hr⟩ := ih hmem
      exact ⟨w, List.mem_cons_of_mem x hw, hr⟩

theorem exists_of_mem_left (h : Forall₂ r xs ys) {x : α} (hx : x ∈ xs) : ∃ y ∈ ys, r x y := by
  obtain ⟨y, hy, hr⟩ := exists_of_mem_right h.flip hx
  exact ⟨y, hy, hr⟩

theorem forall₂_of_mem {s : α → β → Prop} (h : Forall₂ r xs ys)
    (hrs : ∀ x ∈ xs, ∀ y ∈ ys, r x y → s x y) : Forall₂ s xs ys := by
  induction h with
  | nil => exact .nil
  | cons hxy _ ih =>
    refine .cons (hrs _ List.mem_cons_self _ List.mem_cons_self hxy) (ih fun x hx y hy => ?_)
    exact hrs x (List.mem_cons_of_mem _ hx) y (List.mem_cons_of_mem _ hy)

theorem forall₂_iff_getElem? : Forall₂ r xs ys ↔ xs.length = ys.length ∧
    ∀ (i : Nat) x y, xs[i]? = some x → ys[i]? = some y → r x y := by
  rw [List.forall₂_iff_get]
  refine and_congr_right fun _ => ⟨fun h i x y hx hy => ?_, fun h i hi hi' => ?_⟩
  · obtain ⟨hi, rfl⟩ := List.getElem?_eq_some_iff.mp hx
    obtain ⟨hi', rfl⟩ := List.getElem?_eq_some_iff.mp hy
    exact h i hi hi'
  · exact h i _ _ (List.getElem?_eq_getElem hi) (List.getElem?_eq_getElem hi')

end Related

/-! ### Parts -/

section Comparisons

variable {eq : Value → Value → Except Fault Bool}

theorem ite_ne_false {x y : Except Fault Bool} (hx : x ≠ .ok false) (hy : y ≠ .ok false) :
    (do if ← x then y else return false) ≠ .ok false := by
  rcases x with f | b
  · exact fun hf => by cases hf
  · cases b with
    | true => exact hy
    | false => exact absurd rfl hx

theorem ite_true {x y : Except Fault Bool}
    (h : (do if ← x then y else return false) = .ok true) : x = .ok true ∧ y = .ok true := by
  rcases x with f | b
  · cases h
  · cases b with
    | true => exact ⟨rfl, h⟩
    | false => cases h

theorem equalItems_true {xs ys : List Value} (h : equalItems eq xs ys = .ok true) :
    Forall₂ (fun x y => eq x y = .ok true) xs ys := by
  induction xs generalizing ys with
  | nil =>
    cases ys with
    | nil => exact .nil
    | cons y ys => cases h
  | cons x xs ih =>
    cases ys with
    | nil => cases h
    | cons y ys =>
      obtain ⟨hxy, hrest⟩ := ite_true h
      exact .cons hxy (ih hrest)

theorem equalItems_ne_false {xs ys : List Value}
    (h : Forall₂ (fun x y => eq x y ≠ .ok false) xs ys) : equalItems eq xs ys ≠ .ok false := by
  induction h with
  | nil => exact fun hf => by cases hf
  | cons hxy _ ih => exact ite_ne_false hxy ih

theorem anyM_true {f : Value → Except Fault Bool} {ys : List Value} (h : ys.anyM f = .ok true) :
    ∃ y ∈ ys, f y = .ok true := by
  induction ys with
  | nil => cases h
  | cons y ys ih =>
    rw [List.anyM] at h
    rcases hy : f y with g | b
    · rw [hy] at h
      cases h
    · cases b with
      | true => exact ⟨y, List.mem_cons_self, hy⟩
      | false =>
        rw [hy] at h
        obtain ⟨z, hz, htrue⟩ := ih h
        exact ⟨z, List.mem_cons_of_mem y hz, htrue⟩

theorem anyM_ne_false {f : Value → Except Fault Bool} {ys : List Value}
    (h : ∃ y ∈ ys, f y ≠ .ok false) : ys.anyM f ≠ .ok false := by
  induction ys with
  | nil =>
    obtain ⟨y, hy, -⟩ := h
    exact absurd hy List.not_mem_nil
  | cons y ys ih =>
    rw [List.anyM]
    rcases hy : f y with g | b
    · exact fun hf => by cases hf
    · cases b with
      | true => exact fun hf => by cases hf
      | false =>
        obtain ⟨z, hz, hne⟩ := h
        rcases List.mem_cons.mp hz with rfl | hmem
        · exact absurd hy hne
        · exact ih ⟨z, hmem, hne⟩

theorem itemsWithin_true {xs ys : List Value} (h : itemsWithin eq ys xs = .ok true) :
    ∀ x ∈ xs, ∃ y ∈ ys, eq x y = .ok true := by
  induction xs with
  | nil => exact List.forall_mem_nil _
  | cons x xs ih =>
    obtain ⟨hx, hrest⟩ := ite_true h
    exact List.forall_mem_cons.mpr ⟨anyM_true hx, ih hrest⟩

theorem itemsWithin_ne_false {xs ys : List Value} (h : ∀ x ∈ xs, ∃ y ∈ ys, eq x y ≠ .ok false) :
    itemsWithin eq ys xs ≠ .ok false := by
  induction xs with
  | nil => exact fun hf => by cases hf
  | cons x xs ih =>
    obtain ⟨hx, hrest⟩ := List.forall_mem_cons.mp h
    exact ite_ne_false (anyM_ne_false hx) (ih hrest)

theorem lookupEntry_some {key w : Value} {es : List (Value × Value)}
    (h : lookupEntry eq key es = .ok (some w)) : ∃ e ∈ es, eq e.1 key = .ok true ∧ e.2 = w := by
  induction es with
  | nil => cases h
  | cons e es ih =>
    rw [lookupEntry] at h
    rcases he : eq e.1 key with f | b
    · rw [he] at h
      cases h
    · rw [he] at h
      cases b with
      | true =>
        cases h
        exact ⟨e, List.mem_cons_self, he, rfl⟩
      | false =>
        obtain ⟨d, hd, hkey, hw⟩ := ih h
        exact ⟨d, List.mem_cons_of_mem e hd, hkey, hw⟩

theorem lookupEntry_none {key : Value} {es : List (Value × Value)}
    (h : lookupEntry eq key es = .ok none) : ∀ e ∈ es, eq e.1 key = .ok false := by
  induction es with
  | nil => exact List.forall_mem_nil _
  | cons e es ih =>
    rw [lookupEntry] at h
    rcases he : eq e.1 key with f | b
    · rw [he] at h
      cases h
    · rw [he] at h
      cases b with
      | true => cases h
      | false => exact List.forall_mem_cons.mpr ⟨he, ih h⟩

theorem entriesWithin_true {as bs : List (Value × Value)} (h : entriesWithin eq bs as = .ok true) :
    ∀ e ∈ as, ∃ d ∈ bs, eq d.1 e.1 = .ok true ∧ eq e.2 d.2 = .ok true := by
  induction as with
  | nil => exact List.forall_mem_nil _
  | cons e as ih =>
    rw [entriesWithin] at h
    rcases hl : lookupEntry eq e.1 bs with f | found
    · rw [hl] at h
      cases h
    · rw [hl] at h
      cases found with
      | none => cases h
      | some w =>
        obtain ⟨hew, hrest⟩ := ite_true h
        obtain ⟨d, hd, hkey, rfl⟩ := lookupEntry_some hl
        exact List.forall_mem_cons.mpr ⟨⟨d, hd, hkey, hew⟩, ih hrest⟩

theorem entriesWithin_ne_false {as bs : List (Value × Value)}
    (hnone : ∀ e ∈ as, lookupEntry eq e.1 bs ≠ .ok none)
    (hsome : ∀ e ∈ as, ∀ w, lookupEntry eq e.1 bs = .ok (some w) → eq e.2 w ≠ .ok false) :
    entriesWithin eq bs as ≠ .ok false := by
  induction as with
  | nil => exact fun hf => by cases hf
  | cons e as ih =>
    obtain ⟨hfound, hnone⟩ := List.forall_mem_cons.mp hnone
    obtain ⟨hequal, hsome⟩ := List.forall_mem_cons.mp hsome
    rw [entriesWithin]
    rcases hl : lookupEntry eq e.1 bs with f | found
    · exact fun hf => by cases hf
    · cases found with
      | none => exact absurd hl hfound
      | some w => exact ite_ne_false (hequal w hl) (ih hnone hsome)

/-! ### Objects -/

/-- What makes two sequences of a family equal, but for the order of comparisons. -/
def SequenceFamily.Agrees (eq : Value → Value → Except Fault Bool) (xs ys : List Value) :
    SequenceFamily → Prop
  | set => xs.length = ys.length ∧ ∀ x ∈ xs, ∃ y ∈ ys, eq x y = .ok true
  | _ => Forall₂ (fun x y => eq x y = .ok true) xs ys

theorem SequenceFamily.agrees_of_true {family : SequenceFamily} {xs ys : List Value}
    (h : family.equalWith eq xs ys = .ok true) : family.Agrees eq xs ys := by
  cases family with
  | tuple => exact equalItems_true h
  | set =>
    rw [equalWith] at h
    split at h
    · rename_i hlength
      exact ⟨hlength, itemsWithin_true h⟩
    · cases h
  | _ =>
    rw [equalWith] at h
    split at h
    · exact equalItems_true h
    · cases h
    all_goals simp

/-- What makes two dictionaries equal, but for the order of comparisons. -/
structure EntriesAgree (eq : Value → Value → Except Fault Bool) (inOrder : Bool)
    (as bs : List (Value × Value)) : Prop where
  length : as.length = bs.length
  within : ∀ e ∈ as, ∃ d ∈ bs, eq d.1 e.1 = .ok true ∧ eq e.2 d.2 = .ok true
  keys : inOrder = true → Forall₂ (fun x y => eq x y = .ok true) (as.map (·.1)) (bs.map (·.1))

theorem EntriesAgree.of_true {inOrder : Bool} {as bs : List (Value × Value)}
    (h : equalEntries eq inOrder as bs = .ok true) : EntriesAgree eq inOrder as bs := by
  rw [equalEntries] at h
  split at h
  · cases h
  · rename_i hlength
    obtain ⟨hwithin, hkeys⟩ := ite_true h
    refine ⟨by simpa using hlength, entriesWithin_true hwithin, fun hin => ?_⟩
    rw [hin] at hkeys
    exact equalItems_true hkeys

end Comparisons

/-! ### Parts up to a depth -/

namespace Heap

variable {h : Heap} {n : Nat} {x y : Value}

def partAt (h : Heap) (n : Nat) (x y : Value) : Except Fault Bool :=
  if x = y then .ok true else h.equalAt n x y

theorem partAt_self (n : Nat) (x : Value) : h.partAt n x x = .ok true := if_pos rfl

theorem partAt_of_ne (hxy : x ≠ y) : h.partAt n x y = h.equalAt n x y := if_neg hxy

theorem equalAt_ref (n : Nat) (a b : Address) :
    h.equalAt (n + 1) (.ref a) (.ref b) =
      if a = b then .ok true else (h.cell a).equalWith (h.partAt n) (h.cell b) := rfl

end Heap

namespace Value

theorem equalSimple_ref_left (a : Address) (y : Value) :
    (Value.ref a).equalSimple y = decide (Value.ref a = y) := by
  cases y with
  | boxed b =>
    cases b <;> simp [Value.equalSimple, Value.number?, Value.text?, Value.string?]
  | _ => simp [Value.equalSimple, Value.number?, Value.text?, Value.string?]

theorem equalSimple_ref_right (a : Address) (y : Value) :
    y.equalSimple (.ref a) = decide (y = .ref a) := by
  cases y with
  | boxed b =>
    cases b <;> simp [Value.equalSimple, Value.number?, Value.text?, Value.string?]
  | _ => simp [Value.equalSimple, Value.number?, Value.text?, Value.string?]

end Value

end Conformance
