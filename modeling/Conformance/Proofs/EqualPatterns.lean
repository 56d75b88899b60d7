import Conformance.Proofs.Conforms
import Conformance.Proofs.Counterpart
import Conformance.Proofs.SoundHeap

/-!
# Equal patterns

Two patterns are equal if they are built alike and their operands are equal. The matcher asks more
of the operand of a literal than that a value is equal to it: the value must be of its category.
Where the literals of equal patterns agree in this, and in which of their dictionaries keep an
order, no value tells the patterns apart.
-/

namespace Conformance

namespace Heap

variable {h : Heap} {n : Nat} {v w : Value}

/-! ### Values that face each other -/

theorem Facing.symm {x y : Value} (hxy : h.Facing v w x y) : h.Facing w v y x := by
  induction hxy with
  | root v w => exact .root w v
  | item ha hb hj hk hv hw _ ih => exact .item hb ha hk hj hw hv ih
  | value ha hb he hd hkey _ ih => exact .value hb ha hd he hkey.symm ih
  | operand ha hb hnode hv hw _ ih => exact .operand hb ha hnode.symm hw hv ih

theorem OrdersAlike.symm (horders : h.OrdersAlike v w) : h.OrdersAlike w v :=
  fun x y hxy => (horders y x hxy.symm).symm

/-! ### Values that are the same as an operand -/

/-- A value that is neither an object nor a byte string is only the same as what it is equal to in
itself. -/
theorem LikeAt.equalSimple (hrefs : ∀ a, v ≠ .ref a) (hbytes : h.byteContent? v = none)
    (hvw : h.LikeAt n v w) : v.equalSimple w = true := by
  cases n with
  | zero => exact hvw.elim
  | succ n =>
    cases likeAt_succ.mp hvw with
    | object a => exact absurd rfl (hrefs a)
    | @parts a b => exact absurd rfl (hrefs a)
    | bytes hv =>
      rw [hbytes] at hv
      cases hv
    | simple _ _ hequal => exact hequal

theorem SameAt.tuple {a : Address} {k : SequenceKind} {vs : List Value}
    (ha : h.cell a = .sequence k vs) (hk : k.family = .tuple) (haw : h.SameAt n (.ref a) w) :
    w = .ref a ∨ ∃ b j ws m, w = .ref b ∧ h.cell b = .sequence j ws ∧ j.family = .tuple ∧
      List.Forall₂ (h.SameAt m) vs ws := by
  rcases haw.ref (by simp only [byteContent?, ha]) with heq | ⟨b, m, rfl, hab⟩
  · exact .inl heq
  · rw [ha] at hab
    generalize hb : h.cell b = y at hab
    cases hab with
    | @sequence _ j _ ws hfamily hitems =>
      rw [hk] at hitems
      exact .inr ⟨b, j, ws, m, rfl, hb, hfamily ▸ hk, hitems⟩

theorem SameAt.predicate {a : Address} {f : Predicate} (ha : h.cell a = .predicate f)
    (haw : h.SameAt n (.ref a) w) : w = .ref a := by
  rcases haw.ref (by simp only [byteContent?, ha]) with heq | ⟨b, m, rfl, hab⟩
  · exact heq
  · rw [ha] at hab
    cases hab

end Heap

/-! ### Class operands -/

namespace Heap

variable {h : Heap} {n : Nat} {v target target' : Value}

end Heap

/-! ### Patterns that spare what others accept -/

namespace Pattern

variable {c : Context} {p q : Pattern}

section Operands

variable {h : Heap} {notes : Bool} {version : String} {x y : Value} {n : Nat}

end Operands

/-! ### Equal patterns -/

/-- Literals at the same place of the patterns hold values of one category, in which ordered
dictionaries face ordered ones. -/
def LiteralsAlike (h : Heap) (p q : Pattern) : Prop :=
  ∀ x y, Facing p q (literal x) (literal y) → h.category x = h.category y ∧ h.OrdersAlike x y

/-- The patterns are built alike, operands at the same place are the same, and those of literals
agree in what equality leaves open. -/
structure Twins (h : Heap) (p q : Pattern) : Prop where
  alike : p.Alike (h.SameAt nestingLimit) q
  literals : LiteralsAlike h p q

namespace Twins

variable {h : Heap}

theorem symm (hpq : Twins h p q) : Twins h q p where
  alike := hpq.alike.symm fun _ _ => Heap.SameAt.symm
  literals x y hxy := by
    obtain ⟨hcategory, horders⟩ := hpq.literals y x hxy.symm
    exact ⟨hcategory.symm, horders.symm⟩

theorem children (hpq : Twins h p q) : List.Forall₂ (Twins h) p.children q.children := by
  obtain ⟨hlength, hchildren⟩ := forall₂_iff_getElem?.mp hpq.alike.children
  refine forall₂_iff_getElem?.mpr ⟨hlength, fun i p' q' hp' hq' => ?_⟩
  exact ⟨hchildren i p' q' hp' hq', fun x y hxy => hpq.literals x y (.child hp' hq' hxy)⟩

theorem operand (hpq : Twins h p q) {x y : Value} (hx : p.operand? = some x)
    (hy : q.operand? = some y) : h.SameAt nestingLimit x y := hpq.alike.operand hx hy

theorem isWrapped_eq (hpq : Twins h p q) : p.isWrapped = q.isWrapped := by
  rw [← isWrapped_label p, hpq.alike.label_eq, isWrapped_label]

theorem unwrapped (hpq : Twins h p q) : Twins h p.unwrapped q.unwrapped := by
  have hwrapped := hpq.isWrapped_eq
  cases p with
  | wrap o w a =>
    obtain ⟨b, rfl⟩ := label_wrap_iff.mp hpq.alike.label_eq
    exact (List.forall₂_cons.mp hpq.children).1
  | _ =>
    rw [unwrapped_of_isWrapped_eq_false hwrapped.symm, unwrapped_of_isWrapped_eq_false rfl]
    exact hpq

end Twins
end Pattern

namespace Heap

variable {h : Heap}

end Heap

/-- Two equal literals, of which one holds an ordered dictionary, and that dictionary in another
order. -/
def ordersOfEntries : Heap :=
  ⟨#[.dict .ordered [(.str "x", .int 1), (.str "y", .int 2)],
    .dict .plain [(.str "x", .int 1), (.str "y", .int 2)],
    .dict .ordered [(.str "y", .int 2), (.str "x", .int 1)],
    .pattern (.literal (.ref 0)) [], .pattern (.literal (.ref 1)) []]⟩

theorem ordersOfEntries_filled : ordersOfEntries.Filled := by
  have h₁ := Heap.Filled.empty.dict .ordered [(.str "x", .int 1), (.str "y", .int 2)] (by decide) rfl
  have h₂ := h₁.dict .plain [(.str "x", .int 1), (.str "y", .int 2)] (by decide) rfl
  have h₃ := h₂.dict .ordered [(.str "y", .int 2), (.str "x", .int 1)] (by decide) rfl
  have h₄ := h₃.pattern (.literal (.ref 0)) [] (by decide)
  exact h₄.pattern (.literal (.ref 1)) [] (by decide)

/-- Values of one category are not enough either: an ordered dictionary in another order is equal to
a plain dictionary still. -/
theorem ordered_literals_told_apart :
    ¬ ∀ (h : Heap) (notes : Bool) (version : String) (v raw raw' : Value) (p q : Pattern)
      (b b' : Bool), h.IsSound → h.toPattern raw = .ok p → h.toPattern raw' = .ok q →
      h.equalPattern p q = .ok true →
      (∀ x y, Pattern.Facing p q (.literal x) (.literal y) → h.category x = h.category y) →
      ((h.context notes version).accepts v raw).result = .ok b →
      ((h.context notes version).accepts v raw').result = .ok b' → b = b' := by
  intro hall
  have hcategory : ∀ x y, Pattern.Facing (.literal (.ref 0)) (.literal (.ref 1)) (.literal x)
      (.literal y) → ordersOfEntries.category x = ordersOfEntries.category y := by
    intro x y hxy
    cases hxy with
    | root => rfl
    | child hp => cases hp
  have hequal := hall ordersOfEntries false "" (.ref 2) (.ref 3) (.ref 4) (.literal (.ref 0))
    (.literal (.ref 1)) false true ordersOfEntries_filled.isSound rfl rfl (by decide +kernel) hcategory
    (by decide +kernel) (by decide +kernel)
  cases hequal

end Conformance
