import Conformance.Proofs.MatcherForm
import Mathlib.Data.List.Forall2

/-!
# Containers that walk alike

Containers of one form find the same flaws in a value as a whole and come to the same parts of it.
They differ only in the patterns that they ask for there, and these stand at the same places of the
containers. What relates them may be any relation.
-/

namespace Conformance
namespace Pattern

variable {R : Pattern → Pattern → Prop}

/-- The demands agree but for patterns that are related. -/
inductive DemandRelated (R : Pattern → Pattern → Prop) : Demand → Demand → Prop where
  | conform {p q : Pattern} (h : R p q) : DemandRelated R (.conform p) (.conform q)
  | nothing : DemandRelated R .nothing .nothing
  | absence : DemandRelated R .absence .absence

/-- The visits are to the same part, with demands that are related. -/
structure VisitRelated (R : Pattern → Pattern → Prop) (b b' : Visit) : Prop where
  key : b.key = b'.key
  part : b.part = b'.part
  demand : DemandRelated R b.demand b'.demand

/-- The fields have one name, may both be absent or not, and ask for related patterns. -/
structure FieldRelated (R : Pattern → Pattern → Prop) (f g : String × Pattern) : Prop where
  name : f.1 = g.1
  isWrapped : f.2.isWrapped = g.2.isWrapped
  unwrapped : R f.2.unwrapped g.2.unwrapped

/-- Both containers go through the value alike, with demands that are related. -/
structure WalkRelated (R : Pattern → Pattern → Prop) (h : Heap) (v : Value) (p q : Pattern) :
    Prop where
  first : p.isContainer = true
  second : q.isContainer = true
  opening : p.openingFlaw? h v = q.openingFlaw? h v
  visits : List.Forall₂ (VisitRelated R) (p.visits h v) (q.visits h v)
  closing : p.closingFlaw? h v = q.closingFlaw? h v

theorem ofKey_related {fields fields' : List (String × Pattern)}
    (h : List.Forall₂ (FieldRelated R) fields fields') (u : UnknownKeys) (key : Value) :
    DemandRelated R (.ofKey u fields key) (.ofKey u fields' key) := by
  cases hkey : key.text? with
  | none =>
    have hnone : ∀ fields, declared? fields key = none := fun fields => by
      rw [declared?, hkey, Option.bind_none]
    simp only [Demand.ofKey, hnone]
    cases u
    · exact .absence
    · exact .nothing
  | some name =>
    simp only [Demand.ofKey, declared?, hkey, Option.bind_some]
    -- both searches stop at the same field, as the names agree
    induction h with
    | nil =>
      cases u
      · exact .absence
      · exact .nothing
    | @cons f g fields fields' hf _ ih =>
      by_cases hname : g.1 = name
      · simp only [List.find?_cons, hf.name, hname, decide_true, Option.map_some]
        exact .conform hf.unwrapped
      · simp only [List.find?_cons, hf.name, hname, decide_false]
        exact ih

theorem absent?_eq_of_related {fields fields' : List (String × Pattern)}
    (h : List.Forall₂ (FieldRelated R) fields fields') (entries : List (Value × Value)) :
    absent? fields entries = absent? fields' entries := by
  induction h with
  | nil => rfl
  | @cons f g fields fields' hf _ ih =>
    simp only [absent?, List.find?_cons, hf.name, hf.isWrapped] at ih ⊢
    split
    · simp only [Option.map_some, hf.name]
    · exact ih

theorem visits_related {α : Type} {f g : α → Visit} (xs : List α)
    (h : ∀ x, VisitRelated R (f x) (g x)) :
    List.Forall₂ (VisitRelated R) (xs.map f) (xs.map g) := by
  rw [List.forall₂_map_left_iff, List.forall₂_map_right_iff]
  exact List.forall₂_same.mpr fun x _ => h x

variable {p q : Pattern} (h : Heap) (v : Value)

theorem arrayOf_walkRelated (hpq : R p q) : WalkRelated R h v (arrayOf p) (arrayOf q) where
  first := rfl
  second := rfl
  opening := rfl
  visits := visits_related _ fun _ => ⟨rfl, rfl, .conform hpq⟩
  closing := rfl

theorem objectWithValues_walkRelated (hpq : R p q) :
    WalkRelated R h v (objectWithValues p) (objectWithValues q) where
  first := rfl
  second := rfl
  opening := rfl
  visits := visits_related _ fun _ => ⟨rfl, rfl, .conform hpq⟩
  closing := rfl

theorem object_walkRelated (u : UnknownKeys) {fields fields' : List (String × Pattern)}
    (hfields : List.Forall₂ (FieldRelated R) fields fields') :
    WalkRelated R h v (object u fields) (object u fields') where
  first := rfl
  second := rfl
  opening := rfl
  visits := visits_related _ fun e => ⟨rfl, rfl, ofKey_related hfields u e.1⟩
  closing := by simp only [closingFlaw?, absent?_eq_of_related hfields]

end Pattern
end Conformance
