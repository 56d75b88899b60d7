import Conformance.Match.Check

/-!
# The tree of a pattern

The children of a pattern, the parts that its matcher falls back on, and induction along them. A
part of an object pattern is a declared pattern without its outer wrapper.
-/

namespace Conformance
namespace Pattern

/-! ### Wrappers -/

/-- Is the pattern a wrapper, so that a field with it may be absent? -/
def isWrapped : Pattern → Bool
  | wrap _ _ _ => true
  | _ => false

def unwrapped : Pattern → Pattern
  | wrap _ _ p => p
  | p => p

theorem sizeOf_unwrapped_le (p : Pattern) : sizeOf p.unwrapped ≤ sizeOf p := by
  cases p with
  | wrap o w p =>
    simp only [unwrapped, wrap.sizeOf_spec]
    omega
  | _ => exact Nat.le_refl _

theorem unwrapped_of_isWrapped_eq_false {p : Pattern} (h : p.isWrapped = false) :
    p.unwrapped = p := by
  cases p with
  | wrap o w p => exact absurd h (Bool.false_ne_true ∘ Eq.symm)
  | _ => rfl

def declared? (fields : List (String × Pattern)) (key : Value) : Option Pattern :=
  key.text?.bind fun name => (fields.find? (·.1 = name)).map (·.2)

theorem mem_of_declared? {fields : List (String × Pattern)} {key : Value} {q : Pattern}
    (h : declared? fields key = some q) : ∃ name, key.text? = some name ∧ (name, q) ∈ fields := by
  obtain ⟨name, hname, hfind⟩ := Option.bind_eq_some_iff.mp h
  obtain ⟨f, hf, hq⟩ := Option.map_eq_some_iff.mp hfind
  have hmem := List.mem_of_find?_eq_some hf
  have heq : f.1 = name := by simpa using List.find?_some hf
  refine ⟨name, hname, ?_⟩
  rw [← heq, ← hq]
  exact hmem

/-! ### Children and parts -/

def children : Pattern → List Pattern
  | arrayOf p => [p]
  | object _ fields => fields.map (·.2)
  | objectWithValues p => [p]
  | wrap _ _ p => [p]
  | oneOf choices => choices
  | _ => []

/-- The patterns that a value or its parts are matched against in turn. -/
def parts : Pattern → List Pattern
  | object _ fields => fields.map (·.2.unwrapped)
  | p => p.children

theorem sizeOf_lt_of_mem_children {p q : Pattern} (h : q ∈ p.children) : sizeOf q < sizeOf p := by
  cases p with
  | object u fields =>
    obtain ⟨f, hf, rfl⟩ := List.mem_map.mp h
    have hlt := List.sizeOf_lt_of_mem hf
    obtain ⟨name, q⟩ := f
    simp only [Prod.mk.sizeOf_spec, object.sizeOf_spec] at hlt ⊢
    omega
  | oneOf choices =>
    have hlt : sizeOf q < sizeOf choices := List.sizeOf_lt_of_mem h
    rw [oneOf.sizeOf_spec]
    omega
  | arrayOf p =>
    rw [List.mem_singleton.mp h, arrayOf.sizeOf_spec]
    omega
  | objectWithValues p =>
    rw [List.mem_singleton.mp h, objectWithValues.sizeOf_spec]
    omega
  | wrap o w p =>
    rw [List.mem_singleton.mp h, wrap.sizeOf_spec]
    omega
  | _ => exact absurd h List.not_mem_nil

theorem sizeOf_lt_of_mem_parts {p q : Pattern} (h : q ∈ p.parts) : sizeOf q < sizeOf p := by
  cases p with
  | object u fields =>
    obtain ⟨f, hf, rfl⟩ := List.mem_map.mp h
    have hle := sizeOf_unwrapped_le f.2
    have hlt : sizeOf f.2 < sizeOf (object u fields) :=
      sizeOf_lt_of_mem_children (List.mem_map_of_mem hf)
    omega
  | _ => exact sizeOf_lt_of_mem_children h

@[elab_as_elim]
theorem childrenInduction {motive : Pattern → Prop} (p : Pattern)
    (step : ∀ p, (∀ q ∈ p.children, motive q) → motive p) : motive p :=
  step p fun q hq =>
    have _ := sizeOf_lt_of_mem_children hq
    childrenInduction q step
termination_by sizeOf p

@[elab_as_elim]
theorem partsInduction {motive : Pattern → Prop} (p : Pattern)
    (step : ∀ p, (∀ q ∈ p.parts, motive q) → motive p) : motive p :=
  step p fun q hq =>
    have _ := sizeOf_lt_of_mem_parts hq
    partsInduction q step
termination_by sizeOf p

/-! ### Heights -/

mutual

def height : Pattern → Nat
  | arrayOf p => p.height + 1
  | object _ fields => fieldsHeight fields + 1
  | objectWithValues p => p.height + 1
  | wrap _ _ p => p.height + 1
  | oneOf choices => choicesHeight choices + 1
  | _ => 1
termination_by structural p => p

def fieldsHeight : List (String × Pattern) → Nat
  | [] => 0
  | (_, p) :: rest => max p.height (fieldsHeight rest)
termination_by structural fields => fields

def choicesHeight : List Pattern → Nat
  | [] => 0
  | p :: rest => max p.height (choicesHeight rest)
termination_by structural choices => choices

end

theorem height_pos (p : Pattern) : 0 < p.height := by
  cases p <;> simp only [height] <;> omega

theorem height_le_fieldsHeight {fields : List (String × Pattern)} {f : String × Pattern}
    (hf : f ∈ fields) : f.2.height ≤ fieldsHeight fields := by
  induction fields with
  | nil => exact absurd hf List.not_mem_nil
  | cons g rest ih =>
    rw [fieldsHeight]
    rcases List.mem_cons.mp hf with rfl | hmem
    · exact Nat.le_max_left _ _
    · exact Nat.le_trans (ih hmem) (Nat.le_max_right _ _)

theorem height_le_choicesHeight {choices : List Pattern} {p : Pattern} (hp : p ∈ choices) :
    p.height ≤ choicesHeight choices := by
  induction choices with
  | nil => exact absurd hp List.not_mem_nil
  | cons q rest ih =>
    rw [choicesHeight]
    rcases List.mem_cons.mp hp with rfl | hmem
    · exact Nat.le_max_left _ _
    · exact Nat.le_trans (ih hmem) (Nat.le_max_right _ _)

theorem height_lt_of_mem_children {p q : Pattern} (hq : q ∈ p.children) : q.height < p.height := by
  cases p with
  | arrayOf p =>
    rw [List.mem_singleton.mp hq, height]
    exact Nat.lt_succ_self _
  | objectWithValues p =>
    rw [List.mem_singleton.mp hq, height]
    exact Nat.lt_succ_self _
  | wrap o w p =>
    rw [List.mem_singleton.mp hq, height]
    exact Nat.lt_succ_self _
  | object u fields =>
    obtain ⟨f, hf, rfl⟩ := List.mem_map.mp hq
    rw [height]
    exact Nat.lt_succ_of_le (height_le_fieldsHeight hf)
  | oneOf choices =>
    rw [height]
    exact Nat.lt_succ_of_le (height_le_choicesHeight hq)
  | _ => exact absurd hq List.not_mem_nil

theorem height_unwrapped_le (p : Pattern) : p.unwrapped.height ≤ p.height := by
  cases p with
  | wrap o w p => exact Nat.le_of_lt (height_lt_of_mem_children (List.mem_singleton_self p))
  | _ => exact Nat.le_refl _

theorem height_lt_of_mem_parts {p q : Pattern} (hq : q ∈ p.parts) : q.height < p.height := by
  cases p with
  | object u fields =>
    obtain ⟨f, hf, rfl⟩ := List.mem_map.mp hq
    have hlt : f.2.height < (object u fields).height :=
      height_lt_of_mem_children (List.mem_map_of_mem hf)
    exact Nat.lt_of_le_of_lt (height_unwrapped_le f.2) hlt
  | _ => exact height_lt_of_mem_children hq

/-! ### Nodes -/

inductive NodeOf : Pattern → Pattern → Prop where
  | root (p : Pattern) : NodeOf p p
  | child {q child p : Pattern} : child ∈ p.children → NodeOf q child → NodeOf q p

def Every (good : Pattern → Bool) (p : Pattern) : Prop := ∀ q, NodeOf q p → good q = true

theorem every_iff {good : Pattern → Bool} {p : Pattern} :
    p.Every good ↔ good p = true ∧ ∀ q ∈ p.children, q.Every good := by
  constructor
  · intro h
    exact ⟨h p (.root p), fun q hq r hr => h r (.child hq hr)⟩
  · rintro ⟨hp, hc⟩ q hq
    cases hq with
    | root => exact hp
    | child hm hn => exact hc _ hm q hn

theorem every_of_children_eq_nil {good : Pattern → Bool} {p : Pattern} (hp : good p = true)
    (hnone : p.children = []) : p.Every good := by
  rw [every_iff, hnone]
  exact ⟨hp, List.forall_mem_nil _⟩

theorem Every.root {good : Pattern → Bool} {p : Pattern} (h : p.Every good) : good p = true :=
  h p (.root p)

theorem Every.unwrapped {good : Pattern → Bool} {p : Pattern} (h : p.Every good) :
    p.unwrapped.Every good := by
  cases p with
  | wrap o w p => exact (every_iff.mp h).2 p (List.mem_singleton_self p)
  | _ => exact h

theorem Every.part {good : Pattern → Bool} {p q : Pattern} (h : p.Every good) (hq : q ∈ p.parts) :
    q.Every good := by
  cases p with
  | object u fields =>
    obtain ⟨f, hf, rfl⟩ := List.mem_map.mp hq
    exact ((every_iff.mp h).2 f.2 (List.mem_map_of_mem hf)).unwrapped
  | _ => exact (every_iff.mp h).2 q hq

/-- Does every node of a pattern that is at most `n` levels high have the property? -/
def everyWithin (good : Pattern → Bool) : Nat → Pattern → Bool
  | 0, _ => false
  | n + 1, p => good p && p.children.all (everyWithin good n)

theorem everyWithin_iff {good : Pattern → Bool} {n : Nat} {p : Pattern} (hn : p.height ≤ n) :
    everyWithin good n p = true ↔ p.Every good := by
  induction n generalizing p with
  | zero => exact absurd hn (Nat.not_le_of_gt p.height_pos)
  | succ n ih =>
    have hchildren : ∀ q ∈ p.children, (everyWithin good n q = true ↔ q.Every good) := fun q hq =>
      ih (Nat.le_of_lt_succ (Nat.lt_of_lt_of_le (height_lt_of_mem_children hq) hn))
    rw [everyWithin, Bool.and_eq_true, List.all_eq_true, every_iff]
    exact and_congr_right fun _ => forall₂_congr hchildren

instance (good : Pattern → Bool) (p : Pattern) : Decidable (p.Every good) :=
  decidable_of_iff _ (everyWithin_iff (Nat.le_refl p.height))

/-! ### Matchers of fields -/

def fieldMatcher (c : Context) (f : String × Pattern) : FieldMatcher :=
  ⟨f.1, !f.2.isWrapped, f.2.unwrapped.matcher c⟩

theorem fieldMatchers_eq_map (c : Context) (fields : List (String × Pattern)) :
    fieldMatchers c fields = fields.map (fieldMatcher c) := by
  induction fields with
  | nil => rfl
  | cons f rest ih =>
    obtain ⟨name, p⟩ := f
    cases p <;> simp only [fieldMatchers, List.map_cons, ih] <;> rfl

theorem field?_fieldMatchers (c : Context) (fields : List (String × Pattern)) (key : Value) :
    (Matcher.field? (fieldMatchers c fields) key).map (·.matcher) =
      (declared? fields key).map fun q => q.unwrapped.matcher c := by
  cases hkey : key.text? with
  | none => simp only [Matcher.field?, declared?, hkey, Option.bind_none, Option.map_none]
  | some name =>
    simp only [Matcher.field?, declared?, hkey, Option.bind_some, fieldMatchers_eq_map,
      List.find?_map, Option.map_map]
    rfl

end Pattern
end Conformance
