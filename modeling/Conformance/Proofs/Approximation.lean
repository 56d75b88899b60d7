import Conformance.Proofs.Counterpart
import Conformance.Proofs.Relocation

/-!
# Approximation

Calls of predicates may nest only so deep. A run whose calls may nest less deep ends as the run
whose calls may nest deeper does, unless it reaches the nesting limit: no step absorbs that fault.
-/

namespace Conformance

namespace Run

variable {α β : Type}

/-- The first run ends as the second does, or at the nesting limit. -/
def Approximates (r s : Run α) : Prop :=
  r.result = .error (.fault .nestingLimit) ∨ r.result = s.result

namespace Approximates

theorem of_result_eq {r s : Run α} (h : r.result = s.result) : r.Approximates s := .inr h

theorem refl (r : Run α) : r.Approximates r := .inr rfl

theorem trans {r s t : Run α} (hrs : r.Approximates s) (hst : s.Approximates t) :
    r.Approximates t := by
  rcases hrs with h | h
  · exact .inl h
  · rcases hst with h' | h'
    · exact .inl (h.trans h')
    · exact .inr (h.trans h')

theorem antisymm {r s : Run α} (hrs : r.Approximates s) (hsr : s.Approximates r) :
    r.result = s.result := by
  rcases hrs with hr | heq
  · rcases hsr with hs | heq
    · exact hr.trans hs.symm
    · exact heq.symm
  · exact heq

theorem andThen {r s : Run α} {f g : α → Run β} (hr : r.Approximates s)
    (hf : ∀ a, (f a).Approximates (g a)) : (r.andThen f).Approximates (s.andThen g) := by
  rcases hr with h | h
  · refine .inl ?_
    simp only [Run.andThen, h]
  · cases hs : s.result with
    | error e =>
      refine .inr ?_
      simp only [Run.andThen, h, hs]
    | ok a =>
      have hrf : (r.andThen f).result = (f a).result := by simp only [Run.andThen, h, hs]
      have hsg : (s.andThen g).result = (g a).result := by simp only [Run.andThen, hs]
      rw [Approximates, hrf, hsg]
      exact hf a

theorem recover {r s : Run α} {f g : Mismatch → Run α} (hr : r.Approximates s)
    (hf : ∀ m, (f m).Approximates (g m)) : (r.recover f).Approximates (s.recover g) := by
  rcases hr with h | h
  · refine .inl ?_
    simp only [Run.recover, h]
  · rcases hs : s.result with (m | e) | a
    · have hrf : (r.recover f).result = (f m).result := by simp only [Run.recover, h, hs]
      have hsg : (s.recover g).result = (g m).result := by simp only [Run.recover, hs]
      rw [Approximates, hrf, hsg]
      exact hf m
    · refine .inr ?_
      simp only [Run.recover, h, hs]
    · refine .inr ?_
      simp only [Run.recover, h, hs]

theorem relocate {r s : Run α} (path : String) (h : r.Approximates s) :
    (r.relocate path).Approximates (s.relocate path) := by
  rcases h with h | h
  · refine .inl ?_
    simp only [Run.relocate, h, Except.mapError, Failure.relocate]
  · refine .inr ?_
    simp only [Run.relocate, h]

theorem each {f : α → Run Unit} {g : β → Run Unit} {xs : List α} {ys : List β}
    (h : List.Forall₂ (fun x y => (f x).Approximates (g y)) xs ys) :
    (Run.each f xs).Approximates (Run.each g ys) := by
  induction h with
  | nil => exact refl _
  | cons hxy _ ih =>
    rw [each_cons, each_cons]
    exact andThen hxy fun _ => ih

end Approximates
end Run

/-- Both contexts differ only in their calls, and those of the first approximate those of the
second. -/
structure Context.Approximates (c d : Context) : Prop where
  heap : c.heap = d.heap
  notesMismatches : c.notesMismatches = d.notesMismatches
  coreVersion : c.coreVersion = d.coreVersion
  call : ∀ f v, (c.call f v).Approximates (d.call f v)

theorem Context.Approximates.refl (c : Context) : c.Approximates c :=
  ⟨rfl, rfl, rfl, fun _ _ => .refl _⟩

/-! ### Congruence of matchers -/

namespace Pattern

variable {c d : Context}

/-- The matcher of the first pattern approximates that of the second. -/
def Approximates (c d : Context) (p q : Pattern) : Prop :=
  ∀ v path, (p.matcher c v path).Approximates (q.matcher d v path)

theorem visit_run_approximates (hc : c.Approximates d) {b b' : Visit} (path : String)
    (hb : VisitRelated (Approximates c d) b b') : (b.run c path).Approximates (b'.run d path) := by
  obtain ⟨key, part, demand⟩ := b
  obtain ⟨key', part', demand'⟩ := b'
  obtain ⟨rfl, rfl, hd⟩ := hb
  cases hd with
  | conform h =>
    simp only [Visit.run, hc.heap]
    exact .andThen (.refl _) fun t => h part t
  | nothing => exact .refl _
  | absence =>
    simp only [Visit.run, hc.heap]
    exact .refl _

theorem container_approximates (hc : c.Approximates d) {p q : Pattern}
    (hpq : ∀ v, WalkRelated (Approximates c d) d.heap v p q) : p.Approximates c d q := by
  intro v path
  obtain ⟨hp, hq, hopening, hvisits, hclosing⟩ := hpq v
  rw [container_matcher c v path hp, container_matcher d v path hq, hc.heap, hopening, hclosing]
  refine .andThen (.refl _) fun _ => .andThen (.each ?_) fun _ => .refl _
  exact hvisits.imp fun _ _ hb => visit_run_approximates hc path hb

theorem arrayOf_approximates (hc : c.Approximates d) {p q : Pattern} (h : p.Approximates c d q) :
    (arrayOf p).Approximates c d (arrayOf q) :=
  container_approximates hc fun v => arrayOf_walkRelated d.heap v h

theorem objectWithValues_approximates (hc : c.Approximates d) {p q : Pattern}
    (h : p.Approximates c d q) : (objectWithValues p).Approximates c d (objectWithValues q) :=
  container_approximates hc fun v => objectWithValues_walkRelated d.heap v h

theorem object_approximates (hc : c.Approximates d) (u : UnknownKeys)
    {fields fields' : List (String × Pattern)}
    (h : List.Forall₂ (FieldRelated (Approximates c d)) fields fields') :
    (object u fields).Approximates c d (object u fields') :=
  container_approximates hc fun v => object_walkRelated d.heap v u h

theorem wrap_approximates (o : Origin) (w : Wrapper) {p q : Pattern} (h : p.Approximates c d q) :
    (wrap o w p).Approximates c d (wrap o w q) := by
  intro v path
  cases o with
  | native =>
    rw [wrap_matcher, wrap_matcher]
    split
    · exact .refl _
    · exact h v path
  | foreign =>
    cases w <;> exact .refl _

theorem oneOf_approximates {choices choices' : List Pattern}
    (h : List.Forall₂ (Pattern.Approximates c d) choices choices') :
    (oneOf choices).Approximates c d (oneOf choices') := by
  intro v path
  induction h with
  | nil => exact .refl _
  | cons hp _ ih =>
    rw [oneOf_cons_matcher, oneOf_cons_matcher]
    exact .recover (hp v path) fun _ => ih

theorem leaf_approximates (hc : c.Approximates d) {p : Pattern} (hp : p.isLeaf = true) :
    p.Approximates c d p := by
  intro v path
  rw [leaf_matcher c v path hp, leaf_matcher d v path hp, hc.heap]
  exact .refl _

theorem satisfies_approximates (hc : c.Approximates d) {f g : Value}
    (h : ∀ v, (c.call f v).Approximates (d.call g v)) :
    (satisfies f).Approximates c d (satisfies g) := by
  intro v path
  simp only [matcher, Matcher.satisfies, Run.recover_mismatch_eq_relocate, Run.bind_eq, hc.heap]
  exact .andThen (.relocate path (h v)) fun _ => .refl _

theorem matcher_approximates (hc : c.Approximates d) (p : Pattern) : p.Approximates c d p := by
  induction p using partsInduction with
  | step p ih =>
    cases p with
    | arrayOf p => exact arrayOf_approximates hc (ih p (List.mem_singleton_self p))
    | object u fields =>
      refine object_approximates hc u (List.forall₂_same.mpr fun f hf => ⟨rfl, rfl, ?_⟩)
      exact ih f.2.unwrapped (List.mem_map_of_mem hf)
    | objectWithValues p =>
      exact objectWithValues_approximates hc (ih p (List.mem_singleton_self p))
    | wrap o w p => exact wrap_approximates o w (ih p (List.mem_singleton_self p))
    | oneOf choices => exact oneOf_approximates (List.forall₂_same.mpr ih)
    | satisfies f => exact satisfies_approximates hc (hc.call f)
    | _ => exact leaf_approximates hc rfl

end Pattern
end Conformance
