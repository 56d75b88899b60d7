import Conformance.Proofs.Approximation

/-!
# Transparency of checks

A predicate that checks its argument against a pattern may stand in the place of that pattern: every
match ends as before, short of the limit to which calls may nest. The exception is a wrapper that
stands directly as an object field, where it says something else.
-/

namespace Conformance

def Heap.contextAt (h : Heap) (notes : Bool) (version : String) (depth : Nat) : Context :=
  ⟨h, notes, version, h.callAt notes version depth⟩

variable {h : Heap} {notes : Bool} {version : String}

/-! ### Deeper calls -/

namespace Context

variable {c d : Context} {v raw : Value}

theorem matchAt_of_error {f : Fault} (hf : c.heap.toPattern raw = .error f) (path : String) :
    c.matchAt v raw path = Run.fault f := by
  simp only [matchAt, hf, Run.lift_error, Run.bind_eq]
  rfl

theorem check_of_error {f : Fault} (hf : c.heap.toPattern raw = .error f) :
    c.check v raw = Run.fault f := by
  simp only [check, hf, Run.lift_error, Run.bind_eq]
  rfl

theorem matchAt_approximates (hc : c.Approximates d) (v raw : Value) (path : String) :
    (c.matchAt v raw path).Approximates (d.matchAt v raw path) := by
  rw [matchAt, matchAt, hc.heap]
  exact .andThen (.refl _) fun p => p.matcher_approximates hc v path

theorem check_approximates (hc : c.Approximates d) (v raw : Value) :
    (c.check v raw).Approximates (d.check v raw) := by
  rcases hp : d.heap.toPattern raw with f | p
  · rw [check_of_error (hc.heap ▸ hp), check_of_error hp]
    exact .refl _
  · rw [Run.Approximates, check_result (hc.heap ▸ hp), check_result hp]
    exact p.matcher_approximates hc v ""

theorem accepts_approximates (hc : c.Approximates d) (v raw : Value) :
    (c.accepts v raw).Approximates (d.accepts v raw) := by
  rw [accepts, accepts]
  exact .recover (.andThen (matchAt_approximates hc v raw "") fun _ => .refl _) fun _ => .refl _

theorem explain_approximates (hc : c.Approximates d) (v raw : Value) :
    (c.explain v raw).Approximates (d.explain v raw) := by
  rw [explain, explain, hc.coreVersion]
  exact .recover (.andThen (matchAt_approximates hc v raw "") fun _ => .refl _) fun _ => .refl _

theorem answer_approximates (hc : c.Approximates d) (v : Value) (p : Predicate) :
    (p.answer c v).Approximates (p.answer d v) := by
  cases p with
  | check raw => exact .andThen (check_approximates hc v raw) fun _ => .refl _
  | checkNone raw => exact .andThen (check_approximates hc v raw) fun _ => .refl _
  | accepts raw => exact .andThen (accepts_approximates hc v raw) fun _ => .refl _
  | explain raw => exact .andThen (explain_approximates hc v raw) fun _ => .refl _
  | _ => exact .refl _

end Context

namespace Heap

/-- A call of a predicate leaves its event behind and answers in the context of calls nested one
less deep. -/
theorem callAt_predicate {a : Address} {p : Predicate} (ha : h.cell a = .predicate p) (depth : Nat)
    (v : Value) :
    h.callAt notes version (depth + 1) (.ref a) v =
      (Run.record (.called (.ref a) v)).andThen fun _ =>
        p.answer (h.contextAt notes version depth) v := by
  rw [callAt]
  simp only [ha, Run.bind_eq]
  rfl

theorem callAt_approximates (depth : Nat) (f v : Value) :
    (h.callAt notes version depth f v).Approximates (h.callAt notes version (depth + 1) f v) := by
  induction depth generalizing f v with
  | zero => exact .inl rfl
  | succ depth ih =>
    have hc : (h.contextAt notes version depth).Approximates
        (h.contextAt notes version (depth + 1)) :=
      ⟨rfl, rfl, rfl, ih⟩
    cases f with
    | ref a =>
      cases ha : h.cell a with
      | predicate p =>
        rw [callAt_predicate ha, callAt_predicate ha]
        exact .andThen (.refl _) fun _ => Context.answer_approximates hc v p
      | _ =>
        rw [callAt, callAt]
        simp only [ha]
        exact .refl _
    | _ => exact .refl _

theorem contextAt_approximates (depth more : Nat) :
    (h.contextAt notes version depth).Approximates (h.contextAt notes version (depth + more)) := by
  induction more with
  | zero => exact ⟨rfl, rfl, rfl, fun _ _ => .refl _⟩
  | succ more ih =>
    exact ⟨rfl, rfl, rfl, fun f v => (ih.call f v).trans (callAt_approximates (depth + more) f v)⟩

end Heap

/-! ### Predicates that check -/

namespace Pattern

variable {a b : Address} {raw raw' : Value} {p q : Pattern}

theorem satisfies_check_result (ha : h.cell a = .predicate (.check raw))
    (hp : h.toPattern raw = .ok p) (depth : Nat) (v : Value) (path : String) :
    ((satisfies (.ref a)).matcher (h.contextAt notes version (depth + 1)) v path).result =
      (p.matcher (h.contextAt notes version depth) v path).result := by
  have hcheck : ((h.contextAt notes version depth).check v raw).result =
      (p.matcher (h.contextAt notes version depth) v "").result := Context.check_result hp
  have hcall : (h.contextAt notes version (depth + 1)).call (.ref a) v = _ :=
    Heap.callAt_predicate ha depth v
  rw [matcher_relocate _ p v path]
  simp only [matcher, Matcher.satisfies, Run.recover_mismatch_eq_relocate, hcall, Run.bind_eq,
    Predicate.answer, Run.relocate, Run.andThen, Run.record, hcheck]
  rcases (p.matcher (h.contextAt notes version depth) v "").result with e | u <;> rfl

/-- A predicate that checks its argument ends as the pattern that it checks against. -/
theorem satisfies_check_approximates (ha : h.cell a = .predicate (.check raw))
    (hp : h.toPattern raw = .ok p) (depth : Nat) :
    (satisfies (.ref a)).Approximates (h.contextAt notes version depth)
      (h.contextAt notes version depth) p := by
  intro v path
  cases depth with
  | zero => exact .inl rfl
  | succ depth =>
    refine .trans (.of_result_eq (satisfies_check_result ha hp depth v path)) ?_
    exact p.matcher_approximates (Heap.contextAt_approximates depth 1) v path

/-- With one more call, the predicate keeps every outcome of the pattern. -/
theorem approximates_satisfies_check (ha : h.cell a = .predicate (.check raw))
    (hp : h.toPattern raw = .ok p) (depth : Nat) :
    p.Approximates (h.contextAt notes version depth) (h.contextAt notes version (depth + 1))
      (satisfies (.ref a)) :=
  fun v path => .of_result_eq (satisfies_check_result ha hp depth v path).symm

/-- The second pattern is the first with `q` in the place of one `p`, at any depth. The place may
lie in the pattern of a predicate that checks. A field takes part with its wrapper removed, so
neither of the two may be a wrapper if a field is the place. -/
inductive Replaced (h : Heap) (p q : Pattern) : Pattern → Pattern → Prop where
  | here : Replaced h p q p q
  | element {r s : Pattern} : Replaced h p q r s → Replaced h p q (arrayOf r) (arrayOf s)
  | values {r s : Pattern} :
    Replaced h p q r s → Replaced h p q (objectWithValues r) (objectWithValues s)
  | field {r s : Pattern} (u : UnknownKeys) (before : List (String × Pattern)) (name : String)
      (after : List (String × Pattern)) :
    r.isWrapped = false → s.isWrapped = false → Replaced h p q r s →
      Replaced h p q (object u (before ++ (name, r) :: after))
        (object u (before ++ (name, s) :: after))
  | wrappedField {r s : Pattern} (u : UnknownKeys) (before : List (String × Pattern))
      (name : String) (o : Origin) (w : Wrapper) (after : List (String × Pattern)) :
    Replaced h p q r s →
      Replaced h p q (object u (before ++ (name, wrap o w r) :: after))
        (object u (before ++ (name, wrap o w s) :: after))
  | inner {r s : Pattern} (o : Origin) (w : Wrapper) :
    Replaced h p q r s → Replaced h p q (wrap o w r) (wrap o w s)
  | choice {r s : Pattern} (before after : List Pattern) :
    Replaced h p q r s →
      Replaced h p q (oneOf (before ++ r :: after)) (oneOf (before ++ s :: after))
  | checked {a b : Address} {raw raw' : Value} {r s : Pattern} :
    h.cell a = .predicate (.check raw) → h.cell b = .predicate (.check raw') →
      h.toPattern raw = .ok r → h.toPattern raw' = .ok s → Replaced h p q r s →
      Replaced h p q (satisfies (.ref a)) (satisfies (.ref b))

theorem forall₂_replace {α : Type} {R : α → α → Prop} (hrefl : ∀ x, R x x) {x y : α} (hxy : R x y)
    (before after : List α) : List.Forall₂ R (before ++ x :: after) (before ++ y :: after) := by
  induction before with
  | nil => exact .cons hxy (List.forall₂_same.mpr fun z _ => hrefl z)
  | cons z before ih => exact .cons (hrefl z) ih

theorem Replaced.symm {r s : Pattern} (h' : Replaced h p q r s) : Replaced h q p s r := by
  induction h' with
  | here => exact .here
  | element _ ih => exact .element ih
  | values _ ih => exact .values ih
  | field u before name after hr hs _ ih => exact .field u before name after hs hr ih
  | wrappedField u before name o w after _ ih => exact .wrappedField u before name o w after ih
  | inner o w _ ih => exact .inner o w ih
  | choice before after _ ih => exact .choice before after ih
  | checked ha hb hr hs _ ih => exact .checked hb ha hs hr ih

/-- Replacement keeps the outcome if the pattern in the new place approximates the old one however
deep calls may nest. -/
theorem replaced_approximates (more : Nat)
    (hq : ∀ depth, q.Approximates (h.contextAt notes version depth)
      (h.contextAt notes version (depth + more)) p)
    {r s : Pattern} (hr : Replaced h p q r s) (depth : Nat) :
    s.Approximates (h.contextAt notes version depth)
      (h.contextAt notes version (depth + more)) r := by
  have hc (depth : Nat) : (h.contextAt notes version depth).Approximates
      (h.contextAt notes version (depth + more)) := Heap.contextAt_approximates depth more
  have hself (depth : Nat) (p : Pattern) : p.Approximates (h.contextAt notes version depth)
      (h.contextAt notes version (depth + more)) p := p.matcher_approximates (hc depth)
  have hfields (depth : Nat) (f : String × Pattern) : FieldRelated
      (Pattern.Approximates (h.contextAt notes version depth)
        (h.contextAt notes version (depth + more))) f f :=
    ⟨rfl, rfl, hself depth f.2.unwrapped⟩
  induction hr generalizing depth with
  | here => exact hq depth
  | element _ ih => exact arrayOf_approximates (hc depth) (ih depth)
  | values _ ih => exact objectWithValues_approximates (hc depth) (ih depth)
  | field u before name after hr hs _ ih =>
    refine object_approximates (hc depth) u (forall₂_replace (hfields depth) ?_ before after)
    refine ⟨rfl, hs.trans hr.symm, ?_⟩
    rw [unwrapped_of_isWrapped_eq_false hr, unwrapped_of_isWrapped_eq_false hs]
    exact ih depth
  | wrappedField u before name o w after _ ih =>
    refine object_approximates (hc depth) u (forall₂_replace (hfields depth) ?_ before after)
    exact ⟨rfl, rfl, ih depth⟩
  | inner o w _ ih => exact wrap_approximates o w (ih depth)
  | choice before after _ ih =>
    exact oneOf_approximates (forall₂_replace (hself depth) (ih depth) before after)
  | checked ha hb hr hs _ ih =>
    intro v path
    cases depth with
    | zero => exact .inl rfl
    | succ depth =>
      -- either call uses up one level
      rw [Run.Approximates, satisfies_check_result hb hs, Nat.add_right_comm,
        satisfies_check_result ha hr]
      exact ih depth v path

end Pattern

/-! ### Outcomes -/

/-- A match at a path ends as the match at the root, of a pattern and of a raw value alike. A
predicate that checks ends as the pattern that it checks against, at every path, and so does a
pattern in which it takes the place of that pattern. Nothing is lost to the limit of nested calls
but what one more call brings back. -/
theorem matching_relocates_and_checks_transparently {a : Address} {raw : Value} {p : Pattern}
    (ha : h.cell a = .predicate (.check raw)) (hp : h.toPattern raw = .ok p) :
    (∀ (c : Context) (q : Pattern) (v : Value) (path : String),
        Run.EndsUnder path (q.matcher c v "") (q.matcher c v path)) ∧
      (∀ (c : Context) (v r : Value) (path : String),
        Run.EndsUnder path (c.matchAt v r "") (c.matchAt v r path)) ∧
      (∀ (v : Value) (path : String),
        ((Pattern.satisfies (.ref a)).matcher (h.context notes version) v path).Approximates
          (p.matcher (h.context notes version) v path)) ∧
      (∀ r s : Pattern, Pattern.Replaced h p (.satisfies (.ref a)) r s →
        ∀ (v : Value) (path : String),
          (s.matcher (h.context notes version) v path).Approximates
            (r.matcher (h.context notes version) v path)) ∧
      ∀ r s : Pattern, Pattern.Replaced h p (.satisfies (.ref a)) r s →
        ∀ (depth : Nat) (v : Value) (path : String),
          (r.matcher (h.contextAt notes version depth) v path).Approximates
            (s.matcher (h.contextAt notes version (depth + 1)) v path) := by
  refine ⟨fun c q v path => ?_, fun c v r path => ?_, fun v path => ?_, fun r s hr v path => ?_,
    fun r s hr depth v path => ?_⟩
  · rw [q.matcher_relocate c v path]
    exact Run.endsUnder_relocate path _
  · rcases hr : c.heap.toPattern r with f | q
    · rw [Context.matchAt_of_error hr, Context.matchAt_of_error hr]
      exact Run.endsUnder_relocate path (Run.fault f)
    · rw [Context.matchAt_eq hr, Context.matchAt_eq hr, q.matcher_relocate c v path]
      exact Run.endsUnder_relocate path _
  · exact Pattern.satisfies_check_approximates ha hp nestingLimit v path
  · refine Pattern.replaced_approximates 0 (fun depth => ?_) hr nestingLimit v path
    exact Pattern.satisfies_check_approximates ha hp depth
  · refine Pattern.replaced_approximates 1 (fun depth => ?_) hr.symm depth v path
    exact Pattern.approximates_satisfies_check ha hp depth

/-- A predicate that checks for a list of integers, and one that checks for a list that the first
predicate accepts. -/
def checkingPredicates : Heap :=
  ⟨#[.predicate (.check (.ref 1)), .sequence .list [.classObject .int],
    .predicate (.check (.ref 3)), .pattern (.arrayOf (.arrayOf .integer)) [],
    .predicate (.check (.ref 5)), .pattern (.arrayOf (.satisfies (.ref 0))) []]⟩

theorem checkingPredicates_transparent :
    checkingPredicates.cell 0 = .predicate (.check (.ref 1)) ∧
      checkingPredicates.toPattern (.ref 1) = .ok (.arrayOf .integer) ∧
      ∀ (depth : Nat) (v : Value) (path : String),
        ((Pattern.object .reject [("a", .wrap .native .optional (.satisfies (.ref 2)))]).matcher
          (checkingPredicates.contextAt true "1" depth) v path).Approximates
        ((Pattern.object .reject [("a", .wrap .native .optional (.satisfies (.ref 4)))]).matcher
          (checkingPredicates.contextAt true "1" (depth + 1)) v path) := by
  have ha : checkingPredicates.cell 0 = .predicate (.check (.ref 1)) := rfl
  have hp : checkingPredicates.toPattern (.ref 1) = .ok (.arrayOf .integer) := rfl
  have hb : checkingPredicates.cell 2 = .predicate (.check (.ref 3)) := rfl
  have hc : checkingPredicates.cell 4 = .predicate (.check (.ref 5)) := rfl
  have hinner : Pattern.Replaced checkingPredicates (.arrayOf .integer) (.satisfies (.ref 0))
      (.satisfies (.ref 2)) (.satisfies (.ref 4)) :=
    .checked hb hc rfl rfl (.element .here)
  exact ⟨ha, hp, (matching_relocates_and_checks_transparently ha hp).2.2.2.2 _ _
    (.wrappedField .reject [] "a" .native .optional [] hinner)⟩

end Conformance
