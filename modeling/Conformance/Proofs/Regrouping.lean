import Conformance.Proofs.Transparency

/-!
# Regrouped choices

How choices are put together from others, and which of them are repeated, does not matter: a value
matches, fails or comes to a fault as if all choices stood in one list and each of them once. So it
is for choices anywhere in a pattern.
-/

namespace Conformance
namespace Pattern

variable {c : Context} {p q r : Pattern} {v : Value} {path : String}

/-! ### Lists of choices -/

theorem oneOf_append_matcher (ps qs : List Pattern) :
    (oneOf (ps ++ qs)).matcher c v path =
      ((oneOf ps).matcher c v path).recover fun _ => (oneOf qs).matcher c v path := by
  induction ps with
  | nil => rw [List.nil_append, oneOf_nil_matcher, Run.recover_mismatch]
  | cons p ps ih =>
    rw [List.cons_append, oneOf_cons_matcher, ih, oneOf_cons_matcher, Run.recover_assoc]

/-- A group of consecutive choices may stand as one choice: the calls are the same, too. -/
theorem oneOf_group_matcher (before group after : List Pattern) :
    (oneOf (before ++ oneOf group :: after)).matcher c v path =
      (oneOf (before ++ group ++ after)).matcher c v path := by
  rw [List.append_assoc, oneOf_append_matcher before, oneOf_append_matcher before,
    oneOf_append_matcher group, oneOf_cons_matcher]

theorem oneOf_repeated_result {before : List Pattern} (hp : p ∈ before) (after : List Pattern) :
    ((oneOf (before ++ p :: after)).matcher c v path).result =
      ((oneOf (before ++ after)).matcher c v path).result := by
  rw [oneOf_append_matcher, oneOf_append_matcher]
  refine Run.recover_result_congr ?_
  -- the second time, the choice is tried only if it has failed before
  rintro ⟨m, hm⟩
  have hfailed : (p.matcher c v path).Diverges := (oneOf_result_mismatch_iff.mp hm).1 p hp
  rw [oneOf_cons_matcher, Run.recover_result_of_diverges hfailed]

/-! ### Patterns that end alike -/

/-- Every match against the first pattern ends as the match against the second does. -/
def EndsAlike (c : Context) (p q : Pattern) : Prop :=
  ∀ v path, (p.matcher c v path).result = (q.matcher c v path).result

theorem EndsAlike.approximates (h : EndsAlike c p q) : p.Approximates c c q :=
  fun v path => .of_result_eq (h v path)

theorem EndsAlike.symm (h : EndsAlike c p q) : EndsAlike c q p := fun v path => (h v path).symm

theorem endsAlike_of_approximates (hpq : p.Approximates c c q) (hqp : q.Approximates c c p) :
    EndsAlike c p q := fun v path => (hpq v path).antisymm (hqp v path)

/-- What a construct makes of patterns ends alike if it keeps approximation. -/
theorem EndsAlike.construct {build : Pattern → Pattern} (h : EndsAlike c p q)
    (hbuild : ∀ {p q : Pattern}, p.Approximates c c q → (build p).Approximates c c (build q)) :
    EndsAlike c (build p) (build q) :=
  endsAlike_of_approximates (hbuild h.approximates) (hbuild h.symm.approximates)

/-- Both patterns end alike wherever they stand: as they are, and as fields without a wrapper. -/
structure ServesAlike (c : Context) (p q : Pattern) : Prop where
  isWrapped : p.isWrapped = q.isWrapped
  whole : EndsAlike c p q
  unwrapped : EndsAlike c p.unwrapped q.unwrapped

namespace ServesAlike

theorem refl (p : Pattern) : ServesAlike c p p := ⟨rfl, fun _ _ => rfl, fun _ _ => rfl⟩

theorem symm (h : ServesAlike c p q) : ServesAlike c q p :=
  ⟨h.isWrapped.symm, h.whole.symm, h.unwrapped.symm⟩

theorem trans (hpq : ServesAlike c p q) (hqr : ServesAlike c q r) : ServesAlike c p r where
  isWrapped := hpq.isWrapped.trans hqr.isWrapped
  whole v path := (hpq.whole v path).trans (hqr.whole v path)
  unwrapped v path := (hpq.unwrapped v path).trans (hqr.unwrapped v path)

theorem of_not_wrapped (hp : p.isWrapped = false) (hq : q.isWrapped = false)
    (h : EndsAlike c p q) : ServesAlike c p q := by
  refine ⟨hp.trans hq.symm, h, ?_⟩
  rw [unwrapped_of_isWrapped_eq_false hp, unwrapped_of_isWrapped_eq_false hq]
  exact h

theorem fieldRelated (h : ServesAlike c p q) (name : String) :
    FieldRelated (Approximates c c) (name, p) (name, q) :=
  ⟨rfl, h.isWrapped, h.unwrapped.approximates⟩

theorem field (h : ServesAlike c p q) (u : UnknownKeys) (before : List (String × Pattern))
    (name : String) (after : List (String × Pattern)) :
    ServesAlike c (object u (before ++ (name, p) :: after))
      (object u (before ++ (name, q) :: after)) := by
  have hself : ∀ f : String × Pattern, FieldRelated (Approximates c c) f f := fun f =>
    (refl f.2).fieldRelated f.1
  have hfield : ∀ {p q : Pattern}, ServesAlike c p q →
      (object u (before ++ (name, p) :: after)).Approximates c c
        (object u (before ++ (name, q) :: after)) :=
    fun hpq => object_approximates (.refl c) u
      (forall₂_replace hself (hpq.fieldRelated name) before after)
  exact of_not_wrapped rfl rfl (endsAlike_of_approximates (hfield h) (hfield h.symm))

theorem choice (h : ServesAlike c p q) (before after : List Pattern) :
    ServesAlike c (oneOf (before ++ p :: after)) (oneOf (before ++ q :: after)) := by
  have hself : ∀ r : Pattern, r.Approximates c c r := fun r => (refl r).whole.approximates
  have hchoice : ∀ {p q : Pattern}, p.Approximates c c q →
      (oneOf (before ++ p :: after)).Approximates c c (oneOf (before ++ q :: after)) :=
    fun hpq => oneOf_approximates (forall₂_replace hself hpq before after)
  exact of_not_wrapped rfl rfl (h.whole.construct hchoice)

end ServesAlike

/-! ### Regrouping -/

/-- The second pattern is the first with other groups of choices and other repetitions of them, at
any depth. Consecutive choices are put together as one choice or taken apart, and a choice that
stands earlier in the list comes or goes. -/
inductive Regrouped : Pattern → Pattern → Prop where
  | refl (p : Pattern) : Regrouped p p
  | symm {p q : Pattern} (h : Regrouped p q) : Regrouped q p
  | trans {p q r : Pattern} (hpq : Regrouped p q) (hqr : Regrouped q r) : Regrouped p r
  | group (before group after : List Pattern) :
    Regrouped (oneOf (before ++ group ++ after)) (oneOf (before ++ oneOf group :: after))
  | repeated {p : Pattern} {before : List Pattern} (hp : p ∈ before) (after : List Pattern) :
    Regrouped (oneOf (before ++ p :: after)) (oneOf (before ++ after))
  | arrayOf {p q : Pattern} (h : Regrouped p q) : Regrouped (arrayOf p) (arrayOf q)
  | objectWithValues {p q : Pattern} (h : Regrouped p q) :
    Regrouped (objectWithValues p) (objectWithValues q)
  | wrap (o : Origin) (w : Wrapper) {p q : Pattern} (h : Regrouped p q) :
    Regrouped (wrap o w p) (wrap o w q)
  | field (u : UnknownKeys) (before : List (String × Pattern)) (name : String) {p q : Pattern}
    (after : List (String × Pattern)) (h : Regrouped p q) :
    Regrouped (object u (before ++ (name, p) :: after)) (object u (before ++ (name, q) :: after))
  | choice (before : List Pattern) {p q : Pattern} (after : List Pattern) (h : Regrouped p q) :
    Regrouped (oneOf (before ++ p :: after)) (oneOf (before ++ q :: after))

theorem Regrouped.servesAlike (h : Regrouped p q) : ServesAlike c p q := by
  induction h with
  | refl p => exact .refl p
  | symm _ ih => exact ih.symm
  | trans _ _ ihpq ihqr => exact ihpq.trans ihqr
  | group before group after =>
    exact .of_not_wrapped rfl rfl fun v path =>
      congrArg Run.result (oneOf_group_matcher before group after).symm
  | repeated hp after =>
    exact .of_not_wrapped rfl rfl fun v path => oneOf_repeated_result hp after
  | arrayOf _ ih =>
    exact .of_not_wrapped rfl rfl (ih.whole.construct (arrayOf_approximates (.refl c)))
  | objectWithValues _ ih =>
    exact .of_not_wrapped rfl rfl (ih.whole.construct (objectWithValues_approximates (.refl c)))
  | wrap o w _ ih => exact ⟨rfl, ih.whole.construct (wrap_approximates o w), ih.whole⟩
  | field u before name after _ ih => exact ih.field u before name after
  | choice before after _ ih => exact ih.choice before after

/-- Choices may be put together in groups in any way and to any depth, and repeated choices dropped,
anywhere in a pattern: every match ends as before, with success, with the same mismatch, or with the
same fault. The mismatch of a choice is always its own, at the path of the whole. -/
theorem regrouped_choices_end_alike (c : Context) {p q : Pattern} (h : Regrouped p q) :
    (∀ v path, (p.matcher c v path).result = (q.matcher c v path).result) ∧
      ∀ choices v path m, ((oneOf choices).matcher c v path).result = .error (.mismatch m) →
        m.path = path ∧ m.reason.text = "Failed OneOf validation" := by
  refine ⟨h.servesAlike.whole, fun choices v path m hm => ?_⟩
  obtain ⟨-, rfl⟩ := oneOf_result_mismatch_iff.mp hm
  exact ⟨rfl, rfl⟩

end Pattern

/-- Choices one after the other: an absent value or a text, an integer, and what a predicate
accepts. -/
def flatChoices : List Pattern :=
  [.wrap .native .optional (.typeTag .native .string), .integer, .satisfies (.ref 1)]

/-- The same choices in two groups, of which the second repeats a choice of the first. -/
def groupedChoices : List Pattern :=
  [.oneOf [.wrap .native .optional (.typeTag .native .string), .integer],
    .oneOf [.integer, .satisfies (.ref 1)]]

theorem flatChoices_regrouped :
    Pattern.Regrouped (.oneOf flatChoices) (.oneOf groupedChoices) := by
  let text : Pattern := .wrap .native .optional (.typeTag .native .string)
  let call : Pattern := .satisfies (.ref 1)
  have hearlier : Pattern.integer ∈ [text, .integer] := List.mem_cons_of_mem _ List.mem_cons_self
  have hrepeated : Pattern.Regrouped (.oneOf [text, .integer, call])
      (.oneOf [text, .integer, .integer, call]) :=
    .symm (.repeated hearlier [call])
  have hfirst : Pattern.Regrouped (.oneOf [text, .integer, .integer, call])
      (.oneOf [.oneOf [text, .integer], .integer, call]) :=
    .group [] [text, .integer] [.integer, call]
  have hsecond : Pattern.Regrouped (.oneOf [.oneOf [text, .integer], .integer, call])
      (.oneOf [.oneOf [text, .integer], .oneOf [.integer, call]]) :=
    .group [.oneOf [text, .integer]] [.integer, call] []
  exact hrepeated.trans (hfirst.trans hsecond)

/-- Dictionaries, and a predicate that raises a fault. -/
def raisingChoice : Heap :=
  ⟨#[.dict .plain [(.str "a", .null)], .predicate (.raise .valueError "x"), .dict .plain []]⟩

/-- The predicate is called from the same choice, and a field with choices stays required. -/
theorem raisingChoice_ends_alike :
    let c := raisingChoice.context false ""
    let flat := Pattern.object .reject [("a", .oneOf flatChoices)]
    let grouped := Pattern.object .reject [("a", .oneOf groupedChoices)]
    Pattern.Regrouped flat grouped ∧
      (flat.matcher c (.ref 0) "r").result = (grouped.matcher c (.ref 0) "r").result ∧
      (grouped.matcher c (.ref 0) "r").result = .error (.fault (.raised .valueError "x")) ∧
      (flat.matcher c (.ref 2) "r").result = (grouped.matcher c (.ref 2) "r").result ∧
      (grouped.matcher c (.ref 2) "r").result = .error (.mismatch ⟨.missingKey "a", "r"⟩) := by
  have hregrouped := Pattern.Regrouped.field .reject [] "a" [] flatChoices_regrouped
  obtain ⟨halike, -⟩ :=
    Pattern.regrouped_choices_end_alike (raisingChoice.context false "") hregrouped
  exact ⟨hregrouped, halike _ _, by decide +kernel, halike _ _, by decide +kernel⟩

end Conformance
