import Conformance.Proofs.CallOrder

/-!
# Matching within a budget

A value may contain itself, so matching does not end because the value does. Every match begins
others for the parts of its pattern only, so that matches nest no deeper than the pattern, whatever
the value is. `Pattern.matcherWithin` begins matches nested at most a given number deep; the height
of the pattern is always enough.
-/

namespace Conformance
namespace Pattern

variable {c : Context} {p : Pattern}

/-! ### One match -/

/-- What a match does itself, where `self` matches the parts. Leaves and predicates begin no other
match. -/
def dispatch (c : Context) (self : Pattern → Matcher) : Pattern → Matcher
  | arrayOf p => Matcher.arrayOf c.heap (self p)
  | object u fields =>
    Matcher.object c.heap u (fields.map fun f => ⟨f.1, !f.2.isWrapped, self f.2.unwrapped⟩)
  | objectWithValues p => Matcher.values c.heap (self p)
  | wrap .native w p => Matcher.wrap w (self p)
  | oneOf choices => Matcher.oneOf (choices.map self)
  | p => p.matcher c

theorem choiceMatchers_eq_map (c : Context) (choices : List Pattern) :
    choiceMatchers c choices = choices.map fun p => p.matcher c := by
  induction choices with
  | nil => rfl
  | cons p rest ih => rw [choiceMatchers, ih, List.map_cons]

theorem dispatch_matcher (c : Context) (p : Pattern) :
    dispatch c (fun q => q.matcher c) p = p.matcher c := by
  cases p with
  | object u fields =>
    rw [matcher, fieldMatchers_eq_map]
    rfl
  | oneOf choices =>
    rw [matcher, choiceMatchers_eq_map]
    rfl
  | wrap o w p => cases o <;> rfl
  | _ => rfl

/-- A match looks at no other patterns than the parts. -/
theorem dispatch_congr {self self' : Pattern → Matcher} (h : ∀ q ∈ p.parts, self q = self' q) :
    dispatch c self p = dispatch c self' p := by
  cases p with
  | arrayOf p => simp only [dispatch, h p (List.mem_singleton_self p)]
  | objectWithValues p => simp only [dispatch, h p (List.mem_singleton_self p)]
  | wrap o w p =>
    cases o with
    | native => simp only [dispatch, h p (List.mem_singleton_self p)]
    | foreign => rfl
  | oneOf choices =>
    have hchoices : choices.map self = choices.map self' := List.map_congr_left h
    rw [dispatch, dispatch, hchoices]
  | object u fields =>
    have hfields : ∀ f ∈ fields, self f.2.unwrapped = self' f.2.unwrapped := fun f hf =>
      h _ (List.mem_map_of_mem hf)
    have hmatchers : fields.map (fun f => FieldMatcher.mk f.1 (!f.2.isWrapped) (self f.2.unwrapped)) =
        fields.map fun f => ⟨f.1, !f.2.isWrapped, self' f.2.unwrapped⟩ :=
      List.map_congr_left fun f hf => congrArg (FieldMatcher.mk f.1 (!f.2.isWrapped)) (hfields f hf)
    rw [dispatch, dispatch, hmatchers]
  | _ => rfl

/-! ### Nested matches -/

/-- Matches values while matches nest at most `budget` deep, and does what `spent` does instead of
a match that would nest deeper. -/
def matcherWithin (c : Context) (spent : Matcher) : Nat → Pattern → Matcher
  | 0, _ => spent
  | budget + 1, p => dispatch c (matcherWithin c spent budget) p

/-- A budget as great as the height is never used up: it does not matter what would happen then. -/
theorem matcherWithin_eq_matcher (spent : Matcher) {budget : Nat} (hp : p.height ≤ budget) :
    matcherWithin c spent budget p = p.matcher c := by
  induction budget generalizing p with
  | zero => exact absurd (Nat.lt_of_lt_of_le p.height_pos hp) (Nat.lt_irrefl 0)
  | succ budget ih =>
    have hparts : ∀ q ∈ p.parts, matcherWithin c spent budget q = q.matcher c := fun q hq =>
      ih (Nat.le_of_lt_succ (Nat.lt_of_lt_of_le (height_lt_of_mem_parts hq) hp))
    rw [matcherWithin, dispatch_congr hparts, dispatch_matcher]

/-- A match of the second pair begins directly within a match of the first. -/
def Begins (c : Context) (s t : Pattern × Value) : Prop := t ∈ s.1.subjects c s.2

theorem begins_first {q : Pattern} {v x : Value} {rest : List Value}
    (hv : c.heap.isArrayLike v = true) (hx : (c.heap.elements v).toList = x :: rest) :
    Begins c (arrayOf q, v) (q, x) := by
  have hopening : (arrayOf q).openingFlaw? c.heap v = none :=
    openingFlaw?_arrayOf_eq_none_iff.mpr hv
  have hkey : Path.keyAccessor c.heap (.int 0) = .ok "[0]" := by
    have hpos : ∀ k, 0 < Nat.pow 10 k := fun k => Nat.pow_pos (by decide)
    have hzero : integerText 0 = .ok "0" := integerText_of_lt (hpos digitLimit)
    simp only [Path.keyAccessor, Value.integer?, hzero]
    rfl
  have hsubjects : Visit.subjects c.heap ⟨.int 0, x, .conform q⟩ = [(q, x)] := by
    simp only [Visit.subjects, hkey]
  rw [Begins, subjects_container rfl, if_pos hopening, visits, hx, List.zipIdx_cons, List.map_cons,
    upTo]
  split <;> exact List.mem_flatMap.mpr ⟨_, List.mem_cons_self, hsubjects ▸ List.mem_cons_self⟩

/-- Matches that begin within each other are matches of lower and lower patterns. -/
theorem length_le_height {s : Pattern × Value} {inner : List (Pattern × Value)}
    (h : List.IsChain (Begins c) (s :: inner)) : (s :: inner).length ≤ s.1.height := by
  induction inner generalizing s with
  | nil => exact s.1.height_pos
  | cons t inner ih =>
    obtain ⟨hbegins, hinner⟩ := List.isChain_cons_cons.mp h
    have hlower : t.1.height < s.1.height :=
      height_lt_of_mem_parts (mem_parts_of_mem_subjects hbegins)
    have hlength := ih hinner
    rw [List.length_cons]
    omega

/-- Matches begin within each other no deeper than variants nest in the pattern, whatever the value
is. So a match whose budget is the height of the pattern, or anything more, ends as the match
without a budget does, and never comes to what it would do with its budget spent. -/
theorem matching_within_height (c : Context) (v : Value) (path : String) :
    (∀ (p : Pattern) (inner : List (Pattern × Value)),
      List.IsChain (Begins c) ((p, v) :: inner) → inner.length < p.height) ∧
    (∀ (p : Pattern) (spent : Matcher) (more : Nat),
      matcherWithin c spent (p.height + more) p v path = p.matcher c v path) ∧
    ∀ (raw : Value) (spent : Matcher) (more : Nat),
      c.matchAt v raw path = (Run.lift (c.heap.toPattern raw)).andThen fun p =>
        matcherWithin c spent (p.height + more) p v path := by
  refine ⟨fun p inner h => length_le_height h, fun p spent more => ?_, fun raw spent more => ?_⟩
  · rw [matcherWithin_eq_matcher spent (Nat.le_add_right p.height more)]
  · have hwithin : ∀ p : Pattern,
        matcherWithin c spent (p.height + more) p v path = p.matcher c v path := fun p => by
      rw [matcherWithin_eq_matcher spent (Nat.le_add_right p.height more)]
    simp only [hwithin]
    rfl

end Pattern

def nestedArrays : Pattern := .arrayOf (.arrayOf (.oneOf [.integer, .arrayTag]))

/-- A list that holds itself, and a string object, the elements of which are string objects again. -/
def endlessArrays : Heap :=
  ⟨#[.sequence .list [.ref 0, .userStr "ab"], .pattern nestedArrays []]⟩

/-- The matches nest as deep as the pattern is high, so a smaller budget is spent. -/
theorem endlessArrays_within_height :
    let c := endlessArrays.context false ""
    let spent : Matcher := fun _ _ => Run.fault .nestingLimit
    [(Pattern.arrayOf (.oneOf [.integer, .arrayTag]), Value.ref 0),
        (.oneOf [.integer, .arrayTag], .ref 0), (.integer, .ref 0)].length < nestedArrays.height ∧
      Pattern.matcherWithin c spent nestedArrays.height nestedArrays (.ref 0) "" =
        nestedArrays.matcher c (.ref 0) "" ∧
      (c.matchAt (.ref 0) (.ref 1) "").result = .ok () ∧
      (Pattern.matcherWithin c spent 3 nestedArrays (.ref 0) "").result =
        .error (.fault .nestingLimit) := by
  intro c spent
  obtain ⟨hchain, hwithin, hraw⟩ := Pattern.matching_within_height c (.ref 0) ""
  refine ⟨hchain nestedArrays _ ?_, hwithin nestedArrays spent 0, ?_, by decide +kernel⟩
  · have hchoice : Pattern.Begins c (.oneOf [.integer, .arrayTag], .ref 0) (.integer, .ref 0) :=
      List.mem_cons_self
    exact .cons_cons (Pattern.begins_first rfl rfl)
      (.cons_cons (Pattern.begins_first rfl rfl) (.cons_cons hchoice (.singleton _)))
  · rw [hraw (.ref 1) spent 0]
    decide +kernel

end Conformance
