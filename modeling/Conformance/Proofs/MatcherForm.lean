import Conformance.Proofs.Outcome
import Conformance.Proofs.PatternTree

/-!
# The forms of matchers

A matcher is a leaf, which looks at the value as a whole; a container, which goes through the parts
of the value in order; a wrapper; a choice; or a predicate. `leaf_matcher` and `container_matcher`
say what the first two do, so that later proofs need no more than one case for each form.
-/

namespace Conformance

/-! ### Visits -/

inductive Demand where
  /-- The part must match. -/
  | conform (p : Pattern)
  | nothing
  /-- The part must not be there. -/
  | absence

structure Visit where
  key : Value
  part : Value
  demand : Demand

/-- Matches a part at the path that its key extends. A part of which nothing is asked gets no
path. -/
def Visit.run (c : Context) (path : String) (visit : Visit) : Run Unit :=
  match visit.demand with
  | .conform p => (Run.lift (Path.join c.heap path visit.key)).andThen (p.matcher c visit.part)
  | .nothing => Run.ok ()
  | .absence =>
    (Run.lift (Path.join c.heap path visit.key)).andThen (Run.mismatch Reason.unknownKey)

def Demand.ofKey (unknown : UnknownKeys) (fields : List (String × Pattern)) (key : Value) :
    Demand :=
  match Pattern.declared? fields key, unknown with
  | some q, _ => .conform q.unwrapped
  | none, .allow => .nothing
  | none, .reject => .absence

/-- The entries of a plain dictionary, and none of any other value. -/
def Heap.plainEntries (h : Heap) (v : Value) : List (Value × Value) := (h.plainEntries? v).getD []

/-- Why a value that is no plain dictionary is rejected. -/
def Heap.plainFlaw (h : Heap) (v : Value) : Reason :=
  if h.category v = .object ∨ h.category v = .array then .notPlain
  else .expected "object" (h.category v).name

/-- Is the value of the category of a literal and equal to it? -/
def Heap.agrees (h : Heap) (v e : Value) : Except Fault Bool :=
  if h.category v = h.category e then h.equal v e else .ok false

namespace Pattern

/-! ### Containers -/

/-- The first declared name, unless its field may be absent, that no entry has. -/
def absent? (fields : List (String × Pattern)) (entries : List (Value × Value)) : Option String :=
  (fields.find? fun f => !f.2.isWrapped && !entries.any fun e => e.1.text? = some f.1).map (·.1)

/-- Does the matcher go through the parts of the value? -/
def isContainer : Pattern → Bool
  | arrayOf _ | object _ _ | objectWithValues _ => true
  | _ => false

def openingFlaw? (h : Heap) : Pattern → Value → Option Reason
  | arrayOf _, v => if h.isArrayLike v then none else some (.expected "array" (h.renderValue v))
  | _, v => if h.isPlain v then none else some (h.plainFlaw v)

def visits (h : Heap) : Pattern → Value → List Visit
  | arrayOf p, v =>
    (h.elements v).toList.zipIdx.map fun item => ⟨.int item.2, item.1, .conform p⟩
  | objectWithValues p, v => (h.plainEntries v).map fun e => ⟨e.1, e.2, .conform p⟩
  | object u fields, v => (h.plainEntries v).map fun e => ⟨e.1, e.2, .ofKey u fields e.1⟩
  | _, _ => []

def closingFlaw? (h : Heap) : Pattern → Value → Option Reason
  | object _ fields, v => (absent? fields (h.plainEntries v)).map .missingKey
  | _, _ => none

/-! ### Leaves -/

/-- Does the matcher look at the value as a whole? Variants that it does not know count too. -/
def isLeaf : Pattern → Bool
  | arrayOf _ | object _ _ | objectWithValues _ | wrap .native _ _ | oneOf _ | satisfies _ => false
  | _ => true

def leafFlaw? (h : Heap) : Pattern → Value → Except Fault (Option Reason)
  | any, _ => .ok none
  | literal e, v => do
    if (← h.agrees v e) then return none
    return some (.expected (← h.renderLiteral e) (h.renderValue v))
  | typeTag .native k, v =>
    let found := if k = .null then h.renderValue v else (h.category v).name
    .ok (if h.category v = k.category then none else some (.expected k.name found))
  | integer, v =>
    .ok (if h.category v = .number then
      if Matcher.isWhole v then none else some (.expected "Integer" (h.renderValue v))
    else some (.expected "Integer" (h.category v).name))
  | objectTag, v => .ok (ofCategory .object v)
  | functionTag, v => .ok (ofCategory .function v)
  | arrayTag, v =>
    .ok (if h.isArrayLike v then none else some (.expected "array" (h.renderValue v)))
  | dateTag, v => ofInstance (.classObject .datetime) v
  | regexTag, v => ofInstance (.classObject .regex) v
  | instanceOf target, v => ofInstance target v
  | p, _ => .error (.badPattern (.unknownType p.typeName))
where
  /-- Why a value is not of a category. -/
  ofCategory (k : Category) (v : Value) : Option Reason :=
    if h.category v = k then none else some (.expected k.name (h.category v).name)
  /-- Why a value is no instance. -/
  ofInstance (target v : Value) : Except Fault (Option Reason) := do
    return if (← h.isInstanceOf v target) then none
      else some (.expectedInstance target.instanceWords)

section Leaves

variable {h : Heap} {e target v : Value} {flaw? : Option Reason} {f : Fault}

theorem leafFlaw?_literal_ok_iff :
    leafFlaw? h (literal e) v = .ok flaw? ↔
      (h.agrees v e = .ok true ∧ flaw? = none) ∨
        ∃ wanted, h.agrees v e = .ok false ∧ h.renderLiteral e = .ok wanted ∧
          flaw? = some (.expected wanted (h.renderValue v)) := by
  rw [leafFlaw?]
  rcases h.agrees v e with f | same
  · simp [bind, Except.bind]
  · cases same with
    | true => simp [bind, Except.bind, pure, Except.pure, eq_comm]
    | false =>
      rcases h.renderLiteral e with f | wanted <;>
        simp [bind, Except.bind, pure, Except.pure, eq_comm]

theorem leafFlaw?_literal_error_iff :
    leafFlaw? h (literal e) v = .error f ↔
      h.agrees v e = .error f ∨ (h.agrees v e = .ok false ∧ h.renderLiteral e = .error f) := by
  rw [leafFlaw?]
  rcases h.agrees v e with g | same
  · simp [bind, Except.bind]
  · cases same with
    | true => simp [bind, Except.bind, pure, Except.pure]
    | false =>
      rcases h.renderLiteral e with g | wanted <;> simp [bind, Except.bind, pure, Except.pure]

theorem ofInstance_ok_iff :
    leafFlaw?.ofInstance h target v = .ok flaw? ↔
      ∃ belongs, h.isInstanceOf v target = .ok belongs ∧
        flaw? = if belongs then none else some (.expectedInstance target.instanceWords) := by
  rw [leafFlaw?.ofInstance]
  rcases h.isInstanceOf v target with f | belongs <;>
    simp [bind, Except.bind, pure, Except.pure, eq_comm]

end Leaves

/-! ### What the matchers do -/

section Matchers

variable (c : Context) (v : Value) (path : String)

theorem require_eq_flaw (b : Bool) (reason : Reason) :
    Run.require b reason path = Run.flaw (if b then none else some reason) path := by
  cases b <;> rfl

theorem require_decide_eq_flaw (p : Prop) [Decidable p] (reason : Reason) :
    Run.require p reason path = Run.flaw (if p then none else some reason) path := by
  simp only [require_eq_flaw, decide_eq_true_eq]

theorem instanceOf_eq_flaw (h : Heap) (target : Value) :
    Matcher.instanceOf h target v path =
      (Run.lift (leafFlaw?.ofInstance h target v)).andThen (Run.flaw · path) := by
  cases hi : h.isInstanceOf v target with
  | error f =>
    simp only [Matcher.instanceOf, leafFlaw?.ofInstance, hi]
    rfl
  | ok belongs =>
    simp only [Matcher.instanceOf, leafFlaw?.ofInstance, hi, Run.lift, Run.bind_eq, Run.andThen_ok]
    cases belongs <;> rfl

theorem literal_eq_flaw (h : Heap) (e : Value) :
    Matcher.literal h e v path =
      (Run.lift (leafFlaw? h (.literal e) v)).andThen (Run.flaw · path) := by
  have hm : Matcher.literal h e v path = (Run.lift (h.agrees v e)).andThen fun same =>
      if same then Run.ok () else (Run.lift (h.renderLiteral e)).andThen fun wanted =>
        Run.mismatch (.expected wanted (h.renderValue v)) path := rfl
  rw [hm]
  rcases hs : h.agrees v e with f | same
  · simp only [leafFlaw?, hs]
    rfl
  · cases same with
    | true =>
      simp only [leafFlaw?, hs]
      rfl
    | false =>
      rcases hr : h.renderLiteral e with f | wanted <;> simp only [leafFlaw?, hs, hr] <;> rfl

/-- A leaf settles its verdict at once. -/
theorem leaf_matcher {p : Pattern} (hp : p.isLeaf = true) :
    p.matcher c v path = (Run.lift (p.leafFlaw? c.heap v)).andThen (Run.flaw · path) := by
  cases p with
  | any => rfl
  | literal e => exact literal_eq_flaw v path c.heap e
  | typeTag o k =>
    cases o with
    | native => exact require_decide_eq_flaw path _ _
    | foreign => rfl
  | integer =>
    simp only [matcher, Matcher.integer, leafFlaw?, Run.lift, Run.andThen_ok]
    split
    · exact require_eq_flaw path _ _
    · rfl
  | objectTag => exact require_decide_eq_flaw path _ _
  | arrayTag => exact require_eq_flaw path _ _
  | functionTag => exact require_decide_eq_flaw path _ _
  | dateTag => exact instanceOf_eq_flaw v path c.heap _
  | regexTag => exact instanceOf_eq_flaw v path c.heap _
  | instanceOf target => exact instanceOf_eq_flaw v path c.heap target
  | wrap o w p =>
    cases o with
    | native => exact absurd hp Bool.false_ne_true
    | foreign => rfl
  | foreign t n => rfl
  | _ => exact absurd hp Bool.false_ne_true

end Matchers

/-! ### What containers do -/

section Containers

variable (c : Context) (v : Value) (path : String)

/-- A plain dictionary is an object: it is no array, and it cannot be called. -/
theorem category_of_isPlain {h : Heap} (hv : h.isPlain v = true) : h.category v = .object := by
  cases v with
  | ref a =>
    simp only [Heap.isPlain] at hv
    split at hv
    · rename_i entries hcell
      simp only [Heap.category, Heap.structuralCategory, Heap.isArrayLike, Heap.isCallable,
        Heap.isInstance, Heap.classes, hcell, Cell.classes]
      rfl
    · exact absurd hv Bool.false_ne_true
  | _ => exact absurd hv Bool.false_ne_true

theorem plainEntries_eq_flaw (h : Heap) :
    Matcher.plainEntries h v path =
      (Run.flaw (if h.isPlain v then none else some (h.plainFlaw v)) path).andThen fun _ =>
        Run.ok (h.plainEntries v) := by
  cases hv : h.plainEntries? v with
  | some entries =>
    have hp : h.isPlain v = true := by rw [Heap.isPlain_iff_plainEntries?, hv, Option.isSome_some]
    simp only [Matcher.plainEntries, category_of_isPlain v hp, true_or, if_true, hv, hp, Run.flaw,
      Run.andThen_ok, Heap.plainEntries, Option.getD_some]
  | none =>
    have hp : h.isPlain v = false := by rw [Heap.isPlain_iff_plainEntries?, hv, Option.isSome_none]
    simp only [Matcher.plainEntries, hv, hp, Heap.plainFlaw]
    split <;> rfl

theorem entry_eq_visit (u : UnknownKeys) (fields : List (String × Pattern)) (e : Value × Value) :
    Matcher.entry c.heap u (fieldMatchers c fields) path e =
      Visit.run c path ⟨e.1, e.2, .ofKey u fields e.1⟩ := by
  have hf := field?_fieldMatchers c fields e.1
  cases hd : declared? fields e.1 with
  | some q =>
    rw [hd, Option.map_some] at hf
    obtain ⟨f, hfield, hm⟩ := Option.map_eq_some_iff.mp hf
    simp only [Matcher.entry, hfield, Visit.run, Demand.ofKey, hd, hm]
    rfl
  | none =>
    rw [hd, Option.map_none] at hf
    have hfield := Option.map_eq_none_iff.mp hf
    cases u with
    | reject =>
      simp only [Matcher.entry, hfield, Visit.run, Demand.ofKey, hd]
      rfl
    | allow => simp only [Matcher.entry, hfield, Visit.run, Demand.ofKey, hd]

theorem missing?_fieldMatchers (fields : List (String × Pattern)) (entries : List (Value × Value)) :
    Matcher.missing? (fieldMatchers c fields) entries = absent? fields entries := by
  simp only [Matcher.missing?, absent?, fieldMatchers_eq_map, List.find?_map, Option.map_map]
  rfl

/-- A container first looks at the value as a whole, then goes through the parts up to the first
failure, and then looks for what is missing. -/
theorem container_matcher {p : Pattern} (hp : p.isContainer = true) :
    p.matcher c v path =
      (Run.flaw (p.openingFlaw? c.heap v) path).andThen fun _ =>
        (Run.each (Visit.run c path) (p.visits c.heap v)).andThen fun _ =>
          Run.flaw (p.closingFlaw? c.heap v) path := by
  cases p with
  | arrayOf p =>
    simp only [matcher, Matcher.arrayOf, Matcher.array, require_eq_flaw, openingFlaw?, visits,
      closingFlaw?, Run.each_map, Run.flaw_none, Run.eachElement_eq, Run.bind_eq,
      Run.andThen_ok_unit]
    rfl
  | objectWithValues p =>
    simp only [matcher, Matcher.values, plainEntries_eq_flaw, openingFlaw?, visits, closingFlaw?,
      Run.each_map, Run.flaw_none, Run.bind_eq, Run.andThen_ok_unit, Run.andThen_assoc,
      Run.andThen_ok]
    rfl
  | object u fields =>
    simp only [matcher, Matcher.object, plainEntries_eq_flaw, openingFlaw?, visits, closingFlaw?,
      Run.each_map, Run.bind_eq, Run.andThen_assoc, Run.andThen_ok, missing?_fieldMatchers]
    have he : Matcher.entry c.heap u (fieldMatchers c fields) path = _ :=
      funext (entry_eq_visit c path u fields)
    rw [he]
    cases absent? fields (c.heap.plainEntries v) <;> rfl
  | _ => exact absurd hp Bool.false_ne_true

end Containers

/-- Containers that find the same flaws in two values and visit the same parts match them alike. -/
theorem container_matcher_congr {c : Context} {p q : Pattern} {v w : Value} {path : String}
    (hp : p.isContainer = true) (hq : q.isContainer = true)
    (hopening : p.openingFlaw? c.heap v = q.openingFlaw? c.heap w)
    (hvisits : p.visits c.heap v = q.visits c.heap w)
    (hclosing : p.closingFlaw? c.heap v = q.closingFlaw? c.heap w) :
    p.matcher c v path = q.matcher c w path := by
  rw [container_matcher c v path hp, container_matcher c w path hq, hopening, hvisits, hclosing]

theorem openingFlaw?_arrayOf_eq_none_iff {h : Heap} {p : Pattern} {v : Value} :
    (arrayOf p).openingFlaw? h v = none ↔ h.isArrayLike v = true := by
  rw [openingFlaw?]
  cases h.isArrayLike v <;> simp

theorem openingFlaw?_eq_none_iff {h : Heap} {p : Pattern} {v : Value}
    (hp : ∀ q, p ≠ arrayOf q) :
    p.openingFlaw? h v = none ↔ h.plainEntries? v = some (h.plainEntries v) := by
  have hopening : p.openingFlaw? h v = if h.isPlain v then none else some (h.plainFlaw v) := by
    cases p with
    | arrayOf q => exact absurd rfl (hp q)
    | _ => rfl
  rw [hopening, Heap.isPlain_iff_plainEntries?, Heap.plainEntries]
  cases h.plainEntries? v <;> simp

theorem mem_parts_of_declared? {u : UnknownKeys} {fields : List (String × Pattern)} {key : Value}
    {q : Pattern} (h : declared? fields key = some q) : q.unwrapped ∈ (object u fields).parts := by
  obtain ⟨name, -, hmem⟩ := mem_of_declared? h
  exact List.mem_map.mpr ⟨(name, q), hmem, rfl⟩

theorem mem_parts_of_mem_visits {h : Heap} {p q : Pattern} {v : Value} {b : Visit}
    (hb : b ∈ p.visits h v) (hq : b.demand = .conform q) : q ∈ p.parts := by
  cases p with
  | arrayOf p =>
    obtain ⟨item, -, rfl⟩ := List.mem_map.mp hb
    cases hq
    exact List.mem_singleton_self _
  | objectWithValues p =>
    obtain ⟨e, -, rfl⟩ := List.mem_map.mp hb
    cases hq
    exact List.mem_singleton_self _
  | object u fields =>
    obtain ⟨e, -, rfl⟩ := List.mem_map.mp hb
    simp only [Demand.ofKey] at hq
    split at hq
    · rename_i q' _ hd
      cases hq
      exact mem_parts_of_declared? hd
    · cases hq
    · cases hq
  | _ => exact absurd hb List.not_mem_nil

/-! ### Results of leaves and containers -/

section Results

variable {c : Context} {v : Value} {path : String} {p : Pattern}

theorem leaf_result_ok_iff (hp : p.isLeaf = true) :
    (p.matcher c v path).result = .ok () ↔ p.leafFlaw? c.heap v = .ok none := by
  rw [leaf_matcher c v path hp, Run.lift_andThen_result_ok_iff]
  simp only [Run.flaw_result_ok_iff, exists_eq_right]

theorem leaf_result_mismatch_iff (hp : p.isLeaf = true) {m : Mismatch} :
    (p.matcher c v path).result = .error (.mismatch m) ↔
      ∃ reason, p.leafFlaw? c.heap v = .ok (some reason) ∧ m = ⟨reason, path⟩ := by
  rw [leaf_matcher c v path hp, Run.lift_andThen_result_error_iff]
  simp only [Run.flaw_result_error_iff, reduceCtorEq, and_false, exists_false, false_or,
    Failure.mismatch.injEq]
  constructor
  · rintro ⟨_, hl, reason, rfl, hm⟩
    exact ⟨reason, hl, hm⟩
  · rintro ⟨reason, hl, hm⟩
    exact ⟨some reason, hl, reason, rfl, hm⟩

theorem leaf_result_fault_iff (hp : p.isLeaf = true) {f : Fault} :
    (p.matcher c v path).result = .error (.fault f) ↔ p.leafFlaw? c.heap v = .error f := by
  rw [leaf_matcher c v path hp, Run.lift_andThen_result_error_iff]
  simp [Run.flaw_result_error_iff]

theorem container_result_ok_iff (hp : p.isContainer = true) :
    (p.matcher c v path).result = .ok () ↔
      p.openingFlaw? c.heap v = none ∧
        (∀ b ∈ p.visits c.heap v, (b.run c path).result = .ok ()) ∧
        p.closingFlaw? c.heap v = none := by
  rw [container_matcher c v path hp, Run.unit_andThen_result_ok_iff,
    Run.unit_andThen_result_ok_iff, Run.each_result_ok_iff, Run.flaw_result_ok_iff,
    Run.flaw_result_ok_iff]

/-- A container fails on the value as a whole, at one visit after others that succeed, or for
something that is missing after all visits. -/
theorem container_result_error_iff (hp : p.isContainer = true) {e : Failure} :
    (p.matcher c v path).result = .error e ↔
      (∃ reason, p.openingFlaw? c.heap v = some reason ∧ e = .mismatch ⟨reason, path⟩) ∨
        (p.openingFlaw? c.heap v = none ∧
          ((∃ before b after, p.visits c.heap v = before ++ b :: after ∧
              (∀ x ∈ before, (x.run c path).result = .ok ()) ∧ (b.run c path).result = .error e) ∨
            ((∀ b ∈ p.visits c.heap v, (b.run c path).result = .ok ()) ∧
              ∃ reason, p.closingFlaw? c.heap v = some reason ∧
                e = .mismatch ⟨reason, path⟩))) := by
  rw [container_matcher c v path hp, Run.unit_andThen_result_error_iff,
    Run.unit_andThen_result_error_iff, Run.each_result_error_iff, Run.each_result_ok_iff,
    Run.flaw_result_error_iff, Run.flaw_result_ok_iff, Run.flaw_result_error_iff]

end Results

/-! ### What wrappers and choices do -/

section Choices

variable {c : Context} {v : Value} {path : String}

theorem wrap_matcher (w : Wrapper) (p : Pattern) :
    (wrap .native w p).matcher c v path =
      if Matcher.excuses w v then Run.ok () else p.matcher c v path := rfl

theorem oneOf_nil_matcher : (oneOf []).matcher c v path = Run.mismatch .noChoice path := rfl

theorem oneOf_cons_matcher (p : Pattern) (rest : List Pattern) :
    (oneOf (p :: rest)).matcher c v path =
      (p.matcher c v path).recover fun _ => (oneOf rest).matcher c v path := rfl

theorem oneOf_result_ok_iff {choices : List Pattern} :
    ((oneOf choices).matcher c v path).result = .ok () ↔
      ∃ before p after, choices = before ++ p :: after ∧
        (∀ b ∈ before, (b.matcher c v path).Diverges) ∧ (p.matcher c v path).result = .ok () := by
  induction choices with
  | nil => simp [oneOf_nil_matcher]
  | cons p rest ih =>
    rw [oneOf_cons_matcher, Run.recover_result_ok_iff, exists_and_right, ih]
    exact (Run.exists_split_cons p rest (fun q => (q.matcher c v path).Diverges)
      fun q => (q.matcher c v path).result = .ok ()).symm

theorem oneOf_result_fault_iff {choices : List Pattern} {f : Fault} :
    ((oneOf choices).matcher c v path).result = .error (.fault f) ↔
      ∃ before p after, choices = before ++ p :: after ∧
        (∀ b ∈ before, (b.matcher c v path).Diverges) ∧
        (p.matcher c v path).result = .error (.fault f) := by
  induction choices with
  | nil => simp [oneOf_nil_matcher]
  | cons p rest ih =>
    rw [oneOf_cons_matcher, Run.recover_result_fault_iff, exists_and_right, ih]
    exact (Run.exists_split_cons p rest (fun q => (q.matcher c v path).Diverges)
      fun q => (q.matcher c v path).result = .error (.fault f)).symm

theorem oneOf_result_mismatch_iff {choices : List Pattern} {m : Mismatch} :
    ((oneOf choices).matcher c v path).result = .error (.mismatch m) ↔
      (∀ p ∈ choices, (p.matcher c v path).Diverges) ∧ m = ⟨.noChoice, path⟩ := by
  induction choices with
  | nil => simp [oneOf_nil_matcher, eq_comm]
  | cons p rest ih =>
    rw [oneOf_cons_matcher, Run.recover_result_mismatch_iff, exists_and_right, ih,
      List.forall_mem_cons, and_assoc]
    rfl

end Choices

/-! ### Induction by form -/

/-- Induction along the parts of a pattern, with one case for each form of matcher. -/
@[elab_as_elim]
theorem formInduction {motive : Pattern → Prop} (p : Pattern)
    (leaf : ∀ p, p.isLeaf = true → motive p)
    (container : ∀ p, p.isContainer = true → (∀ q ∈ p.parts, motive q) → motive p)
    (wrap : ∀ w p, motive p → motive (.wrap .native w p))
    (oneOf : ∀ choices, (∀ q ∈ choices, motive q) → motive (.oneOf choices))
    (satisfies : ∀ f, motive (.satisfies f)) : motive p := by
  induction p using partsInduction with
  | step p ih =>
    cases p with
    | arrayOf p => exact container _ rfl ih
    | object u fields => exact container _ rfl ih
    | objectWithValues p => exact container _ rfl ih
    | wrap o w p =>
      cases o with
      | native => exact wrap w p (ih p (List.mem_singleton_self p))
      | foreign => exact leaf _ rfl
    | oneOf choices => exact oneOf choices ih
    | satisfies f => exact satisfies f
    | _ => exact leaf _ rfl

end Pattern
end Conformance
