import Conformance.Proofs.Divergence
import Mathlib.Data.List.Find

/-!
# The declared part of an object

Of a dictionary, an object pattern that allows undeclared keys looks at the entries under declared
keys only. It does to the dictionary what the pattern with the same fields that rejects undeclared
keys does to the dictionary of these entries: the same calls, the same reason at the same path, the
same fault.
-/

namespace Conformance

/-! ### Walks past items -/

/-- Items that nothing is done to may be left out of a walk. -/
theorem Run.each_filter {α : Type} {f : α → Run Unit} {kept : α → Bool} {xs : List α}
    (h : ∀ x ∈ xs, kept x = false → f x = ok ()) : each f (xs.filter kept) = each f xs := by
  induction xs with
  | nil => rfl
  | cons x xs ih =>
    obtain ⟨hx, hxs⟩ := List.forall_mem_cons.mp h
    rw [List.filter_cons]
    cases hkept : kept x with
    | true => rw [if_pos rfl, each_cons, each_cons, ih hxs]
    | false => rw [if_neg Bool.false_ne_true, each_cons, hx hkept, andThen_ok, ih hxs]

namespace Pattern

variable {c : Context} {fields : List (String × Pattern)} {u : UnknownKeys} {v w : Value}
  {entries : List (Value × Value)} {path : String}

/-! ### Declared entries -/

def declares (fields : List (String × Pattern)) (key : Value) : Bool :=
  (declared? fields key).isSome

def declaredPart (fields : List (String × Pattern)) (entries : List (Value × Value)) :
    List (Value × Value) :=
  entries.filter fun e => declares fields e.1

theorem declares_of_mem_declaredPart {e : Value × Value} (he : e ∈ declaredPart fields entries) :
    declares fields e.1 = true := (List.mem_filter.mp he).2

theorem declaredPart_eq_self_iff :
    declaredPart fields entries = entries ↔ ∀ e ∈ entries, declares fields e.1 = true :=
  List.filter_eq_self

theorem declares_of_text?_eq {f : String × Pattern} (hf : f ∈ fields) {key : Value}
    (hkey : key.text? = some f.1) : declares fields key = true := by
  have hfind : (fields.find? (·.1 = f.1)).isSome = true :=
    List.find?_isSome.mpr ⟨f, hf, decide_eq_true rfl⟩
  rw [declares, declared?, hkey, Option.bind_some, Option.isSome_map]
  exact hfind

theorem declared?_of_not_declares {key : Value} (hkey : declares fields key = false) :
    declared? fields key = none := by
  simpa [declares] using hkey

/-- Under a declared key, it does not matter what becomes of undeclared ones. -/
theorem ofKey_of_declares {key : Value} (hkey : declares fields key = true) (u u' : UnknownKeys) :
    Demand.ofKey u fields key = Demand.ofKey u' fields key := by
  obtain ⟨q, hq⟩ := Option.isSome_iff_exists.mp hkey
  simp only [Demand.ofKey, hq]

/-- No field is missing for want of an undeclared entry. -/
theorem absent?_declaredPart (fields : List (String × Pattern)) (entries : List (Value × Value)) :
    absent? fields (declaredPart fields entries) = absent? fields entries := by
  rw [absent?, absent?]
  refine congrArg _ (List.find?_congr fun f hf => ?_)
  have hany : ((declaredPart fields entries).any fun e => e.1.text? = some f.1) =
      entries.any fun e => e.1.text? = some f.1 := by
    rw [Bool.eq_iff_iff, List.any_eq_true, List.any_eq_true]
    constructor
    · rintro ⟨e, he, hname⟩
      exact ⟨e, (List.mem_filter.mp he).1, hname⟩
    · rintro ⟨e, he, hname⟩
      have hdeclares := declares_of_text?_eq hf (of_decide_eq_true hname)
      exact ⟨e, List.mem_filter.mpr ⟨he, hdeclares⟩, hname⟩
  rw [hany]

/-! ### Matches of dictionaries -/

def entryRun (c : Context) (u : UnknownKeys) (fields : List (String × Pattern)) (path : String)
    (e : Value × Value) : Run Unit :=
  Visit.run c path ⟨e.1, e.2, .ofKey u fields e.1⟩

theorem object_matcher_of_plainEntries? (hv : c.heap.plainEntries? v = some entries) :
    (object u fields).matcher c v path =
      (Run.each (entryRun c u fields path) entries).andThen fun _ =>
        Run.flaw ((absent? fields entries).map .missingKey) path := by
  have hopening : (object u fields).openingFlaw? c.heap v = none := by
    rw [openingFlaw?_eq_none_iff (by simp), Heap.plainEntries, hv, Option.getD_some]
  rw [container_matcher c v path rfl, hopening, Run.flaw_none, Run.andThen_ok]
  simp only [visits, closingFlaw?, Heap.plainEntries, hv, Option.getD_some, Run.each_map]
  rfl

theorem object_matcher_of_not_plain (hv : c.heap.plainEntries? v = none) :
    (object u fields).matcher c v path = Run.mismatch (c.heap.plainFlaw v) path := by
  have hplain : c.heap.isPlain v = false := by
    rw [Heap.isPlain_iff_plainEntries?, hv, Option.isSome_none]
  have hopening : (object u fields).openingFlaw? c.heap v = some (c.heap.plainFlaw v) := by
    simp [openingFlaw?, hplain]
  rw [container_matcher c v path rfl, hopening]
  rfl

theorem entryRun_of_declares {e : Value × Value} (he : declares fields e.1 = true)
    (u u' : UnknownKeys) : entryRun c u fields path e = entryRun c u' fields path e := by
  rw [entryRun, entryRun, ofKey_of_declares he u u']

theorem entryRun_allow_of_not_declares {e : Value × Value} (he : declares fields e.1 = false) :
    entryRun c .allow fields path e = Run.ok () := by
  simp only [entryRun, Visit.run, Demand.ofKey, declared?_of_not_declares he]

theorem entryRun_reject_of_not_declares {e : Value × Value} (he : declares fields e.1 = false) :
    (entryRun c .reject fields path e).result ≠ .ok () := by
  simp only [entryRun, Visit.run, Demand.ofKey, declared?_of_not_declares he, ne_eq,
    Run.lift_andThen_result_ok_iff, Run.result_mismatch, reduceCtorEq, and_false, exists_false,
    not_false_eq_true]

/-- The walk through a dictionary that passes over undeclared keys is the walk through its declared
part, whatever becomes of undeclared keys there. -/
theorem each_entryRun_allow (entries : List (Value × Value)) :
    Run.each (entryRun c .allow fields path) entries =
      Run.each (entryRun c u fields path) (declaredPart fields entries) := by
  calc Run.each (entryRun c .allow fields path) entries
      = Run.each (entryRun c .allow fields path) (declaredPart fields entries) :=
        (Run.each_filter fun _ _ he => entryRun_allow_of_not_declares he).symm
    _ = Run.each (entryRun c u fields path) (declaredPart fields entries) :=
        Run.each_congr fun _ he => entryRun_of_declares (declares_of_mem_declaredPart he) .allow u

/-- A pattern that allows undeclared keys does to a dictionary what any pattern with its fields does
to the declared part. -/
theorem allow_matcher_eq_declaredPart (hv : c.heap.plainEntries? v = some entries)
    (hw : c.heap.plainEntries? w = some (declaredPart fields entries)) :
    (object .allow fields).matcher c v path = (object u fields).matcher c w path := by
  rw [object_matcher_of_plainEntries? hv, object_matcher_of_plainEntries? hw,
    each_entryRun_allow (u := u), absent?_declaredPart]

theorem allow_matcher_congr {others : List (Value × Value)}
    (hv : c.heap.plainEntries? v = some entries) (hw : c.heap.plainEntries? w = some others)
    (hparts : declaredPart fields entries = declaredPart fields others) :
    (object .allow fields).matcher c v path = (object .allow fields).matcher c w path := by
  rw [object_matcher_of_plainEntries? hv, object_matcher_of_plainEntries? hw,
    each_entryRun_allow (u := .allow), each_entryRun_allow (u := .allow) others, hparts,
    ← absent?_declaredPart, hparts, absent?_declaredPart]

theorem reject_matcher_eq_allow (hv : c.heap.plainEntries? v = some entries)
    (hkeys : ∀ e ∈ entries, declares fields e.1 = true) :
    (object .reject fields).matcher c v path = (object .allow fields).matcher c v path := by
  have hw : c.heap.plainEntries? v = some (declaredPart fields entries) := by
    rw [declaredPart_eq_self_iff.mpr hkeys]
    exact hv
  exact (allow_matcher_eq_declaredPart hv hw).symm

theorem declares_of_reject_ok (hv : c.heap.plainEntries? v = some entries)
    (hok : ((object .reject fields).matcher c v path).result = .ok ()) :
    ∀ e ∈ entries, declares fields e.1 = true := by
  intro e he
  rw [object_matcher_of_plainEntries? hv, Run.unit_andThen_result_ok_iff,
    Run.each_result_ok_iff] at hok
  by_contra hkey
  exact entryRun_reject_of_not_declares (Bool.eq_false_of_not_eq_true hkey) (hok.1 e he)

/-- To allow undeclared keys is to look at the declared part only: the match of a dictionary is that
of the dictionary of its declared entries, in their order, against the pattern that rejects
undeclared keys, with the same calls, reason, path and fault. What is no plain dictionary fails
alike. So entries under undeclared keys may come and go anywhere, and a dictionary is accepted where
they are rejected if it is accepted where they are allowed and has none. -/
theorem allowing_is_rejecting_on_declared_part (c : Context) (fields : List (String × Pattern))
    (path : String) :
    (∀ v w entries, c.heap.plainEntries? v = some entries →
      c.heap.plainEntries? w = some (declaredPart fields entries) →
        (object .allow fields).matcher c v path = (object .reject fields).matcher c w path) ∧
    (∀ v, c.heap.plainEntries? v = none → ∀ u,
      (object u fields).matcher c v path = Run.mismatch (c.heap.plainFlaw v) path) ∧
    (∀ v w entries others, c.heap.plainEntries? v = some entries →
      c.heap.plainEntries? w = some others →
        declaredPart fields entries = declaredPart fields others →
          (object .allow fields).matcher c v path = (object .allow fields).matcher c w path) ∧
    ∀ v entries, c.heap.plainEntries? v = some entries →
      (((object .reject fields).matcher c v path).result = .ok () ↔
        ((object .allow fields).matcher c v path).result = .ok () ∧
          ∀ e ∈ entries, declares fields e.1 = true) := by
  refine ⟨fun v w entries hv hw => allow_matcher_eq_declaredPart hv hw,
    fun v hv u => object_matcher_of_not_plain hv,
    fun v w entries others hv hw hparts => allow_matcher_congr hv hw hparts,
    fun v entries hv => ⟨fun hok => ?_, fun ⟨hok, hkeys⟩ => ?_⟩⟩
  · have hkeys := declares_of_reject_ok hv hok
    rw [← reject_matcher_eq_allow hv hkeys]
    exact ⟨hok, hkeys⟩
  · rw [reject_matcher_eq_allow hv hkeys]
    exact hok

end Pattern

def declaredFields : List (String × Pattern) :=
  [("b", .arrayOf .integer), ("a", .wrap .native .optional (.typeTag .native .string))]

/-- Dictionaries with the declared entries, and with others before, between and after them. -/
def surplusEntries : Heap :=
  ⟨#[.sequence .list [.int 1, .str "x"],
    .dict .plain [(.null, .int 1), (.str "b", .ref 0), (.str "B", .ref 1)],
    .dict .plain [(.str "b", .ref 0)],
    .dict .plain [(.str "b", .ref 0), (.int 7, .ref 3), (.str "bb", .null)],
    .dict .plain [(.str "a", .str "")],
    .sequence .list [],
    .dict .plain [(.str "a", .str ""), (.str "b", .ref 5)]]⟩

theorem surplusEntries_passed_over :
    let c := surplusEntries.context false ""
    let allowing := Pattern.object .allow declaredFields
    let rejecting := Pattern.object .reject declaredFields
    allowing.matcher c (.ref 1) "r" = rejecting.matcher c (.ref 2) "r" ∧
      (rejecting.matcher c (.ref 2) "r").result =
        .error (.mismatch ⟨.expected "Integer" "string", "r.b[1]"⟩) ∧
      allowing.matcher c (.ref 0) "r" = Run.mismatch .notPlain "r" ∧
      allowing.matcher c (.ref 1) "r" = allowing.matcher c (.ref 3) "r" ∧
      (rejecting.matcher c (.ref 6) "r").result = .ok () := by
  obtain ⟨hpart, hplain, hcongr, haccepts⟩ :=
    Pattern.allowing_is_rejecting_on_declared_part (surplusEntries.context false "") declaredFields
      "r"
  refine ⟨hpart _ _ _ rfl (by decide), by decide +kernel, hplain _ rfl .allow,
    hcongr _ _ _ _ rfl rfl (by decide), (haccepts _ _ rfl).mpr ?_⟩
  decide

end Conformance
