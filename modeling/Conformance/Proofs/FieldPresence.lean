import Conformance.Proofs.DeclaredPart
import Conformance.Proofs.Weakening

/-!
# Fields and the keys that are present

What an object pattern does to a dictionary depends on the fields whose names are keys of it, and on
the required fields whose names are not. So a field with a wrapper is the same as the field without
it where its key is present, and the same as no field where it is not. And if the same is asked of
all keys, it does not matter whether the pattern names them.
-/

namespace Conformance

/-- The names under which a plain dictionary has entries, in their order. Other values have none. -/
def Heap.keyNames (h : Heap) (v : Value) : List String :=
  (h.plainEntries v).filterMap fun e => e.1.text?

theorem Heap.mem_keyNames {h : Heap} {v : Value} {name : String} :
    name ∈ h.keyNames v ↔ ∃ e ∈ h.plainEntries v, e.1.text? = some name := List.mem_filterMap

namespace Pattern

variable {c : Context} {u : UnknownKeys} {p q : Pattern} {v : Value} {name path : String}
  {fields fields' before after : List (String × Pattern)} {entries : List (Value × Value)}

/-- Object patterns that ask the same of the entries of a value, and miss the same name in it, match
it alike. -/
theorem object_matcher_congr
    (hkeys : ∀ e ∈ c.heap.plainEntries v, Demand.ofKey u fields e.1 = Demand.ofKey u fields' e.1)
    (habsent : absent? fields (c.heap.plainEntries v) = absent? fields' (c.heap.plainEntries v)) :
    (object u fields).matcher c v path = (object u fields').matcher c v path := by
  refine container_matcher_congr (p := object u fields) (q := object u fields') rfl rfl rfl ?_ ?_
  · exact List.map_congr_left fun e he => by rw [hkeys e he]
  · simp only [closingFlaw?, habsent]

/-! ### A field more -/

def withField (u : UnknownKeys) (before : List (String × Pattern)) (name : String)
    (after : List (String × Pattern)) (p : Pattern) : Pattern :=
  object u (before ++ (name, p) :: after)

theorem declared?_withField_of_ne {key : Value} (hkey : key.text? ≠ some name) :
    declared? (before ++ (name, p) :: after) key = declared? (before ++ after) key := by
  cases htext : key.text? with
  | none => simp only [declared?, htext, Option.bind_none]
  | some text =>
    have hne : name ≠ text := fun heq => hkey (by rw [htext, heq])
    simp only [declared?, htext, Option.bind_some, List.find?_append, List.find?_cons, hne,
      decide_false]

theorem declared?_withField {key : Value} (hkey : key.text? = some name)
    (hbefore : ∀ f ∈ before, f.1 ≠ name) :
    declared? (before ++ (name, p) :: after) key = some p := by
  have hnone : before.find? (·.1 = name) = none :=
    List.find?_eq_none.mpr fun f hf => by simpa using hbefore f hf
  simp [declared?, hkey, List.find?_append, hnone]

theorem ofKey_withField_congr (h : p.unwrapped = q.unwrapped) (key : Value) :
    Demand.ofKey u (before ++ (name, p) :: after) key =
      Demand.ofKey u (before ++ (name, q) :: after) key := by
  -- the key comes to the field in the middle, or to one that is the same on both sides
  rcases ofKey_middle u before name after key with hmiddle | ⟨d, hd⟩
  · rw [hmiddle, hmiddle, h]
  · rw [hd, hd]

/-- A field that may be absent, or is not, is never missing. -/
theorem absent?_withField (h : p.isWrapped = true ∨ ∃ e ∈ entries, e.1.text? = some name) :
    absent? (before ++ (name, p) :: after) entries = absent? (before ++ after) entries := by
  have hpresent : (!p.isWrapped && !entries.any fun e => e.1.text? = some name) = false := by
    rcases h with hwrapped | ⟨e, he, hname⟩
    · rw [hwrapped, Bool.not_true, Bool.false_and]
    · have hany : (entries.any fun e => e.1.text? = some name) = true :=
        List.any_eq_true.mpr ⟨e, he, decide_eq_true hname⟩
      rw [hany, Bool.not_true, Bool.and_false]
  simp only [absent?, List.find?_append, List.find?_cons, hpresent]

/-- Two patterns with one inside do the same as the pattern of a field, if either is a wrapper or
the key is present. -/
theorem withField_matcher_congr (h : p.unwrapped = q.unwrapped)
    (hp : p.isWrapped = true ∨ name ∈ c.heap.keyNames v)
    (hq : q.isWrapped = true ∨ name ∈ c.heap.keyNames v) :
    (withField u before name after p).matcher c v path =
      (withField u before name after q).matcher c v path := by
  rw [Heap.mem_keyNames] at hp hq
  refine object_matcher_congr (fun e _ => ofKey_withField_congr h e.1) ?_
  rw [absent?_withField hp, absent?_withField hq]

theorem withField_matcher_of_absent (hp : p.isWrapped = true) (hname : name ∉ c.heap.keyNames v) :
    (withField u before name after p).matcher c v path =
      (object u (before ++ after)).matcher c v path := by
  refine object_matcher_congr (fun e he => ?_) (absent?_withField (.inl hp))
  have hkey : e.1.text? ≠ some name := fun htext => hname (Heap.mem_keyNames.mpr ⟨e, he, htext⟩)
  simp only [Demand.ofKey, declared?_withField_of_ne hkey]

theorem accepts_of_withField (hbefore : ∀ f ∈ before, f.1 ≠ name)
    (hok : (withField u before name after p).Accepts c v) {e : Value × Value}
    (he : e ∈ c.heap.plainEntries v) (hkey : e.1.text? = some name) :
    p.unwrapped.Accepts c e.2 := by
  obtain ⟨-, hvisits, -⟩ := (container_result_ok_iff (p := withField u before name after p) rfl).mp
    hok
  have hdemand : Demand.ofKey u (before ++ (name, p) :: after) e.1 = .conform p.unwrapped := by
    simp only [Demand.ofKey, declared?_withField hkey hbefore]
  exact visit_run_ok hdemand (hvisits ⟨e.1, e.2, .ofKey u (before ++ (name, p) :: after) e.1⟩
    (List.mem_map_of_mem he))

/-- A field with a wrapper is the union of no field and a required one. Both wrappers do the same.
If the key is present, so does the pattern without a wrapper: the value under the key is matched as
it is, and what the wrapper excuses elsewhere is not excused. If the key is not present, or the
value is no plain dictionary, so do the other fields alone. Each time the calls, the reason, the
path and the fault are the same. -/
theorem wrapped_field_is_absent_or_required (c : Context) (u : UnknownKeys)
    (before : List (String × Pattern)) (name : String) (after : List (String × Pattern))
    (p : Pattern) (v : Value) (path : String) :
    (∀ o w o' w', (withField u before name after (wrap o w p)).matcher c v path =
      (withField u before name after (wrap o' w' p)).matcher c v path) ∧
    (p.isWrapped = false → name ∈ c.heap.keyNames v → ∀ o w,
      (withField u before name after (wrap o w p)).matcher c v path =
        (withField u before name after p).matcher c v path) ∧
    ((∀ f ∈ before, f.1 ≠ name) → ∀ o w, (withField u before name after (wrap o w p)).Accepts c v →
      ∀ e ∈ c.heap.plainEntries v, e.1.text? = some name → p.Accepts c e.2) ∧
    (name ∉ c.heap.keyNames v → ∀ o w,
      (withField u before name after (wrap o w p)).matcher c v path =
        (object u (before ++ after)).matcher c v path) := by
  refine ⟨fun o w o' w' => withField_matcher_congr rfl (.inl rfl) (.inl rfl), ?_, ?_, ?_⟩
  · intro hp hname o w
    have hinside : (wrap o w p).unwrapped = p.unwrapped :=
      (unwrapped_of_isWrapped_eq_false hp).symm
    exact withField_matcher_congr hinside (.inl rfl) (.inr hname)
  · intro hbefore o w hok e he hkey
    exact accepts_of_withField hbefore hok he hkey
  · intro hname o w
    exact withField_matcher_of_absent rfl hname

end Pattern

/-- Dictionaries with and without an entry of the name `a`, and a list. -/
def presentEntries : Heap :=
  ⟨#[.dict .plain [(.str "b", .int 1), (.str "a", .undefined)],
    .dict .plain [(.str "b", .int 1)],
    .dict .plain [(.str "a", .str "x"), (.str "b", .int 1)],
    .sequence .list []]⟩

theorem presentUndefined_not_excused :
    let c := presentEntries.context false ""
    let fieldOf := Pattern.withField .reject [("b", .integer)] "a" []
    let text := Pattern.typeTag .native .string
    let others := Pattern.object .reject [("b", .integer)]
    (fieldOf (.wrap .native .optional text)).matcher c (.ref 0) "r" =
        (fieldOf (.wrap .native .maybe text)).matcher c (.ref 0) "r" ∧
      (fieldOf (.wrap .native .optional text)).matcher c (.ref 0) "r" =
        (fieldOf text).matcher c (.ref 0) "r" ∧
      ((fieldOf text).matcher c (.ref 0) "r").result =
        .error (.mismatch ⟨.expected "string" "undefined", "r.a"⟩) ∧
      text.Accepts c (.str "x") ∧
      (fieldOf (.wrap .native .maybe text)).matcher c (.ref 1) "r" =
        others.matcher c (.ref 1) "r" ∧
      (fieldOf (.wrap .native .maybe text)).matcher c (.ref 3) "r" =
        others.matcher c (.ref 3) "r" := by
  have hfield := Pattern.wrapped_field_is_absent_or_required (presentEntries.context false "")
    .reject [("b", .integer)] "a" [] (.typeTag .native .string)
  obtain ⟨halike, hrequired, -, -⟩ := hfield (.ref 0) "r"
  obtain ⟨-, -, hmatched, -⟩ := hfield (.ref 2) "r"
  obtain ⟨-, -, -, habsent⟩ := hfield (.ref 1) "r"
  obtain ⟨-, -, -, hlist⟩ := hfield (.ref 3) "r"
  have hok : ((Pattern.withField .reject [("b", .integer)] "a" []
      (.wrap .native .optional (.typeTag .native .string))).matcher
        (presentEntries.context false "") (.ref 2) "").result = .ok () := by decide +kernel
  refine ⟨halike _ _ _ _, hrequired rfl (by decide) _ _, by decide +kernel, ?_,
    habsent (by decide) _ _, hlist (by decide) _ _⟩
  exact hmatched (by decide) .native .optional hok (.str "a", .str "x") (by decide) rfl

namespace Pattern

variable {c : Context} {u : UnknownKeys} {p : Pattern} {v : Value} {name path : String}
  {names : List String} {entries : List (Value × Value)}

/-! ### One pattern for all keys -/

def uniformFields (names : List String) (p : Pattern) : List (String × Pattern) :=
  names.map fun name => (name, p)

theorem declared?_uniformFields {key : Value} (hkey : key.text? = some name)
    (hname : name ∈ names) : declared? (uniformFields names p) key = some p := by
  have hfield : (name, p) ∈ uniformFields names p := List.mem_map_of_mem hname
  obtain ⟨q, hq⟩ := Option.isSome_iff_exists.mp (declares_of_text?_eq hfield hkey)
  -- what is found is one of the fields, and these have one pattern
  obtain ⟨found, -, hfound⟩ := mem_of_declared? hq
  obtain ⟨other, -, heq⟩ := List.mem_map.mp hfound
  rw [hq, (Prod.mk.inj heq).2]

theorem absent?_uniformFields (h : ∀ name ∈ names, ∃ e ∈ entries, e.1.text? = some name) :
    absent? (uniformFields names p) entries = none := by
  refine absent?_eq_none_iff.mpr fun f hf _ => ?_
  obtain ⟨name, hname, rfl⟩ := List.mem_map.mp hf
  exact h name hname

/-- A pattern for all values of an object is the object pattern that spells out the keys: fields
with this pattern for the keys of the value do the same to it, in whatever order they are declared
and whatever becomes of other keys. A value that is no plain dictionary has no keys. The calls, the
reason, the path and the fault are the same. -/
theorem values_pattern_spelled_out (c : Context) {p : Pattern} (hp : p.isWrapped = false)
    {v : Value} (hkeys : ∀ e ∈ c.heap.plainEntries v, e.1.text?.isSome = true)
    {names : List String} (hnames : names.Perm (c.heap.keyNames v))
    (u : UnknownKeys) (path : String) :
    (object u (uniformFields names p)).matcher c v path =
      (objectWithValues p).matcher c v path := by
  refine container_matcher_congr (p := object u (uniformFields names p)) (q := objectWithValues p)
    rfl rfl rfl ?_ ?_
  · refine List.map_congr_left fun e he => ?_
    obtain ⟨name, hname⟩ := Option.isSome_iff_exists.mp (hkeys e he)
    have hmem : name ∈ names := hnames.mem_iff.mpr (Heap.mem_keyNames.mpr ⟨e, he, hname⟩)
    simp only [Demand.ofKey, declared?_uniformFields hname hmem,
      unwrapped_of_isWrapped_eq_false hp]
  · have hpresent : ∀ name ∈ names, ∃ e ∈ c.heap.plainEntries v, e.1.text? = some name :=
      fun name hname => Heap.mem_keyNames.mp (hnames.mem_iff.mp hname)
    simp only [closingFlaw?, absent?_uniformFields hpresent, Option.map_none]

end Pattern

/-- A dictionary with two arrays, of which the second fails, and a text. -/
def arraysByName : Heap :=
  ⟨#[.dict .plain [(.str "b c", .ref 1), (.boxed (.str "a"), .ref 2)],
    .sequence .list [.int 1],
    .sequence .tuple [.int 1, .null]]⟩

theorem arraysByName_spelled_out :
    let c := arraysByName.context false ""
    let arrays := Pattern.arrayOf .integer
    let spelled := fun u => Pattern.object u (Pattern.uniformFields ["a", "b c"] arrays)
    (spelled .reject).matcher c (.ref 0) "r" =
        (Pattern.objectWithValues arrays).matcher c (.ref 0) "r" ∧
      (spelled .allow).matcher c (.ref 0) "r" =
        (Pattern.objectWithValues arrays).matcher c (.ref 0) "r" ∧
      ((Pattern.objectWithValues arrays).matcher c (.ref 0) "r").result =
        .error (.mismatch ⟨.expected "Integer" "null", "r.a[1]"⟩) ∧
      (Pattern.object .allow (Pattern.uniformFields [] arrays)).matcher c (.ref 1) "r" =
        (Pattern.objectWithValues arrays).matcher c (.ref 1) "r" := by
  have hnames : ["a", "b c"].Perm (arraysByName.keyNames (.ref 0)) := by decide
  have hspelled := Pattern.values_pattern_spelled_out (arraysByName.context false "")
    (p := .arrayOf .integer) rfl (v := .ref 0) (by decide) hnames
  have hempty := Pattern.values_pattern_spelled_out (arraysByName.context false "")
    (p := .arrayOf .integer) rfl (v := .ref 1) (by decide) (List.Perm.refl [])
  exact ⟨hspelled .reject "r", hspelled .allow "r", by decide +kernel, hempty .allow "r"⟩

end Conformance
