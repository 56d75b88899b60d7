import Conformance.Proofs.Conforms
import Conformance.Proofs.Divergence

/-!
# Closed patterns

A closed pattern has no part that accepts a value without looking into it, and no object pattern in
it passes over undeclared keys. Values may contain themselves, so nothing can be shown by induction
on the value: the bound comes from the height of the pattern. The main statement is that a value
that a closed pattern accepts unfolds to a finite tree no higher than the pattern, with all keys of
its closed objects declared.
-/

namespace Conformance

/-! ### Finite values -/

/-- Is the value a text, a truth value or a number of no derived class, undefined or null? -/
def Value.isAtom : Value → Bool
  | undefined | null | bool _ | int _ | float _ | str _ => true
  | _ => false

namespace Heap

/-- The value unfolds to a finite tree of at most the height. Its inner nodes are arrays and plain
dictionaries, and its leaves are atoms and empty containers. -/
inductive UnfoldsWithin (h : Heap) : Nat → Value → Prop where
  | atom {n : Nat} {v : Value} (hv : v.isAtom = true) : UnfoldsWithin h (n + 1) v
  | array {n : Nat} {v : Value} (hv : h.isArrayLike v = true)
    (hparts : ∀ x ∈ (h.elements v).toList, UnfoldsWithin h n x) : UnfoldsWithin h (n + 1) v
  | object {n : Nat} {v : Value} {entries : List (Value × Value)}
    (hv : h.plainEntries? v = some entries) (hparts : ∀ e ∈ entries, UnfoldsWithin h n e.2) :
    UnfoldsWithin h (n + 1) v

variable {h : Heap} {v w : Value} {n : Nat}

theorem structuralCategory_cases (h : Heap) (v : Value) :
    h.structuralCategory v = .array ∨ h.structuralCategory v = .function ∨
      h.structuralCategory v = .object := by
  rw [structuralCategory]
  split
  · exact .inl rfl
  · split
    · exact .inr (.inl rfl)
    · exact .inr (.inr rfl)

/-- Atoms are the values of the categories that no other value has. -/
theorem isAtom_iff_category :
    v.isAtom = true ↔
      h.category v ≠ .array ∧ h.category v ≠ .function ∧ h.category v ≠ .object := by
  have hother := structuralCategory_cases h v
  cases v with
  | undefined | null | bool b | int n | float x | str s => simp [Value.isAtom, category]
  | _ =>
    simp only [Value.isAtom, category]
    grind

theorem isAtom_of_excuses {w : Wrapper} (hv : Matcher.excuses w v = true) : v.isAtom = true := by
  cases v with
  | undefined => rfl
  | null => rfl
  | _ => cases w <;> exact absurd hv Bool.false_ne_true

theorem isArrayLike_of_isAtom (hv : v.isAtom = true) : h.isArrayLike v = false := by
  cases v with
  | undefined => rfl
  | null => rfl
  | bool b => rfl
  | int n => rfl
  | float x => rfl
  | str s => rfl
  | _ => exact absurd hv Bool.false_ne_true

theorem plainEntries?_of_isAtom (hv : v.isAtom = true) : h.plainEntries? v = none := by
  cases v with
  | ref a => exact absurd hv Bool.false_ne_true
  | _ => rfl

theorem not_holds_of_isAtom (hv : v.isAtom = true) {key x : Value} : ¬ h.Holds v key x := by
  intro hx
  cases hx with
  | element harray _ =>
    rw [isArrayLike_of_isAtom hv] at harray
    cases harray
  | entry hentries _ =>
    rw [plainEntries?_of_isAtom hv] at hentries
    cases hentries

theorem UnfoldsWithin.of_parts (hv : h.isArrayLike v = true ∨ h.isPlain v = true)
    (hparts : ∀ key x, h.Holds v key x → h.UnfoldsWithin n x) : h.UnfoldsWithin (n + 1) v := by
  rcases hv with harray | hplain
  · refine .array harray fun x hx => ?_
    obtain ⟨i, hi⟩ := List.mem_iff_getElem?.mp hx
    exact hparts (.int i) x (.element harray hi)
  · rw [isPlain_iff_plainEntries?] at hplain
    obtain ⟨entries, hentries⟩ := Option.isSome_iff_exists.mp hplain
    exact .object hentries fun e he => hparts e.1 e.2 (.entry hentries he)

theorem UnfoldsWithin.part (hv : h.UnfoldsWithin (n + 1) v) {key x : Value}
    (hx : h.Holds v key x) : h.UnfoldsWithin n x := by
  cases hv with
  | atom hatom => exact absurd hx (not_holds_of_isAtom hatom)
  | array harray hparts =>
    cases hx with
    | element _ hi => exact hparts x (List.mem_of_getElem? hi)
    | entry hentries _ =>
      rw [plainEntries?_of_isArrayLike harray] at hentries
      cases hentries
  | object hentries hparts =>
    cases hx with
    | element harray _ =>
      rw [plainEntries?_of_isArrayLike harray] at hentries
      cases hentries
    | entry hentries' he =>
      rw [hentries] at hentries'
      cases hentries'
      exact hparts _ he

/-- A walk uses up one level of the tree for each key. -/
theorem UnfoldsWithin.reaches (hv : h.UnfoldsWithin n v) {keys : List Value}
    (hw : h.Reaches v keys w) : ∃ m, n = keys.length + m + 1 ∧ h.UnfoldsWithin (m + 1) w := by
  induction hw generalizing n with
  | here v =>
    cases n with
    | zero => cases hv
    | succ n => exact ⟨n, by simp, hv⟩
  | @under v key x w keys hx hw ih =>
    cases n with
    | zero => cases hv
    | succ n =>
      obtain ⟨m, hm, hunfolds⟩ := ih (hv.part hx)
      refine ⟨m, ?_, hunfolds⟩
      rw [List.length_cons]
      omega

theorem Reaches.iterate {keys : List Value} (hw : h.Reaches w keys w) (m : Nat) :
    h.Reaches w (List.replicate m keys).flatten w := by
  induction m with
  | zero => exact .here w
  | succ m ih =>
    rw [List.replicate_succ, List.flatten_cons]
    exact hw.append ih

/-- No part of the tree lies within itself: to go round again and again would be a walk without
end. -/
theorem UnfoldsWithin.acyclic (hv : h.UnfoldsWithin n v) {keys : List Value}
    (hround : h.Reaches v keys v) : keys = [] := by
  obtain ⟨m, hm, -⟩ := hv.reaches (hround.iterate n)
  rw [List.length_flatten, List.map_replicate, List.sum_replicate_nat] at hm
  rcases Nat.eq_zero_or_pos keys.length with hzero | hpos
  · exact List.length_eq_zero_iff.mp hzero
  · have hle : n ≤ n * keys.length := Nat.le_mul_of_pos_right n hpos
    omega

theorem UnfoldsWithin.node (hv : h.UnfoldsWithin n v) :
    v.isAtom = true ∨ h.isArrayLike v = true ∨ h.isPlain v = true := by
  cases hv with
  | atom hatom => exact .inl hatom
  | array harray _ => exact .inr (.inl harray)
  | object hentries _ => exact .inr (.inr (isPlain_of_plainEntries? hentries))

end Heap

namespace Pattern

variable {c : Context}

/-! ### Closed patterns -/

/-- Does the pattern itself, its parts aside, keep to declared data? -/
def isClosed : Pattern → Bool
  | literal e => e.isAtom
  | typeTag .native k => k ≠ .function
  | integer | arrayOf _ | object .reject _ | objectWithValues _ | wrap .native _ _ | oneOf _ => true
  | _ => false

/-- In a match that succeeds, the part at the end of the keys is matched against the second
pattern, which accepts it. -/
inductive Checks (c : Context) : Pattern → Value → List Value → Pattern → Value → Prop where
  | here {p : Pattern} {v : Value} (hv : p.Accepts c v) : Checks c p v [] p v
  | part {p q r : Pattern} {v w : Value} {b : Visit} {keys : List Value} (hv : p.Accepts c v)
    (hb : b ∈ p.visits c.heap v) (hq : b.demand = .conform q) (hw : Checks c q b.part keys r w) :
    Checks c p v (b.key :: keys) r w
  | inner {wrapper : Wrapper} {p r : Pattern} {v w : Value} {keys : List Value}
    (hv : Matcher.excuses wrapper v = false) (hw : Checks c p v keys r w) :
    Checks c (wrap .native wrapper p) v keys r w
  | choice {before after : List Pattern} {p r : Pattern} {v w : Value} {keys : List Value}
    (hbefore : ∀ q ∈ before, (q.matcher c v "").Diverges) (hw : Checks c p v keys r w) :
    Checks c (oneOf (before ++ p :: after)) v keys r w

theorem Checks.accepts {p q : Pattern} {v w : Value} {keys : List Value}
    (h : Checks c p v keys q w) : q.Accepts c w := by
  induction h with
  | here hv => exact hv
  | part _ _ _ _ ih => exact ih
  | inner _ _ ih => exact ih
  | choice _ _ ih => exact ih

theorem Checks.append {p q r : Pattern} {v u w : Value} {keys keys' : List Value}
    (h : Checks c p v keys q u) (h' : Checks c q u keys' r w) :
    Checks c p v (keys ++ keys') r w := by
  induction h with
  | here _ => exact h'
  | part hv hb hq _ ih => exact .part hv hb hq (ih h')
  | inner hv _ ih => exact .inner hv (ih h')
  | choice hbefore _ ih => exact .choice hbefore (ih h')

theorem isAtom_of_leaf {p : Pattern} {v : Value} (hleaf : p.isLeaf = true) (hp : p.isClosed = true)
    (hv : p.Accepts c v) : v.isAtom = true := by
  have hconforms := (conforms_leaf_iff hleaf ((leaf_result_ok_iff hleaf).mp hv)).mp rfl
  rw [Heap.isAtom_iff_category (h := c.heap)]
  cases p with
  | literal e =>
    rw [Conforms] at hconforms
    rw [hconforms.1]
    exact Heap.isAtom_iff_category.mp hp
  | typeTag o k =>
    cases o with
    | native =>
      rw [Conforms] at hconforms
      rw [hconforms]
      cases k <;> simp_all [TypeKind.category, isClosed]
    | foreign => exact absurd hp Bool.false_ne_true
  | integer =>
    rw [Conforms] at hconforms
    simp [hconforms.1]
  | wrap o w p =>
    cases o with
    | native => exact absurd hleaf Bool.false_ne_true
    | foreign => exact absurd hp Bool.false_ne_true
  | arrayOf _ | object _ _ | objectWithValues _ | oneOf _ => exact absurd hleaf Bool.false_ne_true
  | _ => exact absurd hp Bool.false_ne_true

/-- Behind wrappers and choices, a closed pattern that accepts a value is a container, unless the
value is an atom. -/
theorem atom_or_container {p : Pattern} {v : Value} (hp : p.Every isClosed) (hv : p.Accepts c v) :
    v.isAtom = true ∨
      ∃ q, q.isContainer = true ∧ q.Every isClosed ∧ q.height ≤ p.height ∧ Checks c p v [] q v := by
  induction p using formInduction with
  | leaf p hleaf => exact .inl (isAtom_of_leaf hleaf hp.root hv)
  | container p hcontainer _ => exact .inr ⟨p, hcontainer, hp, Nat.le_refl _, .here hv⟩
  | wrap w p ih =>
    rw [Accepts, wrap_matcher] at hv
    have hmem : p ∈ (Pattern.wrap .native w p).parts := List.mem_singleton_self p
    cases hexcused : Matcher.excuses w v with
    | true => exact .inl (Heap.isAtom_of_excuses hexcused)
    | false =>
      rw [hexcused] at hv
      rcases ih (hp.part hmem) hv with hatom | ⟨q, hq, hclosed, hheight, hchecks⟩
      · exact .inl hatom
      · have hlt := height_lt_of_mem_parts hmem
        exact .inr ⟨q, hq, hclosed, by omega, .inner hexcused hchecks⟩
  | oneOf choices ih =>
    obtain ⟨before, p, after, rfl, hbefore, hp'⟩ := oneOf_result_ok_iff.mp hv
    have hmem : p ∈ before ++ p :: after := List.mem_append_cons_self
    rcases ih p hmem (hp.part hmem) hp' with hatom | ⟨q, hq, hclosed, hheight, hchecks⟩
    · exact .inl hatom
    · have hlt : p.height < (oneOf (before ++ p :: after)).height := height_lt_of_mem_parts hmem
      exact .inr ⟨q, hq, hclosed, by omega, .choice hbefore hchecks⟩
  | satisfies f => exact absurd hp.root Bool.false_ne_true

/-! ### Parts of accepted values -/

section Parts

variable {p : Pattern} {v w key x : Value} {keys : List Value}

theorem node_of_container (hp : p.isContainer = true) (hv : p.Accepts c v) :
    c.heap.isArrayLike v = true ∨ c.heap.isPlain v = true := by
  have hopening := ((container_result_ok_iff hp).mp hv).1
  cases p with
  | arrayOf q => exact .inl (openingFlaw?_arrayOf_eq_none_iff.mp hopening)
  | objectWithValues q | object u fields =>
    have hentries := (openingFlaw?_eq_none_iff (by simp)).mp hopening
    exact .inr (Heap.isPlain_of_plainEntries? hentries)
  | _ => exact absurd hp Bool.false_ne_true

theorem mem_visits_of_holds (hp : p.isContainer = true) (hv : p.openingFlaw? c.heap v = none)
    (hx : c.heap.Holds v key x) : ∃ b ∈ p.visits c.heap v, b.key = key ∧ b.part = x := by
  cases hx with
  | @element i x harray hx =>
    have hnone := Heap.plainEntries?_of_isArrayLike harray
    cases p with
    | arrayOf q =>
      refine ⟨⟨.int i, x, .conform q⟩, List.mem_map.mpr ⟨(x, i), ?_, rfl⟩, rfl, rfl⟩
      exact List.mem_zipIdx_iff_getElem?.mpr hx
    | objectWithValues q | object u fields =>
      rw [openingFlaw?_eq_none_iff (by simp), hnone] at hv
      cases hv
    | _ => exact absurd hp Bool.false_ne_true
  | @entry entries key x hentries hx =>
    have hmem : (key, x) ∈ c.heap.plainEntries v := by rwa [Heap.plainEntries, hentries]
    cases p with
    | arrayOf q =>
      have harray : c.heap.isArrayLike v = true := openingFlaw?_arrayOf_eq_none_iff.mp hv
      rw [Heap.plainEntries?_of_isArrayLike harray] at hentries
      cases hentries
    | objectWithValues q | object u fields => exact ⟨_, List.mem_map_of_mem hmem, rfl, rfl⟩
    | _ => exact absurd hp Bool.false_ne_true

theorem exists_demand_of_isClosed {b : Visit} (hp : p.isClosed = true)
    (hb : b ∈ p.visits c.heap v) (hrun : (b.run c "").result = .ok ()) :
    ∃ q, b.demand = .conform q := by
  cases p with
  | arrayOf q =>
    obtain ⟨item, -, rfl⟩ := List.mem_map.mp hb
    exact ⟨q, rfl⟩
  | objectWithValues q =>
    obtain ⟨e, -, rfl⟩ := List.mem_map.mp hb
    exact ⟨q, rfl⟩
  | object u fields =>
    obtain ⟨e, -, rfl⟩ := List.mem_map.mp hb
    have hadmits : Admits c u fields e := admits_of_visit hrun
    -- a key that is not declared is let through only by an object pattern that is not closed
    cases hd : declared? fields e.1 with
    | some q => exact ⟨q.unwrapped, by simp only [Demand.ofKey, hd]⟩
    | none =>
      simp only [Admits, hd] at hadmits
      rw [hadmits] at hp
      exact absurd hp Bool.false_ne_true
  | _ => exact absurd hb List.not_mem_nil

theorem exists_part_of_holds (hp : p.isContainer = true) (hclosed : p.isClosed = true)
    (hv : p.Accepts c v) (hx : c.heap.Holds v key x) :
    ∃ q ∈ p.parts, q.Accepts c x ∧
      ∀ {keys r w}, Checks c q x keys r w → Checks c p v (key :: keys) r w := by
  obtain ⟨hopening, hvisits, -⟩ := (container_result_ok_iff hp).mp hv
  obtain ⟨b, hb, rfl, rfl⟩ := mem_visits_of_holds hp hopening hx
  obtain ⟨q, hq⟩ := exists_demand_of_isClosed hclosed hb (hvisits b hb)
  exact ⟨q, mem_parts_of_mem_visits hb hq, visit_run_ok hq (hvisits b hb), .part hv hb hq⟩

/-- A value that a closed pattern accepts unfolds to a tree no higher than the pattern. -/
theorem unfoldsWithin_of_accepts {n : Nat} (hn : p.height ≤ n) (hp : p.Every isClosed)
    (hv : p.Accepts c v) : c.heap.UnfoldsWithin n v := by
  -- not on the value, which may lie within itself for all that is known of it here
  induction n generalizing p v with
  | zero =>
    have hpos := height_pos p
    omega
  | succ n ih =>
    rcases atom_or_container hp hv with hatom | ⟨q, hq, hclosed, hheight, hchecks⟩
    · exact .atom hatom
    · have hparts : ∀ key x, c.heap.Holds v key x → c.heap.UnfoldsWithin n x := by
        intro key x hx
        obtain ⟨r, hr, haccepts, -⟩ := exists_part_of_holds hq hclosed.root hchecks.accepts hx
        have hlt := height_lt_of_mem_parts hr
        exact ih (by omega) (hclosed.part hr) haccepts
      exact .of_parts (node_of_container hq hchecks.accepts) hparts

/-- Every part of a value that a closed pattern accepts is checked against a closed pattern. -/
theorem exists_checks_of_reaches (hp : p.Every isClosed) (hv : p.Accepts c v)
    (hw : c.heap.Reaches v keys w) : ∃ q, q.Every isClosed ∧ Checks c p v keys q w := by
  induction hw generalizing p with
  | here v => exact ⟨p, hp, .here hv⟩
  | @under v key x w keys hx _ ih =>
    rcases atom_or_container hp hv with hatom | ⟨q, hq, hclosed, -, hchecks⟩
    · exact absurd hx (Heap.not_holds_of_isAtom hatom)
    · obtain ⟨r, hr, haccepts, hstep⟩ := exists_part_of_holds hq hclosed.root hchecks.accepts hx
      obtain ⟨s, hs, hbelow⟩ := ih (hclosed.part hr) haccepts
      exact ⟨s, hs, hchecks.append (hstep hbelow)⟩

/-- Is the pattern an object pattern that rejects undeclared keys, or one for all values? -/
def isClosedObject : Pattern → Bool
  | object .reject _ | objectWithValues _ => true
  | _ => false

theorem exists_checks_of_isPlain (hp : p.Every isClosed) (hv : p.Accepts c v)
    (hw : c.heap.Reaches v keys w) (hplain : c.heap.isPlain w = true) :
    ∃ q, q.isClosedObject = true ∧ Checks c p v keys q w := by
  obtain ⟨q, hq, hchecks⟩ := exists_checks_of_reaches hp hv hw
  rcases atom_or_container hq hchecks.accepts with hatom | ⟨r, hr, hclosed, -, hinner⟩
  · rw [Heap.isPlain_iff_plainEntries?, Heap.plainEntries?_of_isAtom hatom] at hplain
    cases hplain
  · refine ⟨r, ?_, by simpa using hchecks.append hinner⟩
    have hopening := ((container_result_ok_iff hr).mp hinner.accepts).1
    cases r with
    | arrayOf s =>
      have harray : c.heap.isArrayLike w = true := openingFlaw?_arrayOf_eq_none_iff.mp hopening
      rw [Heap.isPlain_iff_plainEntries?, Heap.plainEntries?_of_isArrayLike harray] at hplain
      cases hplain
    | objectWithValues s => rfl
    | object u fields =>
      cases u with
      | reject => rfl
      | allow => exact absurd hclosed.root Bool.false_ne_true
    | _ => exact absurd hr Bool.false_ne_true

theorem declared_of_accepts {fields : List (String × Pattern)} {entries : List (Value × Value)}
    (hv : (object .reject fields).Accepts c v) (hentries : c.heap.plainEntries? v = some entries)
    {e : Value × Value} (he : e ∈ entries) :
    ∃ name q, e.1.text? = some name ∧ (name, q) ∈ fields := by
  have hvisits := ((container_result_ok_iff (p := object .reject fields) rfl).mp hv).2.1
  have hmem : e ∈ c.heap.plainEntries v := by rwa [Heap.plainEntries, hentries]
  have hadmits : Admits c .reject fields e := admits_of_visit (hvisits _ (List.mem_map_of_mem hmem))
  cases hd : declared? fields e.1 with
  | some q =>
    obtain ⟨name, hname, hq⟩ := mem_of_declared? hd
    exact ⟨name, q, hname, hq⟩
  | none =>
    simp only [Admits, hd] at hadmits
    cases hadmits

end Parts

end Pattern

/-- A value that a closed pattern accepts is a finite tree no higher than the pattern. Its nodes are
atoms, arrays and plain dictionaries, none of which lies within itself; each dictionary is checked
against an object pattern; and a dictionary that is checked against declared fields has no key that
is not declared. -/
theorem Context.closed_pattern_admits_finite_data (c : Context) (v raw : Value) (p : Pattern)
    (hp : c.heap.toPattern raw = .ok p) (hclosed : p.Every Pattern.isClosed)
    (hv : (c.accepts v raw).result = .ok true) :
    c.heap.UnfoldsWithin p.height v ∧
      (∀ keys w, c.heap.Reaches v keys w →
        keys.length < p.height ∧
          (w.isAtom = true ∨ c.heap.isArrayLike w = true ∨ c.heap.isPlain w = true) ∧
          (∀ round, c.heap.Reaches w round w → round = []) ∧
          (c.heap.isPlain w = true →
            ∃ q, q.isClosedObject = true ∧ Pattern.Checks c p v keys q w)) ∧
      ∀ keys w fields entries, Pattern.Checks c p v keys (.object .reject fields) w →
        c.heap.plainEntries? w = some entries →
          ∀ e ∈ entries, ∃ name q, e.1.text? = some name ∧ (name, q) ∈ fields := by
  have haccepts : p.Accepts c v := (accepts_true_iff hp).mp hv
  have hunfolds := Pattern.unfoldsWithin_of_accepts (Nat.le_refl _) hclosed haccepts
  refine ⟨hunfolds, ?_, ?_⟩
  · intro keys w hw
    obtain ⟨m, hm, hbelow⟩ := hunfolds.reaches hw
    refine ⟨by omega, hbelow.node, fun round => hbelow.acyclic, ?_⟩
    exact Pattern.exists_checks_of_isPlain hclosed haccepts hw
  · intro keys w fields entries hchecks hentries e he
    exact Pattern.declared_of_accepts hchecks.accepts hentries he

/-- Declares `a`, an array of integers and dictionaries of texts. -/
def closedFields : Pattern :=
  .object .reject
    [("a", .arrayOf (.oneOf [.integer, .wrap .native .maybe
      (.objectWithValues (.typeTag .native .string))])),
      ("b", .wrap .native .optional (.literal (.bool true)))]

/-- A dictionary that leads to another one twice, and to null and a double in between. -/
def sharedEntry : Heap :=
  ⟨#[.dict .plain [(.str "k", .str "v"), (.int 2, .str "")],
    .sequence .tuple [.ref 0, .null, .int 3, .ref 0, .float (.zero false)],
    .dict .plain [(.str "b", .bool true), (.str "a", .ref 1)],
    .pattern closedFields []]⟩

theorem sharedEntry_finite :
    ((sharedEntry.context false "").accepts (.ref 2) (.ref 3)).result = .ok true ∧
      sharedEntry.UnfoldsWithin 6 (.ref 2) := by
  have hv : ((sharedEntry.context false "").accepts (.ref 2) (.ref 3)).result = .ok true := by
    decide +kernel
  have hclosed : closedFields.Every Pattern.isClosed := by decide
  exact ⟨hv, (Context.closed_pattern_admits_finite_data (sharedEntry.context false "") (.ref 2)
    (.ref 3) closedFields rfl hclosed hv).1⟩

end Conformance
