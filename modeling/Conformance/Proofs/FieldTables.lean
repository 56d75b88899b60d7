import Conformance.Proofs.MatcherForm
import Conformance.Proofs.SoundHeap
import Mathlib.Data.List.Find
import Mathlib.Data.List.Nodup

/-!
# Tables of fields

The matcher of objects looks up each key among all fields, and goes through the entries once more for
a field that is missing. One pass is enough. It keeps two tables, one of the required fields and one
of the others, and takes a required field out of its table when its key comes up. What is left there
in the end is missing. Both do the same as long as no name is declared twice and no key comes up
twice.
-/

namespace Conformance

namespace Matcher

/-! ### Tables -/

/-- Puts a field into a table, in the place of one with the same name. -/
def putField (table : List FieldMatcher) (f : FieldMatcher) : List FieldMatcher :=
  if table.any (·.name = f.name) then table.map fun g => if g.name = f.name then f else g
  else table ++ [f]

/-- Takes the field that a key names out of a table. -/
def popField (table : List FieldMatcher) (key : Value) : List FieldMatcher :=
  table.filter fun f => key.text? ≠ some f.name

/-- The table of the fields that must be present, or of those that may be absent. -/
def fieldTable (required : Bool) (fields : List FieldMatcher) : List FieldMatcher :=
  (fields.filter (·.required = required)).foldl putField []

/-- Matches the entries in order, each against its field in one of the tables, and returns what is
left of the required fields. -/
def walkTables (h : Heap) (unknown : UnknownKeys) (optional : List FieldMatcher) (path : String) :
    List FieldMatcher → List (Value × Value) → Run (List FieldMatcher)
  | required, [] => .ok required
  | required, e :: rest =>
    match field? required e.1, field? optional e.1, unknown with
    | some f, _, _ => do
      f.matcher e.2 (← Run.lift (Path.join h path e.1))
      walkTables h unknown optional path (popField required e.1) rest
    | none, some f, _ => do
      f.matcher e.2 (← Run.lift (Path.join h path e.1))
      walkTables h unknown optional path required rest
    | none, none, .allow => walkTables h unknown optional path required rest
    | none, none, .reject => do Run.mismatch .unknownKey (← Run.lift (Path.join h path e.1))

/-- Matches a plain object with declared fields in one pass over its entries. -/
def objectByTables (h : Heap) (unknown : UnknownKeys) (fields : List FieldMatcher) : Matcher :=
  fun v path => do
    let entries ← plainEntries h v path
    match ← walkTables h unknown (fieldTable false fields) path (fieldTable true fields) entries with
    | f :: _ => Run.mismatch (.missingKey f.name) path
    | [] => return

theorem foldl_putField {table fields : List FieldMatcher}
    (hnames : ((table ++ fields).map (·.name)).Nodup) :
    fields.foldl putField table = table ++ fields := by
  induction fields generalizing table with
  | nil => exact (List.append_nil table).symm
  | cons f rest ih =>
    have hfresh : ¬ table.any (·.name = f.name) = true := by
      rw [List.map_append, List.nodup_append] at hnames
      simp only [List.any_eq_true, decide_eq_true_eq, not_exists, not_and]
      exact fun g hg => hnames.2.2 _ (List.mem_map_of_mem hg) _ List.mem_cons_self
    have hassoc : table ++ f :: rest = (table ++ [f]) ++ rest := by simp
    rw [List.foldl_cons, putField, if_neg hfresh, hassoc]
    rw [hassoc] at hnames
    exact ih hnames

theorem fieldTable_eq {fields : List FieldMatcher} (hnames : (fields.map (·.name)).Nodup)
    (required : Bool) : fieldTable required fields = fields.filter (·.required = required) :=
  foldl_putField (hnames.sublist (List.filter_sublist.map _))

/-! ### Fields under a key -/

section Lookup

variable {fields : List FieldMatcher} {f : FieldMatcher} {key : Value}

theorem field?_eq_find? (fields : List FieldMatcher) (key : Value) :
    field? fields key = fields.find? fun f => key.text? = some f.name := by
  rw [field?]
  cases key.text? with
  | none => exact (List.find?_eq_none.mpr fun f _ => by simp).symm
  | some name => simp only [Option.bind_some, Option.some.injEq, eq_comm]

theorem field?_eq_none_iff :
    field? fields key = none ↔ ∀ f ∈ fields, key.text? ≠ some f.name := by
  simp only [field?_eq_find?, List.find?_eq_none, decide_eq_true_eq]

theorem mem_of_field? (hf : field? fields key = some f) :
    f ∈ fields ∧ key.text? = some f.name := by
  rw [field?_eq_find?] at hf
  exact ⟨List.mem_of_find?_eq_some hf, by simpa using List.find?_some hf⟩

theorem field?_of_mem (hnames : (fields.map (·.name)).Nodup) (hf : f ∈ fields)
    (hkey : key.text? = some f.name) : field? fields key = some f := by
  cases hfield : field? fields key with
  | none => exact absurd hkey (field?_eq_none_iff.mp hfield f hf)
  | some g =>
    obtain ⟨hg, hname⟩ := mem_of_field? hfield
    exact congrArg some (List.inj_on_of_nodup_map hnames hg hf (Option.some.inj (hname.symm.trans hkey)))

/-- A field is in one of the tables. -/
theorem field?_eq_or (hnames : (fields.map (·.name)).Nodup) (key : Value) :
    field? fields key =
      (field? (fieldTable true fields) key).or (field? (fieldTable false fields) key) := by
  rw [fieldTable_eq hnames, fieldTable_eq hnames]
  have htable (required : Bool) : ((fields.filter (·.required = required)).map (·.name)).Nodup :=
    hnames.sublist (List.filter_sublist.map _)
  cases hfield : field? fields key with
  | none =>
    have hnone (required : Bool) : field? (fields.filter (·.required = required)) key = none :=
      field?_eq_none_iff.mpr fun f hf =>
        field?_eq_none_iff.mp hfield f (List.mem_of_mem_filter hf)
    rw [hnone, hnone, Option.or_none]
  | some f =>
    obtain ⟨hf, hname⟩ := mem_of_field? hfield
    cases hrequired : f.required with
    | true =>
      have hmem : f ∈ fields.filter (·.required = true) := by simp [hf, hrequired]
      rw [field?_of_mem (htable true) hmem hname, Option.some_or]
    | false =>
      have hmem : f ∈ fields.filter (·.required = false) := by simp [hf, hrequired]
      have hnone : field? (fields.filter (·.required = true)) key = none := by
        refine field?_eq_none_iff.mpr fun g hg hgname => ?_
        obtain ⟨hg, hgrequired⟩ := List.mem_filter.mp hg
        have hfg := hfield.symm.trans (field?_of_mem hnames hg hgname)
        rw [← Option.some.inj hfg, hrequired] at hgrequired
        cases hgrequired
      rw [field?_of_mem (htable false) hmem hname, hnone, Option.none_or]

theorem field?_popField {other : Value} (hother : ∀ s, other.text? = some s → key.text? ≠ some s) :
    field? (popField fields key) other = field? fields other := by
  rw [field?_eq_find?, field?_eq_find?, popField, List.find?_filter]
  refine List.find?_congr fun f _ => ?_
  have hname : other.text? = some f.name → key.text? ≠ some f.name := hother f.name
  simpa using hname

end Lookup

/-! ### The walk -/

section Walk

variable {h : Heap} {unknown : UnknownKeys} {path : String} {fields required optional : List FieldMatcher}
  {entries : List (Value × Value)}

/-- The fields that no entry has. -/
def unseen (required : List FieldMatcher) (entries : List (Value × Value)) : List FieldMatcher :=
  required.filter fun f => !entries.any fun e => e.1.text? = some f.name

theorem unseen_popField (e : Value × Value) :
    unseen (popField required e.1) entries = unseen required (e :: entries) := by
  rw [unseen, unseen, popField, List.filter_filter]
  refine List.filter_congr fun f _ => ?_
  rw [List.any_cons, Bool.not_or, Bool.and_comm, decide_not]

theorem unseen_cons_of_none {e : Value × Value} (hnone : field? required e.1 = none) :
    unseen required (e :: entries) = unseen required entries := by
  refine List.filter_congr fun f hf => ?_
  rw [List.any_cons, decide_eq_false (field?_eq_none_iff.mp hnone f hf), Bool.false_or]

/-- The walk matches every entry against its field, and returns the fields that no entry has. Each
key is looked up before its field is taken away, since no other key has its text. -/
theorem walkTables_eq (hkeys : (entries.filterMap (·.1.text?)).Nodup)
    (hfields : ∀ e ∈ entries, field? fields e.1 = (field? required e.1).or (field? optional e.1)) :
    walkTables h unknown optional path required entries =
      (Run.each (entry h unknown fields path) entries).andThen fun _ =>
        Run.ok (unseen required entries) := by
  induction entries generalizing required with
  | nil =>
    have hnone : unseen required [] = required := List.filter_eq_self.mpr fun _ _ => rfl
    rw [walkTables, Run.each_nil, Run.andThen_ok, hnone]
  | cons e rest ih =>
    obtain ⟨he, hrest⟩ := List.forall_mem_cons.mp hfields
    have hother : ∀ d ∈ rest, ∀ s, d.1.text? = some s → e.1.text? ≠ some s := by
      intro d hd s hds hes
      simp only [List.filterMap_cons, hes, List.nodup_cons] at hkeys
      exact hkeys.1 (List.mem_filterMap.mpr ⟨d, hd, hds⟩)
    have hkeys : (rest.filterMap (·.1.text?)).Nodup :=
      hkeys.sublist ((List.sublist_cons_self e rest).filterMap _)
    have hentry {f : FieldMatcher} (hf : field? fields e.1 = some f) :
        entry h unknown fields path e =
          (Run.lift (Path.join h path e.1)).andThen fun p => f.matcher e.2 p := by
      simp only [entry, hf]
      rfl
    rw [Run.each_cons, Run.andThen_assoc]
    cases hrequired : field? required e.1 with
    | some f =>
      rw [hrequired, Option.some_or] at he
      have hpopped : ∀ d ∈ rest, field? fields d.1 =
          (field? (popField required e.1) d.1).or (field? optional d.1) := by
        intro d hd
        rw [field?_popField (hother d hd)]
        exact hrest d hd
      simp only [walkTables, hrequired]
      rw [hentry he, Run.andThen_assoc, ← unseen_popField, ← ih hkeys hpopped]
      rfl
    | none =>
      rw [hrequired, Option.none_or] at he
      rw [unseen_cons_of_none hrequired, ← ih hkeys hrest]
      cases hoptional : field? optional e.1 with
      | some f =>
        simp only [walkTables, hrequired, hoptional]
        rw [hentry (he.trans hoptional), Run.andThen_assoc]
        rfl
      | none =>
        cases unknown with
        | allow =>
          simp only [walkTables, entry, he, hrequired, hoptional]
          exact (Run.andThen_ok _ _).symm
        | reject =>
          simp only [walkTables, entry, he, hrequired, hoptional]
          rw [Run.bind_eq, Run.bind_eq, Run.andThen_assoc]
          rfl

end Walk

theorem missing?_eq (fields : List FieldMatcher) (entries : List (Value × Value)) :
    missing? fields entries =
      (unseen (fields.filter (·.required = true)) entries).head?.map (·.name) := by
  rw [missing?, unseen, List.filter_filter, List.head?_filter]
  refine congrArg _ (List.find?_congr fun f _ => ?_)
  rw [Bool.and_comm, Bool.decide_eq_true]

/-- The matcher with tables does the same, where no name is declared twice and no key comes up
twice. -/
theorem objectByTables_eq {h : Heap} {unknown : UnknownKeys} {fields : List FieldMatcher} {v : Value}
    (hnames : (fields.map (·.name)).Nodup)
    (hkeys : ∀ entries, h.plainEntries? v = some entries → (entries.filterMap (·.1.text?)).Nodup)
    (path : String) : objectByTables h unknown fields v path = object h unknown fields v path := by
  rw [objectByTables, object, plainEntries]
  split
  · cases hentries : h.plainEntries? v with
    | none => rfl
    | some entries =>
      have hfields : ∀ e ∈ entries, field? fields e.1 =
          (field? (fieldTable true fields) e.1).or (field? (fieldTable false fields) e.1) :=
        fun e _ => field?_eq_or hnames e.1
      simp only [Run.bind_eq, Run.andThen_ok]
      rw [walkTables_eq (hkeys entries hentries) hfields, Run.andThen_assoc, missing?_eq,
        ← fieldTable_eq hnames]
      refine congrArg _ (funext fun _ => ?_)
      rw [Run.andThen_ok]
      cases unseen (fieldTable true fields) entries <;> rfl
  · rfl

end Matcher

namespace Heap

variable {h : Heap}

theorem sameAt_of_text? {x y : Value} {s : String} (hx : x.text? = some s) (hy : y.text? = some s) :
    h.SameAt 1 x y := by
  refine .inr (likeAt_succ.mpr (.simple (fun a ha => ?_) (fun a ha => ?_)
    ((Value.equalSimple_of_text? hx).mpr hy)))
  · subst ha
    cases hx
  · subst ha
    cases hy

/-- Keys of one text are the same, so that no text comes up twice. -/
theorem IsSound.keyTexts_nodup (hsound : h.IsSound) {v : Value} {entries : List (Value × Value)}
    (hv : h.plainEntries? v = some entries) : (entries.filterMap (·.1.text?)).Nodup := by
  have hapart := List.pairwise_map.mp (hsound.distinct_of_plainEntries? hv).apart
  refine List.pairwise_filterMap.mpr (hapart.imp fun hne s hs t ht hst => ?_)
  exact hne 1 (sameAt_of_text? hs (hst ▸ ht))

end Heap

/-- Where no dictionary has a key twice, an object pattern that declares no name twice is matched as
by tables. -/
theorem Pattern.object_matcher_eq_tables {c : Context} (hsound : c.heap.IsSound) {u : UnknownKeys}
    {fields : List (String × Pattern)} (hnames : (fields.map (·.1)).Nodup) :
    (object u fields).matcher c = Matcher.objectByTables c.heap u (fieldMatchers c fields) := by
  have hmatchers : ((fieldMatchers c fields).map (·.name)).Nodup := by
    rwa [fieldMatchers_eq_map, List.map_map]
  funext v path
  exact (Matcher.objectByTables_eq hmatchers (fun _ => hsound.keyTexts_nodup) path).symm

end Conformance
