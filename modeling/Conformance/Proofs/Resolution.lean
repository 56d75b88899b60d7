import Conformance.Proofs.NormalForm

/-!
# Resolved operands

A built pattern stays what it is when raw operands are replaced by the patterns that they stand for,
at any depth, and when it is built again from its own fields or choices.
-/

namespace Conformance
namespace Heap

variable {h : Heap}

/-! ### Raw values that are replaced by patterns -/

mutual

/-- The second value is the first one, in which values that stand for patterns may be replaced by
these patterns. A pattern that was built may be built again from such values. -/
inductive Resolved (h : Heap) : Value → Value → Prop where
  | same (v : Value) : Resolved h v v
  | pattern {v : Value} {a : Address} {p : Pattern} {parts : List Provenance}
    (ha : h.cell a = .pattern p parts) (hv : h.toPattern v = .ok p) : Resolved h v (.ref a)
  | element {a b : Address} {k : SequenceKind} {x y : Value} (ha : h.cell a = .sequence k [x])
    (hb : h.cell b = .sequence k [y]) (hxy : Resolved h x y) : Resolved h (.ref a) (.ref b)
  | fields {a b : Address} {k : DictKind} {es ds : List (Value × Value)}
    (ha : h.cell a = .dict k es) (hb : h.cell b = .dict k ds) (hentries : ResolvedEntries h es ds) :
    Resolved h (.ref a) (.ref b)
  | call {a b : Address} {p q : Pattern} {parts parts' : List Provenance} {r s : Recipe}
    (ha : h.cell a = .pattern p parts) (hp : r.build h = .ok p) (hb : h.cell b = .pattern q parts')
    (hq : s.build h = .ok q) (hrs : ResolvedRecipe h r s) : Resolved h (.ref a) (.ref b)

/-- The same keys, with values in which patterns may have been put. -/
inductive ResolvedEntries (h : Heap) : List (Value × Value) → List (Value × Value) → Prop where
  | nil : ResolvedEntries h [] []
  | cons {e d : Value × Value} {es ds : List (Value × Value)} (hkey : e.1 = d.1)
    (hvalue : Resolved h e.2 d.2) (hrest : ResolvedEntries h es ds) :
    ResolvedEntries h (e :: es) (d :: ds)

/-- Pairs with the same keys, with values in which patterns may have been put. -/
inductive ResolvedPairs (h : Heap) : List Value → List Value → Prop where
  | nil : ResolvedPairs h [] []
  | cons {item item' key x y : Value} {items items' : List Value}
    (hitem : ∀ i, h.sizedPair i item = .ok (key, x))
    (hitem' : ∀ i, h.sizedPair i item' = .ok (key, y)) (hxy : Resolved h x y)
    (hrest : ResolvedPairs h items items') : ResolvedPairs h (item :: items) (item' :: items')

inductive ResolvedChoices (h : Heap) : List Value → List Value → Prop where
  | nil : ResolvedChoices h [] []
  | cons {x y : Value} {xs ys : List Value} (hxy : Resolved h x y)
    (hrest : ResolvedChoices h xs ys) : ResolvedChoices h (x :: xs) (y :: ys)

/-- The same recipe with operands in which patterns may have been put. -/
inductive ResolvedRecipe (h : Heap) : Recipe → Recipe → Prop where
  | same (r : Recipe) : ResolvedRecipe h r r
  | operand {r s : Recipe} {v w : Value} (hr : r.operand? = some v) (hs : s.operand? = some w)
    (haround : r.around = s.around) (hvw : Resolved h v w) : ResolvedRecipe h r s
  | mapping {u : UnknownKeys} {a b : Address} {k : DictKind} {es ds : List (Value × Value)}
    (ha : h.cell a = .dict k es) (hb : h.cell b = .dict k ds) (hentries : ResolvedEntries h es ds) :
    ResolvedRecipe h (.object u (.ref a)) (.object u (.ref b))
  | tuple {u : UnknownKeys} {a b : Address} {k : SequenceKind} {items items' : List Value}
    (hk : k.family = .tuple) (ha : h.cell a = .sequence k items)
    (hb : h.cell b = .sequence k items') (hitems : ResolvedPairs h items items') :
    ResolvedRecipe h (.object u (.ref a)) (.object u (.ref b))
  | choices {xs ys : List Value} (hxys : ResolvedChoices h xs ys) :
    ResolvedRecipe h (.oneOf xs) (.oneOf ys)

end

/-- The second value stands for all patterns that the first one stands for. -/
def StandsAs (h : Heap) (v w : Value) : Prop :=
  ∀ n p, h.toPatternAt n v = .ok p → h.toPatternAt n w = .ok p

theorem toPatternAt_unique {n m : Nat} {v : Value} {p q : Pattern} (hp : h.toPatternAt n v = .ok p)
    (hq : h.toPatternAt m v = .ok q) : p = q := by
  have hdeep := toPatternAt_mono hp (Nat.le_max_left n m)
  rw [toPatternAt_mono hq (Nat.le_max_right n m)] at hdeep
  exact (Except.ok.inj hdeep).symm

theorem declareFields_sameKeys {n : Nat} {es ds : List (Value × Value)}
    (hsame : SameKeys h.StandsAs es ds) {fields : List (String × Pattern)}
    (hfields : h.declareFields (h.toPatternAt n) es = .ok fields) :
    h.declareFields (h.toPatternAt n) ds = .ok fields := by
  induction hsame generalizing fields with
  | nil => exact hfields
  | cons he _ ih =>
    obtain ⟨name, p, more, hname, hp, hmore, rfl⟩ := declareFields_cons_eq_ok_iff.mp hfields
    rw [he.1] at hname
    exact declareFields_cons_eq_ok_iff.mpr ⟨name, p, more, hname, he.2 n p hp, ih hmore, rfl⟩

/-! ### One step of a replacement -/

theorem standsAs_pattern {v : Value} {a : Address} {p : Pattern} {parts : List Provenance}
    (ha : h.cell a = .pattern p parts) (hv : h.toPattern v = .ok p) : h.StandsAs v (.ref a) := by
  intro n q hq
  obtain ⟨n, rfl⟩ := exists_succ_of_toPatternAt hq
  rw [toPatternAt_unique hq hv]
  exact toPatternAt_pattern ha

theorem standsAs_element {a b : Address} {k : SequenceKind} {x y : Value}
    (ha : h.cell a = .sequence k [x]) (hb : h.cell b = .sequence k [y]) (hxy : h.StandsAs x y) :
    h.StandsAs (.ref a) (.ref b) := by
  intro n p hp
  obtain ⟨n, rfl⟩ := exists_succ_of_toPatternAt hp
  obtain ⟨hk, q, hq, rfl⟩ := (toPatternAt_element_eq_ok_iff ha).mp hp
  exact (toPatternAt_element_eq_ok_iff hb).mpr ⟨hk, q, hxy n q hq, rfl⟩

theorem standsAs_fields {a b : Address} {k : DictKind} {es ds : List (Value × Value)}
    (ha : h.cell a = .dict k es) (hb : h.cell b = .dict k ds) (hsame : SameKeys h.StandsAs es ds) :
    h.StandsAs (.ref a) (.ref b) := by
  intro n p hp
  obtain ⟨n, rfl⟩ := exists_succ_of_toPatternAt hp
  obtain ⟨hk, fields, hfields, rfl⟩ := (toPatternAt_dict_eq_ok_iff ha).mp hp
  have hfields' := declareFields_sameKeys hsame hfields
  exact (toPatternAt_dict_eq_ok_iff hb).mpr ⟨hk, fields, hfields', rfl⟩

/-- The second recipe makes all patterns that the first one makes. -/
def MakesAs (h : Heap) (r s : Recipe) : Prop := ∀ p, r.build h = .ok p → s.build h = .ok p

theorem standsAs_call {a b : Address} {p q : Pattern} {parts parts' : List Provenance}
    {r s : Recipe} (ha : h.cell a = .pattern p parts) (hp : r.build h = .ok p)
    (hb : h.cell b = .pattern q parts') (hq : s.build h = .ok q) (hrs : h.MakesAs r s) :
    h.StandsAs (.ref a) (.ref b) := by
  have hsame : p = q := Except.ok.inj ((hrs p hp).symm.trans hq)
  subst hsame
  exact standsAs_pattern hb (toPattern_pattern ha)

theorem makesAs_operand {r s : Recipe} {v w : Value} (hr : r.operand? = some v)
    (hs : s.operand? = some w) (haround : r.around = s.around) (hvw : h.StandsAs v w) :
    h.MakesAs r s := by
  intro p hp
  rw [Recipe.build_of_operand? hr] at hp
  obtain ⟨q, hq, hp⟩ := bind_eq_ok_iff.mp hp
  rw [Recipe.build_of_operand? hs, ← haround]
  exact bind_eq_ok_iff.mpr ⟨q, hvw _ _ hq, hp⟩

theorem makesAs_object {u : UnknownKeys} {v w : Value}
    (hvw : ∀ es, h.fieldEntries v = .ok es →
      ∃ ds, h.fieldEntries w = .ok ds ∧ SameKeys h.StandsAs es ds) :
    h.MakesAs (.object u v) (.object u w) := by
  intro p hp
  obtain ⟨es, fields, hes, rfl, hfields⟩ := Recipe.object_build_eq_ok_iff.mp hp
  obtain ⟨ds, hds, hsame⟩ := hvw es hes
  have hdeclared := declareFields_toPattern_eq_ok_iff.mpr hfields
  have hdeclared' := declareFields_toPattern_eq_ok_iff.mp (declareFields_sameKeys hsame hdeclared)
  exact Recipe.object_build_eq_ok_iff.mpr ⟨ds, fields, hds, rfl, hdeclared'⟩

theorem makesAs_mapping {u : UnknownKeys} {a b : Address} {k : DictKind}
    {es ds : List (Value × Value)} (ha : h.cell a = .dict k es) (hb : h.cell b = .dict k ds)
    (hsame : SameKeys h.StandsAs es ds) :
    h.MakesAs (.object u (.ref a)) (.object u (.ref b)) := by
  refine makesAs_object fun es' hes' => ⟨ds, by simp only [fieldEntries, hb], ?_⟩
  simp only [fieldEntries, ha] at hes'
  cases hes'
  exact hsame

/-- Pairs with the same keys end up in the same places. -/
def CollectsAs (h : Heap) (items items' : List Value) : Prop :=
  ∀ i es ds held, SameKeys h.StandsAs es ds →
    h.collectPairs h.sizedPair i es items = .ok held →
    ∃ held', h.collectPairs h.sizedPair i ds items' = .ok held' ∧ SameKeys h.StandsAs held held'

theorem collectsAs_cons {item item' key x y : Value} {items items' : List Value}
    (hitem : ∀ i, h.sizedPair i item = .ok (key, x))
    (hitem' : ∀ i, h.sizedPair i item' = .ok (key, y)) (hxy : h.StandsAs x y)
    (hrest : h.CollectsAs items items') : h.CollectsAs (item :: items) (item' :: items') := by
  intro i es ds held hsame hheld
  rw [collectPairs_cons, takePair, hitem i] at hheld
  rw [collectPairs_cons, takePair, hitem' i]
  obtain ⟨more, hmore, hheld⟩ := bind_eq_ok_iff.mp hheld
  obtain ⟨more', hmore', hsame'⟩ := insertKey_sameKeys hsame hxy hmore
  obtain ⟨held', hheld', hsame''⟩ := hrest (i + 1) more more' held hsame' hheld
  exact ⟨held', bind_eq_ok_iff.mpr ⟨more', hmore', hheld'⟩, hsame''⟩

theorem makesAs_tuple {u : UnknownKeys} {a b : Address} {k : SequenceKind}
    {items items' : List Value} (hk : k.family = .tuple) (ha : h.cell a = .sequence k items)
    (hb : h.cell b = .sequence k items') (hitems : h.CollectsAs items items') :
    h.MakesAs (.object u (.ref a)) (.object u (.ref b)) := by
  refine makesAs_object fun es hes => ?_
  rw [fieldEntries_tuple ha hk] at hes
  rw [fieldEntries_tuple hb hk]
  exact hitems 0 [] [] es .nil hes

theorem makesAs_choices {xs ys : List Value} (hxys : List.Forall₂ h.StandsAs xs ys) :
    h.MakesAs (.oneOf xs) (.oneOf ys) := by
  intro p hp
  obtain ⟨hsome, ps, rfl, hps⟩ := Recipe.oneOf_build_eq_ok_iff.mp hp
  refine Recipe.oneOf_build_eq_ok_iff.mpr ⟨?_, ps, rfl, ?_⟩
  · rintro rfl
    cases hxys
    exact hsome rfl
  · clear hp hsome
    induction hxys generalizing ps with
    | nil => exact hps
    | cons hxy _ ih =>
      cases hps with
      | cons hx hxs => exact .cons (hxy _ _ hx) (ih _ hxs)

/-! ### All steps of a replacement -/

mutual

theorem Resolved.standsAs {v w : Value} : h.Resolved v w → h.StandsAs v w
  | .same _ => fun _ _ hp => hp
  | .pattern ha hv => standsAs_pattern ha hv
  | .element ha hb hxy => standsAs_element ha hb hxy.standsAs
  | .fields ha hb hentries => standsAs_fields ha hb hentries.sameKeys
  | .call ha hp hb hq hrs => standsAs_call ha hp hb hq hrs.makesAs

theorem ResolvedEntries.sameKeys {es ds : List (Value × Value)} :
    h.ResolvedEntries es ds → SameKeys h.StandsAs es ds
  | .nil => .nil
  | .cons hkey hvalue hrest => .cons ⟨hkey, hvalue.standsAs⟩ hrest.sameKeys

theorem ResolvedPairs.collectsAs {items items' : List Value} :
    h.ResolvedPairs items items' → h.CollectsAs items items'
  | .nil => fun _ _ ds _ hsame hheld => ⟨ds, rfl, Except.ok.inj hheld ▸ hsame⟩
  | .cons hitem hitem' hxy hrest => collectsAs_cons hitem hitem' hxy.standsAs hrest.collectsAs

theorem ResolvedChoices.forall₂ {xs ys : List Value} :
    h.ResolvedChoices xs ys → List.Forall₂ h.StandsAs xs ys
  | .nil => .nil
  | .cons hxy hrest => .cons hxy.standsAs hrest.forall₂

theorem ResolvedRecipe.makesAs {r s : Recipe} : h.ResolvedRecipe r s → h.MakesAs r s
  | .same _ => fun _ hp => hp
  | .operand hr hs haround hvw => makesAs_operand hr hs haround hvw.standsAs
  | .mapping ha hb hentries => makesAs_mapping ha hb hentries.sameKeys
  | .tuple hk ha hb hitems => makesAs_tuple hk ha hb hitems.collectsAs
  | .choices hxys => makesAs_choices hxys.forall₂

end

/-! ### Where raw values go -/

theorem fields_of_dict {a : Address} {k : DictKind} {es : List (Value × Value)} {p : Pattern}
    (ha : h.cell a = .dict k es) (hp : h.toPattern (.ref a) = .ok p) :
    ∃ fields, p = .object .reject fields ∧ List.Forall₂ h.DeclaredAs es fields := by
  obtain ⟨fields, hfields, rfl⟩ := exists_toPattern_fields ha hp
  exact ⟨fields, rfl, declareFields_toPattern_eq_ok_iff.mp hfields⟩

theorem PartOf.exists_nodeOf {part raw : Value} (hpart : h.PartOf part raw) {p : Pattern}
    (hp : h.toPattern raw = .ok p) : ∃ q, h.toPattern part = .ok q ∧ Pattern.NodeOf q p := by
  induction hpart generalizing p with
  | whole => exact ⟨p, hp, .root p⟩
  | element ha _ ih =>
    obtain ⟨q, hq, rfl⟩ := exists_toPattern_element ha hp
    obtain ⟨s, hs, hnode⟩ := ih hq
    exact ⟨s, hs, .child (List.mem_singleton_self q) hnode⟩
  | field ha he _ ih =>
    obtain ⟨fields, rfl, hfields⟩ := fields_of_dict ha hp
    obtain ⟨f, hf, hdeclared⟩ := exists_of_mem_left hfields he
    obtain ⟨s, hs, hnode⟩ := ih hdeclared.2
    exact ⟨s, hs, .child (List.mem_map_of_mem hf) hnode⟩

end Heap

namespace Recipe

variable {h : Heap} {r : Recipe}

/-- The value is an operand of the recipe that stands for a pattern. -/
inductive Holds (h : Heap) : Recipe → Value → Prop where
  | operand {r : Recipe} {v : Value} (hr : r.operand? = some v) : Holds h r v
  | field {u : UnknownKeys} {v : Value} {es : List (Value × Value)} {e : Value × Value}
    (hes : h.fieldEntries v = .ok es) (he : e ∈ es) : Holds h (.object u v) e.2
  | choice {x : Value} {xs : List Value} (hx : x ∈ xs) : Holds h (.oneOf xs) x

theorem Holds.exists_nodeOf {x : Value} (hx : r.Holds h x) {p : Pattern} (hp : r.build h = .ok p) :
    ∃ q, h.toPattern x = .ok q ∧ Pattern.NodeOf q p := by
  cases hx with
  | operand hr =>
    rw [build_of_operand? hr] at hp
    obtain ⟨q, hq, hp⟩ := bind_eq_ok_iff.mp hp
    cases hp
    exact ⟨q, hq, nodeOf_around r q⟩
  | field hes he =>
    obtain ⟨es, fields, hes', rfl, hfields⟩ := object_build_eq_ok_iff.mp hp
    cases Except.ok.inj (hes.symm.trans hes')
    obtain ⟨f, hf, hdeclared⟩ := exists_of_mem_left hfields he
    exact ⟨f.2, hdeclared.2, .child (List.mem_map_of_mem hf) (.root f.2)⟩
  | choice hx =>
    obtain ⟨-, ps, rfl, hps⟩ := oneOf_build_eq_ok_iff.mp hp
    obtain ⟨q, hq, hxq⟩ := exists_of_mem_left hps hx
    exact ⟨q, hxq, .child hq (.root q)⟩

end Recipe

/-! ### Stored fields and choices -/

namespace Heap

variable {h : Heap}

/-- A pair of a name and a pattern, as a built pattern stores it. -/
inductive StoredField (h : Heap) : Value → String × Pattern → Prop where
  | pair {a b : Address} {key : Value} {name : String} {p : Pattern} {parts : List Provenance}
    (ha : h.cell a = .sequence .tuple [key, .ref b]) (hkey : key.string? = some name)
    (hb : h.cell b = .pattern p parts) : StoredField h (.ref a) (name, p)

inductive StoredChoice (h : Heap) : Value → Pattern → Prop where
  | pattern {a : Address} {p : Pattern} {parts : List Provenance}
    (ha : h.cell a = .pattern p parts) : StoredChoice h (.ref a) p

theorem sizedPair_of_tuple {a : Address} {key value : Value}
    (ha : h.cell a = .sequence .tuple [key, value]) (i : Nat) :
    h.sizedPair i (.ref a) = .ok (key, value) := by
  have hparts : h.iterate? (.ref a) = some (.listed [key, value]) := by simp only [iterate?, ha]
  rw [sizedPair, hparts]
  rfl

theorem StoredField.entries {items : List Value} {fields : List (String × Pattern)}
    (hfields : List.Forall₂ h.StoredField items fields) :
    ∃ es, List.Forall₂ (fun item e => ∀ i, h.sizedPair i item = .ok e) items es ∧
      List.Forall₂ h.DeclaredAs es fields := by
  induction hfields with
  | nil => exact ⟨[], .nil, .nil⟩
  | cons hfield _ ih =>
    obtain ⟨es, hitems, hes⟩ := ih
    cases hfield with
    | @pair a b key name p parts ha hkey hb =>
      exact ⟨(key, .ref b) :: es, .cons (sizedPair_of_tuple ha) hitems,
        .cons ⟨hkey, toPattern_pattern hb⟩ hes⟩

theorem object_build_of_storedFields {u : UnknownKeys} {a : Address} {items : List Value}
    {fields : List (String × Pattern)} (ha : h.cell a = .sequence .tuple items)
    (hfields : List.Forall₂ h.StoredField items fields) (hnames : (fields.map (·.1)).Nodup) :
    (Recipe.object u (.ref a)).build h = .ok (.object u fields) := by
  obtain ⟨es, hitems, hes⟩ := StoredField.entries hfields
  have hdeclared := declareFields_toPattern_eq_ok_iff.mpr hes
  have hnamed : AreNamed es := by
    intro e he
    obtain ⟨f, -, hf⟩ := exists_of_mem_left hes he
    exact ⟨f.1, hf.1⟩
  rw [names_of_declareFields hdeclared] at hnames
  have hentries : h.fieldEntries (.ref a) = .ok es := by
    rw [fieldEntries_tuple ha rfl]
    exact collectPairs_of_nodup hitems hnamed hnames
  exact Recipe.object_build_eq_ok_iff.mpr ⟨es, fields, hentries, rfl, hes⟩

theorem oneOf_build_of_storedChoices {xs : List Value} {choices : List Pattern}
    (hchoices : List.Forall₂ h.StoredChoice xs choices) (hsome : choices ≠ []) :
    (Recipe.oneOf xs).build h = .ok (.oneOf choices) := by
  refine Recipe.oneOf_build_eq_ok_iff.mpr ⟨?_, choices, rfl, ?_⟩
  · rintro rfl
    cases hchoices
    exact hsome rfl
  · refine hchoices.imp fun v p hv => ?_
    cases hv with
    | pattern ha => exact toPattern_pattern ha

end Heap

/-- In a heap that came about by making and changing objects and building patterns, every pattern
that is built is in normal form at every node. Each operand, and each value in it that stands where
a pattern is wanted, has become the node that it stands for; a dictionary has become an object
pattern with its keys for names, in their order. Operands in which patterns have been put for what
stands for them give the same pattern. Built again from its own fields or choices, in any heap that
holds them, an object pattern or a choice is what it was. -/
theorem Recipe.build_normal_and_stable {h : Heap} (hh : h.Built) (r : Recipe) {p : Pattern}
    (hp : r.build h = .ok p) :
    p.Every Pattern.isNormal ∧
      (∀ x part, r.Holds h x → h.PartOf part x → ∃ q, h.toPattern part = .ok q ∧
        Pattern.NodeOf q p ∧ ∀ a k es, part = .ref a → h.cell a = .dict k es →
          ∃ fields, q = .object .reject fields ∧ List.Forall₂ h.DeclaredAs es fields) ∧
      (∀ u v, r = .object u v → ∃ es fields, h.fieldEntries v = .ok es ∧ p = .object u fields ∧
        List.Forall₂ h.DeclaredAs es fields) ∧
      (∀ s, h.ResolvedRecipe r s → s.build h = .ok p) ∧
      ∀ h' : Heap,
        (∀ u fields a items, Pattern.NodeOf (.object u fields) p →
          h'.cell a = .sequence .tuple items → List.Forall₂ h'.StoredField items fields →
          (Recipe.object u (.ref a)).build h' = .ok (.object u fields)) ∧
        ∀ choices xs, Pattern.NodeOf (.oneOf choices) p →
          List.Forall₂ h'.StoredChoice xs choices →
          (Recipe.oneOf xs).build h' = .ok (.oneOf choices) := by
  have hnormal : p.Every Pattern.isNormal := every_isNormal hh.isRegular hp
  refine ⟨hnormal, fun x part hx hpart => ?_, fun u v hr => ?_, fun s hs => hs.makesAs p hp,
    fun h' => ⟨fun u fields a items hnode ha hfields => ?_, fun choices xs hnode hchoices => ?_⟩⟩
  · obtain ⟨q, hq, hnode⟩ := hx.exists_nodeOf hp
    obtain ⟨s, hs, hnode'⟩ := hpart.exists_nodeOf hq
    refine ⟨s, hs, hnode'.trans hnode, fun a k es ha hcell => ?_⟩
    subst ha
    exact Heap.fields_of_dict hcell hs
  · subst hr
    exact object_build_eq_ok_iff.mp hp
  · have hnames := hnormal _ hnode
    exact Heap.object_build_of_storedFields ha hfields (of_decide_eq_true hnames)
  · have hsome := hnormal _ hnode
    refine Heap.oneOf_build_of_storedChoices hchoices ?_
    rintro rfl
    cases hsome

/-- A dictionary, the same dictionary with a pattern for the list in it, and the stored fields of
the pattern that both stand for. -/
def storedShape : Heap :=
  ⟨#[.sequence .list [.classObject .int],
    .pattern (.arrayOf .integer) [],
    .pattern (.typeTag .native .null) [],
    .dict .plain [(.str "b", .ref 0), (.str "a", .null)],
    .dict .plain [(.str "b", .ref 1), (.str "a", .null)],
    .sequence .tuple [.str "b", .ref 1],
    .sequence .tuple [.str "a", .ref 2],
    .sequence .tuple [.ref 5, .ref 6]]⟩

theorem storedShape_built : storedShape.Built := by
  have hlist := Heap.Built.sequence .list [.classObject .int] .empty
  have harray := hlist.pattern (r := .raw (.ref 0)) (p := .arrayOf .integer) [] rfl
  have hnull := harray.pattern (r := .raw .null) (p := .typeTag .native .null) [] rfl
  have hentries (h : Heap) (w : Value) : h.collectEntries [(.str "b", w), (.str "a", .null)] =
      .ok [(.str "b", w), (.str "a", .null)] := rfl
  have hraw := hnull.dict .plain (hentries _ (.ref 0))
  have hresolved := hraw.dict .plain (hentries _ (.ref 1))
  have hpairs := (hresolved.sequence .tuple [.str "b", .ref 1]).sequence .tuple [.str "a", .ref 2]
  exact hpairs.sequence .tuple [.ref 5, .ref 6]

theorem storedShape_stable :
    (Pattern.object .reject [("b", .arrayOf .integer), ("a", .typeTag .native .null)]).Every
        Pattern.isNormal ∧
      storedShape.toPattern (.ref 4) =
        .ok (.object .reject [("b", .arrayOf .integer), ("a", .typeTag .native .null)]) ∧
      storedShape.objectPattern .reject (.ref 7) =
        .ok (.object .reject [("b", .arrayOf .integer), ("a", .typeTag .native .null)]) := by
  obtain ⟨hnormal, -, -, hresolved, hstored⟩ := Recipe.build_normal_and_stable
    (p := .object .reject [("b", .arrayOf .integer), ("a", .typeTag .native .null)])
    storedShape_built (.raw (.ref 3)) rfl
  refine ⟨hnormal, hresolved (.raw (.ref 4)) ?_, ?_⟩
  · have hlist : storedShape.Resolved (.ref 0) (.ref 1) := .pattern rfl rfl
    have hentries : storedShape.ResolvedEntries [(.str "b", .ref 0), (.str "a", .null)]
        [(.str "b", .ref 1), (.str "a", .null)] := .cons rfl hlist (.cons rfl (.same .null) .nil)
    exact .operand rfl rfl rfl (.fields (k := .plain) rfl rfl hentries)
  · have hfields : List.Forall₂ storedShape.StoredField [.ref 5, .ref 6]
        [("b", .arrayOf .integer), ("a", .typeTag .native .null)] :=
      .cons (.pair rfl rfl rfl) (.cons (.pair rfl rfl rfl) .nil)
    exact (hstored storedShape).1 .reject _ 7 _ (.root _) rfl hfields

end Conformance
