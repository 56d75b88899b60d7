import Conformance.Proofs.ObjectEquality
import Conformance.Proofs.PatternTree

/-!
# Patterns of one form

Two patterns have one form if they are built of the same variants and names, and their operands are
related place by place. Equal patterns have one form, with equal operands, and patterns of one form
are not told apart unless operands are. To have one form is symmetric and transitive as far as the
relation of the operands is.
-/

namespace Conformance
namespace Pattern

/-! ### Labels and operands -/

/-- The variant of the root, with all that belongs to it but its sub-patterns and its operand. What
a foreign pattern is shows in its tag. -/
@[simp]
def label : Pattern → Pattern
  | literal _ => literal .null
  | instanceOf _ => instanceOf .null
  | satisfies _ => satisfies .null
  | arrayOf _ => arrayOf any
  | objectWithValues _ => objectWithValues any
  | wrap o w _ => wrap o w any
  | object u fields => object u (fields.map fun f => (f.1, any))
  | oneOf choices => oneOf (choices.map fun _ => any)
  | foreign _ n => foreign .general n
  | p => p

def operand? : Pattern → Option Value
  | literal v | instanceOf v | satisfies v => some v
  | _ => none

theorem length_children_label (p : Pattern) : p.label.children.length = p.children.length := by
  cases p <;> simp [children]

theorem isSome_operand?_label (p : Pattern) : p.label.operand?.isSome = p.operand?.isSome := by
  cases p <;> rfl

theorem isWrapped_label (p : Pattern) : p.label.isWrapped = p.isWrapped := by
  cases p <;> rfl

def isConstant : Pattern → Bool
  | any | typeTag _ _ | integer | objectTag | arrayTag | functionTag | dateTag | regexTag => true
  | _ => false

section Inversion

variable {p q : Pattern} {v : Value} {o : Origin} {w : Wrapper} {u : UnknownKeys}
  {fs : List (String × Pattern)} {ps : List Pattern} {t : ForeignType} {n : Nat}

theorem label_literal_iff : (literal v).label = q.label ↔ ∃ x, q = literal x := by
  cases q <;> simp

theorem label_instanceOf_iff : (instanceOf v).label = q.label ↔ ∃ x, q = instanceOf x := by
  cases q <;> simp

theorem label_satisfies_iff : (satisfies v).label = q.label ↔ ∃ x, q = satisfies x := by
  cases q <;> simp

theorem label_arrayOf_iff : (arrayOf p).label = q.label ↔ ∃ r, q = arrayOf r := by
  cases q <;> simp

theorem label_objectWithValues_iff :
    (objectWithValues p).label = q.label ↔ ∃ r, q = objectWithValues r := by
  cases q <;> simp

theorem label_wrap_iff : (wrap o w p).label = q.label ↔ ∃ r, q = wrap o w r := by
  cases q <;> simp [eq_comm]

theorem label_object_iff :
    (object u fs).label = q.label ↔
      ∃ gs, q = object u gs ∧ fs.map (fun f => (f.1, any)) = gs.map fun g => (g.1, any) := by
  cases q <;> simp [@eq_comm _ u]

theorem label_oneOf_iff :
    (oneOf ps).label = q.label ↔ ∃ qs, q = oneOf qs ∧ ps.length = qs.length := by
  cases q <;> simp

theorem label_foreign_iff : (foreign t n).label = q.label ↔ ∃ t', q = foreign t' n := by
  cases q <;> simp [eq_comm]

theorem label_constant_iff (hp : p.isConstant = true) : p.label = q.label ↔ p = q := by
  cases p <;> cases hp <;> cases q <;> simp

end Inversion

/-! ### One form -/

/-- The patterns have the same labels at all places, and their operands are related. -/
inductive Alike (R : Value → Value → Prop) : Pattern → Pattern → Prop where
  | node {p q : Pattern} (hlabel : p.label = q.label)
    (hoperand : ∀ x y, p.operand? = some x → q.operand? = some y → R x y)
    (hchildren : ∀ (i : Nat) p' q', p.children[i]? = some p' → q.children[i]? = some q' →
      Alike R p' q') :
    Alike R p q

/-- The last two patterns are nodes of the first two at the same place. -/
inductive Facing : Pattern → Pattern → Pattern → Pattern → Prop where
  | root (p q : Pattern) : Facing p q p q
  | child {p q p' q' r s : Pattern} {i : Nat} (hp : p.children[i]? = some p')
    (hq : q.children[i]? = some q') (hr : Facing p' q' r s) : Facing p q r s

variable {R : Value → Value → Prop} {p q r : Pattern}

theorem Facing.symm {s : Pattern} (h : Facing p q r s) : Facing q p s r := by
  induction h with
  | root p q => exact .root q p
  | child hp hq _ ih => exact .child hq hp ih

theorem Alike.symm (hR : ∀ x y, R x y → R y x) (h : Alike R p q) : Alike R q p := by
  induction h with
  | node hlabel hoperand _ ih =>
    exact .node hlabel.symm (fun x y hx hy => hR y x (hoperand y x hy hx))
      fun i q' p' hq' hp' => ih i p' q' hp' hq'

theorem Alike.imp {S : Value → Value → Prop} (h : Alike R p q)
    (hRS : ∀ p' q' x y, NodeOf p' p → NodeOf q' q → p'.operand? = some x → q'.operand? = some y →
      R x y → S x y) : Alike S p q := by
  induction h with
  | @node p q hlabel hoperand _ ih =>
    refine .node hlabel (fun x y hx hy => ?_) fun i p' q' hp' hq' => ?_
    · exact hRS p q x y (.root p) (.root q) hx hy (hoperand x y hx hy)
    · refine ih i p' q' hp' hq' fun p'' q'' x y hp'' hq'' => ?_
      exact hRS p'' q'' x y (.child (List.mem_of_getElem? hp') hp'')
        (.child (List.mem_of_getElem? hq') hq'')

theorem Facing.nodeOf_left {s : Pattern} (h : Facing p q r s) : NodeOf r p := by
  induction h with
  | root p => exact .root p
  | child hp _ _ ih => exact .child (List.mem_of_getElem? hp) ih

theorem Facing.eq_of_eq {s : Pattern} (h : Facing p q r s) (hpq : p = q) : r = s := by
  induction h with
  | root => exact hpq
  | child hp hq _ ih =>
    subst hpq
    exact ih (Option.some.inj (hp.symm.trans hq))

theorem Alike.facing {s : Pattern} (h : Alike R p q) (hfacing : Facing p q r s) : Alike R r s := by
  induction hfacing with
  | root => exact h
  | child hp hq _ ih =>
    cases h with
    | node _ _ hchildren => exact ih (hchildren _ _ _ hp hq)

theorem exists_children_of_label (hlabel : p.label = q.label) {i : Nat} {p' : Pattern}
    (hp' : p.children[i]? = some p') : ∃ q', q.children[i]? = some q' := by
  have hlength : p.children.length = q.children.length := by
    rw [← p.length_children_label, ← q.length_children_label, hlabel]
  have hi : i < q.children.length := hlength ▸ (List.getElem?_eq_some_iff.mp hp').1
  exact ⟨_, List.getElem?_eq_getElem hi⟩

theorem exists_operand_of_label (hlabel : p.label = q.label) {x : Value}
    (hx : p.operand? = some x) : ∃ y, q.operand? = some y := by
  rw [← Option.isSome_iff_exists, ← isSome_operand?_label, ← hlabel, isSome_operand?_label, hx]
  rfl

/-- Transitivity, if the relation is transitive from operands that face each other on. -/
theorem Alike.trans (hpq : Alike R p q) (hqr : Alike R q r)
    (htrans : ∀ q' r' y z, Facing q r q' r' → q'.operand? = some y → r'.operand? = some z →
      ∀ x, R x y → R y z → R x z) : Alike R p r := by
  induction hpq generalizing r with
  | @node p q hlabel hoperand _ ih =>
    cases hqr with
    | node hlabel' hoperand' hchildren' =>
      refine .node (hlabel.trans hlabel') (fun x z hx hz => ?_) fun i p' r' hp' hr' => ?_
      · obtain ⟨y, hy⟩ := exists_operand_of_label hlabel hx
        exact htrans q r y z (.root q r) hy hz x (hoperand x y hx hy) (hoperand' y z hy hz)
      · obtain ⟨q', hq'⟩ := exists_children_of_label hlabel hp'
        refine ih i p' q' hp' hq' (hchildren' i q' r' hq' hr') fun q'' r'' y z hfacing => ?_
        exact htrans q'' r'' y z (.child hq' hr' hfacing)

/-! ### Lists of sub-patterns -/

theorem forall₂_fields {Q : Pattern → Pattern → Prop} {fs gs : List (String × Pattern)}
    (hnames : fs.map (fun f => (f.1, any)) = gs.map fun g => (g.1, any))
    (h : ∀ (i : Nat) p q, (fs.map (·.2))[i]? = some p → (gs.map (·.2))[i]? = some q → Q p q) :
    List.Forall₂ (fun f g => f.1 = g.1 ∧ Q f.2 g.2) fs gs := by
  induction fs generalizing gs with
  | nil =>
    rw [List.map_nil, eq_comm, List.map_eq_nil_iff] at hnames
    rw [hnames]
    exact .nil
  | cons f fs ih =>
    cases gs with
    | nil => cases hnames
    | cons g gs =>
      rw [List.map_cons, List.map_cons, List.cons.injEq, Prod.mk.injEq] at hnames
      exact .cons ⟨hnames.1.1, h 0 f.2 g.2 rfl rfl⟩
        (ih hnames.2 fun i p q hp hq => h (i + 1) p q hp hq)

theorem label_fields {Q : Pattern → Pattern → Prop} {u : UnknownKeys}
    {fs gs : List (String × Pattern)}
    (h : List.Forall₂ (fun f g => f.1 = g.1 ∧ Q f.2 g.2) fs gs) :
    (object u fs).label = (object u gs).label := by
  have hnames : fs.map (fun f => (f.1, any)) = gs.map fun g => (g.1, any) := by
    induction h with
    | nil => rfl
    | cons hfg _ ih => rw [List.map_cons, List.map_cons, hfg.1, ih]
  rw [label, label, hnames]

theorem children_related {Q : Pattern → Pattern → Prop} {fs gs : List (String × Pattern)}
    (h : List.Forall₂ (fun f g => f.1 = g.1 ∧ Q f.2 g.2) fs gs) :
    List.Forall₂ Q (fs.map (·.2)) (gs.map (·.2)) := by
  rw [List.forall₂_map_left_iff, List.forall₂_map_right_iff]
  exact h.imp fun _ _ => And.right

theorem Alike.of_children (hlabel : p.label = q.label) (hoperand : p.operand? = none)
    (hchildren : List.Forall₂ (Alike R) p.children q.children) : Alike R p q := by
  refine .node hlabel (fun x y hx _ => ?_) (forall₂_iff_getElem?.mp hchildren).2
  rw [hoperand] at hx
  cases hx

theorem Alike.of_operand {x y : Value} (hlabel : p.label = q.label) (hx : p.operand? = some x)
    (hy : q.operand? = some y) (hp : p.children = []) (hxy : R x y) : Alike R p q := by
  refine .node hlabel (fun x' y' hx' hy' => ?_) fun i p' q' hp' _ => ?_
  · cases hx.symm.trans hx'
    cases hy.symm.trans hy'
    exact hxy
  · rw [hp] at hp'
    cases hp'

theorem Alike.children (h : Alike R p q) : List.Forall₂ (Alike R) p.children q.children := by
  cases h with
  | node hlabel _ hchildren =>
    have hlength : p.children.length = q.children.length := by
      rw [← p.length_children_label, ← q.length_children_label, hlabel]
    exact forall₂_iff_getElem?.mpr ⟨hlength, hchildren⟩

theorem Alike.label_eq (h : Alike R p q) : p.label = q.label := by
  cases h with
  | node hlabel => exact hlabel

theorem Alike.operand {x y : Value} (h : Alike R p q) (hx : p.operand? = some x)
    (hy : q.operand? = some y) : R x y := by
  cases h with
  | node _ hoperand => exact hoperand x y hx hy

/-! ### Comparisons -/

section Comparisons

variable {eq : Value → Value → Except Fault Bool}

attribute [simp] equalWith

theorem forall₂_of_equalFields {fs gs : List (String × Pattern)}
    (h : equalFields eq fs gs = .ok true) :
    List.Forall₂ (fun f g => f.1 = g.1 ∧ f.2.equalWith eq g.2 = .ok true) fs gs := by
  induction fs generalizing gs with
  | nil =>
    cases gs with
    | nil => exact .nil
    | cons => cases h
  | cons f fs ih =>
    cases gs with
    | nil => cases h
    | cons g gs =>
      obtain ⟨m, p⟩ := f
      obtain ⟨n, q⟩ := g
      rw [equalFields] at h
      split at h
      · rename_i hname
        obtain ⟨hpq, hrest⟩ := ite_true h
        exact .cons ⟨hname, hpq⟩ (ih hrest)
      · cases h

theorem forall₂_of_equalChoices {ps qs : List Pattern} (h : equalChoices eq ps qs = .ok true) :
    List.Forall₂ (fun p q => p.equalWith eq q = .ok true) ps qs := by
  induction ps generalizing qs with
  | nil =>
    cases qs with
    | nil => exact .nil
    | cons => cases h
  | cons p ps ih =>
    cases qs with
    | nil => cases h
    | cons q qs =>
      obtain ⟨hpq, hrest⟩ := ite_true h
      exact .cons hpq (ih hrest)

section Inversion

variable {v : Value} {o : Origin} {w : Wrapper} {u : UnknownKeys} {fs : List (String × Pattern)}
  {ps : List Pattern} {t : ForeignType} {n : Nat}

theorem equalWith_literal_iff :
    (literal v).equalWith eq q = .ok true ↔ ∃ x, q = literal x ∧ eq v x = .ok true := by
  cases q <;> simp

theorem equalWith_instanceOf_iff :
    (instanceOf v).equalWith eq q = .ok true ↔ ∃ x, q = instanceOf x ∧ eq v x = .ok true := by
  cases q <;> simp

theorem equalWith_satisfies_iff :
    (satisfies v).equalWith eq q = .ok true ↔ ∃ x, q = satisfies x ∧ eq v x = .ok true := by
  cases q <;> simp

theorem equalWith_arrayOf_iff :
    (arrayOf p).equalWith eq q = .ok true ↔ ∃ r, q = arrayOf r ∧ p.equalWith eq r = .ok true := by
  cases q <;> simp

theorem equalWith_objectWithValues_iff :
    (objectWithValues p).equalWith eq q = .ok true ↔
      ∃ r, q = objectWithValues r ∧ p.equalWith eq r = .ok true := by
  cases q <;> simp

theorem equalWith_wrap_iff :
    (wrap o w p).equalWith eq q = .ok true ↔ ∃ r, q = wrap o w r ∧ p.equalWith eq r = .ok true := by
  cases q with
  | wrap o' w' r =>
    rw [equalWith]
    split
    · rename_i hsame
      simp [hsame]
    · rename_i hne
      refine ⟨nofun, ?_⟩
      rintro ⟨r', hr', -⟩
      cases hr'
      exact absurd ⟨rfl, rfl⟩ hne
  | _ => simp

theorem equalWith_object_iff :
    (object u fs).equalWith eq q = .ok true ↔
      ∃ gs, q = object u gs ∧ equalFields eq fs gs = .ok true := by
  cases q with
  | object u' gs =>
    rw [equalWith]
    split
    · rename_i hsame
      simp [hsame]
    · rename_i hne
      simp [Ne.symm hne]
  | _ => simp

theorem equalWith_oneOf_iff :
    (oneOf ps).equalWith eq q = .ok true ↔
      ∃ qs, q = oneOf qs ∧ equalChoices eq ps qs = .ok true := by
  cases q <;> simp

theorem equalWith_foreign_iff :
    (foreign t n).equalWith eq q = .ok true ↔ ∃ t', q = foreign t' n := by
  cases q <;> simp [eq_comm]

theorem equalWith_constant_iff (hp : p.isConstant = true) :
    p.equalWith eq q = .ok true ↔ p = q := by
  cases p <;> cases hp <;> cases q <;> simp

end Inversion

theorem alike_of_equalWith (heq : ∀ x y, eq x y = .ok true → R x y)
    (h : p.equalWith eq q = .ok true) : Alike R p q := by
  induction p using childrenInduction generalizing q with
  | step p ih =>
    have honly : ∀ {a b : Pattern}, a ∈ p.children → a.equalWith eq b = .ok true →
        List.Forall₂ (Alike R) [a] [b] := fun ha hab => .cons (ih _ ha hab) .nil
    cases p with
    | literal v =>
      obtain ⟨x, rfl, hvx⟩ := equalWith_literal_iff.mp h
      exact .of_operand rfl rfl rfl rfl (heq v x hvx)
    | instanceOf v =>
      obtain ⟨x, rfl, hvx⟩ := equalWith_instanceOf_iff.mp h
      exact .of_operand rfl rfl rfl rfl (heq v x hvx)
    | satisfies v =>
      obtain ⟨x, rfl, hvx⟩ := equalWith_satisfies_iff.mp h
      exact .of_operand rfl rfl rfl rfl (heq v x hvx)
    | arrayOf a =>
      obtain ⟨b, rfl, hab⟩ := equalWith_arrayOf_iff.mp h
      exact .of_children rfl rfl (honly (List.mem_singleton_self a) hab)
    | objectWithValues a =>
      obtain ⟨b, rfl, hab⟩ := equalWith_objectWithValues_iff.mp h
      exact .of_children rfl rfl (honly (List.mem_singleton_self a) hab)
    | wrap o w a =>
      obtain ⟨b, rfl, hab⟩ := equalWith_wrap_iff.mp h
      exact .of_children rfl rfl (honly (List.mem_singleton_self a) hab)
    | object u fs =>
      obtain ⟨gs, rfl, hfields⟩ := equalWith_object_iff.mp h
      have halike : List.Forall₂ (fun f g => f.1 = g.1 ∧ Alike R f.2 g.2) fs gs :=
        forall₂_of_mem (forall₂_of_equalFields hfields) fun f hf g _ hfg =>
          ⟨hfg.1, ih f.2 (List.mem_map_of_mem hf) hfg.2⟩
      exact .of_children (label_fields halike) rfl (children_related halike)
    | oneOf ps =>
      obtain ⟨qs, rfl, hchoices⟩ := equalWith_oneOf_iff.mp h
      have halike : List.Forall₂ (Alike R) ps qs :=
        forall₂_of_mem (forall₂_of_equalChoices hchoices) fun p hp q _ hpq => ih p hp hpq
      exact .of_children (label_oneOf_iff.mpr ⟨qs, rfl, halike.length_eq⟩) rfl halike
    | foreign t n =>
      obtain ⟨t', rfl⟩ := equalWith_foreign_iff.mp h
      exact .of_children rfl rfl .nil
    | _ =>
      obtain rfl := (equalWith_constant_iff rfl).mp h
      exact .of_children rfl rfl .nil

theorem equalFields_ne_false {fs gs : List (String × Pattern)}
    (h : List.Forall₂ (fun f g => f.1 = g.1 ∧ f.2.equalWith eq g.2 ≠ .ok false) fs gs) :
    equalFields eq fs gs ≠ .ok false := by
  induction h with
  | nil => simp [equalFields]
  | @cons f g fs gs hfg _ ih =>
    obtain ⟨m, p⟩ := f
    obtain ⟨n, q⟩ := g
    rw [equalFields, if_pos hfg.1]
    exact ite_ne_false hfg.2 ih

theorem equalChoices_ne_false {ps qs : List Pattern}
    (h : List.Forall₂ (fun p q => p.equalWith eq q ≠ .ok false) ps qs) :
    equalChoices eq ps qs ≠ .ok false := by
  induction h with
  | nil => simp [equalChoices]
  | cons hpq _ ih =>
    rw [equalChoices]
    exact ite_ne_false hpq ih

/-- Patterns of one form are not told apart unless their operands are. -/
theorem Alike.equalWith_ne_false (heq : ∀ x y, R x y → eq x y ≠ .ok false) (h : Alike R p q) :
    p.equalWith eq q ≠ .ok false := by
  induction p using childrenInduction generalizing q with
  | step p ih =>
    have hlabel := h.label_eq
    have hchildren : List.Forall₂ (fun a b => a.equalWith eq b ≠ .ok false) p.children q.children :=
      forall₂_of_mem h.children fun a ha b _ hab => ih a ha hab
    cases p with
    | literal v =>
      obtain ⟨x, rfl⟩ := label_literal_iff.mp hlabel
      exact heq v x (h.operand rfl rfl)
    | instanceOf v =>
      obtain ⟨x, rfl⟩ := label_instanceOf_iff.mp hlabel
      exact heq v x (h.operand rfl rfl)
    | satisfies v =>
      obtain ⟨x, rfl⟩ := label_satisfies_iff.mp hlabel
      exact heq v x (h.operand rfl rfl)
    | arrayOf a =>
      obtain ⟨b, rfl⟩ := label_arrayOf_iff.mp hlabel
      exact (List.forall₂_cons.mp hchildren).1
    | objectWithValues a =>
      obtain ⟨b, rfl⟩ := label_objectWithValues_iff.mp hlabel
      exact (List.forall₂_cons.mp hchildren).1
    | wrap o w a =>
      obtain ⟨b, rfl⟩ := label_wrap_iff.mp hlabel
      rw [equalWith, if_pos ⟨rfl, rfl⟩]
      exact (List.forall₂_cons.mp hchildren).1
    | object u fs =>
      obtain ⟨gs, rfl, hnames⟩ := label_object_iff.mp hlabel
      rw [equalWith, if_pos rfl]
      exact equalFields_ne_false (forall₂_fields hnames (forall₂_iff_getElem?.mp hchildren).2)
    | oneOf ps =>
      obtain ⟨qs, rfl, -⟩ := label_oneOf_iff.mp hlabel
      exact equalChoices_ne_false hchildren
    | foreign t n =>
      obtain ⟨t', rfl⟩ := label_foreign_iff.mp hlabel
      simp
    | _ =>
      obtain rfl := (label_constant_iff rfl).mp hlabel
      rw [(equalWith_constant_iff rfl).mpr rfl]
      simp

end Comparisons

end Pattern
end Conformance
