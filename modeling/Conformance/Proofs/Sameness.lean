import Conformance.Heap.Hashable
import Conformance.Proofs.Likeness
import Conformance.Proofs.SimpleEquality

/-!
# Sameness

What it means that values are equal, apart from how they are compared: the same number, text or
bytes, or objects of one family with the same parts. A comparison that ends in a verdict tells just
whether this is so, as long as no dictionary has a key twice and no set a member. Sameness is
symmetric. It is transitive where ordered dictionaries face ordered ones only, for the order of
entries counts between two of these and not otherwise.
-/

namespace Conformance

/-! ### Related parts -/

section Parts

variable (R : Value → Value → Prop)

/-- Sequences of one family with related items. Each member of a set is related to one of the other
set. -/
def SequenceFamily.SameWith (vs ws : List Value) : SequenceFamily → Prop
  | set => vs.length = ws.length ∧ (∀ x ∈ vs, ∃ y ∈ ws, R x y) ∧ ∀ y ∈ ws, ∃ x ∈ vs, R x y
  | _ => List.Forall₂ R vs ws

structure SameEntries (inOrder : Bool) (as bs : List (Value × Value)) : Prop where
  length : as.length = bs.length
  within : ∀ e ∈ as, ∃ d ∈ bs, R e.1 d.1 ∧ R e.2 d.2
  covered : ∀ d ∈ bs, ∃ e ∈ as, R e.1 d.1 ∧ R e.2 d.2
  order : inOrder = true → List.Forall₂ R (as.map (·.1)) (bs.map (·.1))

inductive Cell.SameWith : Cell → Cell → Prop where
  | sequence {j k : SequenceKind} {vs ws : List Value} (hfamily : j.family = k.family)
    (hitems : j.family.SameWith R vs ws) : SameWith (.sequence j vs) (.sequence k ws)
  | dict {j k : DictKind} {as bs : List (Value × Value)}
    (hentries : SameEntries R (j.comparesOrder k) as bs) : SameWith (.dict j as) (.dict k bs)
  | pattern {p q : Pattern} {parts parts' : List Provenance} (hpq : p.Alike R q) :
    SameWith (.pattern p parts) (.pattern q parts')

end Parts

/-- The value is an item, a key, a value under a key or an operand of the object. -/
inductive Cell.Part : Cell → Value → Prop where
  | item {k : SequenceKind} {items : List Value} {x : Value} (hx : x ∈ items) :
    Part (.sequence k items) x
  | key {k : DictKind} {es : List (Value × Value)} {e : Value × Value} (he : e ∈ es) :
    Part (.dict k es) e.1
  | value {k : DictKind} {es : List (Value × Value)} {e : Value × Value} (he : e ∈ es) :
    Part (.dict k es) e.2
  | operand {p q : Pattern} {parts : List Provenance} {x : Value} (hq : Pattern.NodeOf q p)
    (hx : q.operand? = some x) : Part (.pattern p parts) x

namespace Heap

/-- One step of sameness; the parts of objects are related by `R`. -/
inductive SameStep (h : Heap) (R : Value → Value → Prop) : Value → Value → Prop where
  | object (a : Address) : SameStep h R (.ref a) (.ref a)
  | parts {a b : Address} (hab : (h.cell a).SameWith R (h.cell b)) : SameStep h R (.ref a) (.ref b)
  | bytes {v w : Value} {s : List UInt8} (hv : h.byteContent? v = some s)
    (hw : h.byteContent? w = some s) : SameStep h R v w
  | simple {v w : Value} (hv : ∀ a, v ≠ .ref a) (hw : ∀ a, w ≠ .ref a)
    (hvw : v.equalSimple w = true) : SameStep h R v w

/-- The values are the same, up to a depth. What is not a number is not the same as itself. -/
def LikeAt (h : Heap) : Nat → Value → Value → Prop
  | 0, _, _ => False
  | n + 1, v, w => h.SameStep (fun x y => x = y ∨ h.LikeAt n x y) v w

/-- The values are the same as parts of objects, up to a depth: a part is the same as itself. -/
def SameAt (h : Heap) (n : Nat) (v w : Value) : Prop := v = w ∨ h.LikeAt n v w

theorem likeAt_succ {h : Heap} {n : Nat} {v w : Value} :
    h.LikeAt (n + 1) v w ↔ h.SameStep (h.SameAt n) v w := Iff.rfl

end Heap

/-! ### Other relations of the parts -/

section Relations

variable {R S : Value → Value → Prop}

theorem SequenceFamily.SameWith.imp {vs ws : List Value} {family : SequenceFamily}
    (h : family.SameWith R vs ws) (hRS : ∀ x ∈ vs, ∀ y ∈ ws, R x y → S x y) :
    family.SameWith S vs ws := by
  cases family with
  | set =>
    obtain ⟨hlength, hwithin, hcovered⟩ := h
    refine ⟨hlength, fun x hx => ?_, fun y hy => ?_⟩
    · obtain ⟨y, hy, hxy⟩ := hwithin x hx
      exact ⟨y, hy, hRS x hx y hy hxy⟩
    · obtain ⟨x, hx, hxy⟩ := hcovered y hy
      exact ⟨x, hx, hRS x hx y hy hxy⟩
  | list | tuple | deque => exact forall₂_of_mem h hRS

theorem SameEntries.imp {inOrder : Bool} {as bs : List (Value × Value)}
    (h : SameEntries R inOrder as bs)
    (hkeys : ∀ e ∈ as, ∀ d ∈ bs, R e.1 d.1 → S e.1 d.1)
    (hvalues : ∀ e ∈ as, ∀ d ∈ bs, R e.2 d.2 → S e.2 d.2) : SameEntries S inOrder as bs where
  length := h.length
  within e he := by
    obtain ⟨d, hd, hkey, hvalue⟩ := h.within e he
    exact ⟨d, hd, hkeys e he d hd hkey, hvalues e he d hd hvalue⟩
  covered d hd := by
    obtain ⟨e, he, hkey, hvalue⟩ := h.covered d hd
    exact ⟨e, he, hkeys e he d hd hkey, hvalues e he d hd hvalue⟩
  order hin := by
    refine forall₂_of_mem (h.order hin) fun x hx y hy => ?_
    obtain ⟨e, he, rfl⟩ := List.mem_map.mp hx
    obtain ⟨d, hd, rfl⟩ := List.mem_map.mp hy
    exact hkeys e he d hd

theorem Cell.SameWith.imp {c d : Cell} (h : c.SameWith R d)
    (hRS : ∀ x y, c.Part x → d.Part y → R x y → S x y) : c.SameWith S d := by
  cases h with
  | sequence hfamily hitems =>
    exact .sequence hfamily (hitems.imp fun x hx y hy => hRS x y (.item hx) (.item hy))
  | dict hentries =>
    exact .dict (hentries.imp (fun e he d hd => hRS _ _ (.key he) (.key hd))
      fun e he d hd => hRS _ _ (.value he) (.value hd))
  | pattern hpq =>
    exact .pattern (hpq.imp fun p' q' x y hp hq hx hy => hRS x y (.operand hp hx) (.operand hq hy))

namespace Heap

variable {h : Heap}

theorem LikeAt.succ {n : Nat} {v w : Value} (hvw : h.LikeAt n v w) : h.LikeAt (n + 1) v w := by
  induction n generalizing v w with
  | zero => exact hvw.elim
  | succ n ih =>
    rw [likeAt_succ] at hvw ⊢
    cases hvw with
    | object a => exact .object a
    | parts hab => exact .parts (hab.imp fun _ _ _ _ hxy => hxy.imp id ih)
    | bytes hv hw => exact .bytes hv hw
    | simple hv hw hvw => exact .simple hv hw hvw

theorem LikeAt.mono {n m : Nat} (hnm : n ≤ m) {v w : Value} (hvw : h.LikeAt n v w) :
    h.LikeAt m v w := by
  induction hnm with
  | refl => exact hvw
  | step _ ih => exact ih.succ

end Heap

end Relations

/-! ### Symmetry -/

section Symmetry

variable {R : Value → Value → Prop}

theorem DictKind.comparesOrder_comm (j k : DictKind) : j.comparesOrder k = k.comparesOrder j :=
  Bool.and_comm _ _

theorem SequenceFamily.SameWith.symm (hR : ∀ x y, R x y → R y x) {vs ws : List Value}
    {family : SequenceFamily} (h : family.SameWith R vs ws) : family.SameWith R ws vs := by
  have hitems : List.Forall₂ R vs ws → List.Forall₂ R ws vs :=
    fun h => h.flip.imp fun x y hxy => hR y x hxy
  cases family with
  | set =>
    obtain ⟨hlength, hwithin, hcovered⟩ := h
    refine ⟨hlength.symm, fun y hy => ?_, fun x hx => ?_⟩
    · obtain ⟨x, hx, hxy⟩ := hcovered y hy
      exact ⟨x, hx, hR x y hxy⟩
    · obtain ⟨y, hy, hxy⟩ := hwithin x hx
      exact ⟨y, hy, hR x y hxy⟩
  | list | tuple | deque => exact hitems h

theorem SameEntries.symm (hR : ∀ x y, R x y → R y x) {inOrder : Bool} {as bs : List (Value × Value)}
    (h : SameEntries R inOrder as bs) : SameEntries R inOrder bs as where
  length := h.length.symm
  within d hd := by
    obtain ⟨e, he, hkey, hvalue⟩ := h.covered d hd
    exact ⟨e, he, hR _ _ hkey, hR _ _ hvalue⟩
  covered e he := by
    obtain ⟨d, hd, hkey, hvalue⟩ := h.within e he
    exact ⟨d, hd, hR _ _ hkey, hR _ _ hvalue⟩
  order hin := (h.order hin).flip.imp fun x y hxy => hR y x hxy

theorem Cell.SameWith.symm (hR : ∀ x y, R x y → R y x) {c d : Cell} (h : c.SameWith R d) :
    d.SameWith R c := by
  cases h with
  | sequence hfamily hitems =>
    rw [hfamily] at hitems
    exact .sequence hfamily.symm (hitems.symm hR)
  | @dict j k _ _ hentries =>
    rw [j.comparesOrder_comm k] at hentries
    exact .dict (hentries.symm hR)
  | pattern hpq => exact .pattern (hpq.symm hR)

namespace Heap

variable {h : Heap}

theorem SameStep.symm (hR : ∀ x y, R x y → R y x) {v w : Value} (hvw : h.SameStep R v w) :
    h.SameStep R w v := by
  cases hvw with
  | object a => exact .object a
  | parts hab => exact .parts (hab.symm hR)
  | bytes hv hw => exact .bytes hw hv
  | simple hv hw hvw => exact .simple hw hv (Value.equalSimple_symm hvw)

theorem LikeAt.symm {n : Nat} {v w : Value} (hvw : h.LikeAt n v w) : h.LikeAt n w v := by
  induction n generalizing v w with
  | zero => exact hvw
  | succ n ih =>
    refine SameStep.symm (fun x y hxy => ?_) hvw
    exact hxy.imp Eq.symm ih

theorem SameAt.symm {n : Nat} {v w : Value} (hvw : h.SameAt n v w) : h.SameAt n w v :=
  hvw.imp Eq.symm LikeAt.symm

end Heap

end Symmetry

/-! ### Hashable values -/

namespace Pattern

variable {check : Value → Except Fault Unit} {p q : Pattern}

theorem checkFields_ok_iff {fields : List (String × Pattern)} :
    checkFields check fields = .ok () ↔ ∀ f ∈ fields, f.2.checkOperands check = .ok () := by
  induction fields with
  | nil => exact iff_of_true rfl (List.forall_mem_nil _)
  | cons f rest ih => rw [checkFields, bind_unit_eq_ok_iff, List.forall_mem_cons, ih]

theorem checkChoices_ok_iff {choices : List Pattern} :
    checkChoices check choices = .ok () ↔ ∀ p ∈ choices, p.checkOperands check = .ok () := by
  induction choices with
  | nil => exact iff_of_true rfl (List.forall_mem_nil _)
  | cons p rest ih => rw [checkChoices, bind_unit_eq_ok_iff, List.forall_mem_cons, ih]

theorem checkOperands_ok_iff : p.checkOperands check = .ok () ↔
    (∀ x, p.operand? = some x → check x = .ok ()) ∧
      ∀ q ∈ p.children, q.checkOperands check = .ok () := by
  cases p with
  | object u fields =>
    rw [children, List.forall_mem_map]
    exact checkFields_ok_iff.trans (and_iff_right fun x hx => by cases hx).symm
  | _ => simp [checkOperands, operand?, children, checkChoices_ok_iff]

/-- A check of all operands goes through all nodes. -/
theorem checkOperands_ok_iff_forall : p.checkOperands check = .ok () ↔
    ∀ q x, NodeOf q p → q.operand? = some x → check x = .ok () := by
  induction p using childrenInduction with
  | step p ih =>
    rw [checkOperands_ok_iff]
    constructor
    · rintro ⟨hroot, hchildren⟩ q x hq hx
      cases hq with
      | root => exact hroot x hx
      | child hchild hq => exact (ih _ hchild).mp (hchildren _ hchild) q x hq hx
    · intro hall
      refine ⟨fun x => hall p x (.root p), fun q hq => (ih q hq).mpr fun r x hr => ?_⟩
      exact hall r x (.child hq hr)

end Pattern

namespace Heap

variable {h : Heap}

def IsHashable (h : Heap) (v : Value) : Prop := ∃ n, h.checkHashableAt n v = .ok ()

theorem forM_ok_iff {check : Value → Except Fault Unit} {items : List Value} :
    items.forM check = .ok () ↔ ∀ x ∈ items, check x = .ok () := by
  induction items with
  | nil => exact iff_of_true rfl (List.forall_mem_nil _)
  | cons x rest ih =>
    rw [List.forall_mem_cons, ← ih]
    exact bind_unit_eq_ok_iff

theorem IsHashable.not_dict {a : Address} {k : DictKind} {es : List (Value × Value)}
    (hv : h.IsHashable (.ref a)) : h.cell a ≠ .dict k es := by
  intro ha
  obtain ⟨n, hn⟩ := hv
  cases n with
  | zero => cases hn
  | succ n => simp [checkHashableAt, ha] at hn

theorem IsHashable.item {a : Address} {k : SequenceKind} {items : List Value} {x : Value}
    (hv : h.IsHashable (.ref a)) (ha : h.cell a = .sequence k items) (hk : k.family ≠ .set)
    (hx : x ∈ items) : h.IsHashable x := by
  obtain ⟨n, hn⟩ := hv
  cases n with
  | zero => cases hn
  | succ n =>
    cases k with
    | tuple | point =>
      simp only [checkHashableAt, ha] at hn
      exact ⟨n, forM_ok_iff.mp hn x hx⟩
    | set | frozenset => exact absurd rfl hk
    | _ => simp [checkHashableAt, ha] at hn

theorem IsHashable.operand {a : Address} {p q : Pattern} {parts : List Provenance} {x : Value}
    (hv : h.IsHashable (.ref a)) (ha : h.cell a = .pattern p parts) (hq : Pattern.NodeOf q p)
    (hx : q.operand? = some x) : h.IsHashable x := by
  obtain ⟨n, hn⟩ := hv
  cases n with
  | zero => cases hn
  | succ n =>
    simp only [checkHashableAt, ha] at hn
    exact ⟨n, Pattern.checkOperands_ok_iff_forall.mp hn q x hq hx⟩

/-! ### Parts that face each other -/

/-- The last two values are the first two, or parts of them at the same place: items of sequences,
entries under the same key, or operands of patterns. -/
inductive Facing (h : Heap) : Value → Value → Value → Value → Prop where
  | root (v w : Value) : Facing h v w v w
  | item {a b : Address} {j k : SequenceKind} {vs ws : List Value} {i : Nat} {v w x y : Value}
    (ha : h.cell a = .sequence j vs) (hb : h.cell b = .sequence k ws) (hj : j.family ≠ .set)
    (hk : k.family ≠ .set) (hv : vs[i]? = some v) (hw : ws[i]? = some w)
    (hxy : Facing h v w x y) : Facing h (.ref a) (.ref b) x y
  | value {a b : Address} {j k : DictKind} {as bs : List (Value × Value)} {e d : Value × Value}
    {n : Nat} {x y : Value} (ha : h.cell a = .dict j as) (hb : h.cell b = .dict k bs) (he : e ∈ as)
    (hd : d ∈ bs) (hkey : h.SameAt n e.1 d.1) (hxy : Facing h e.2 d.2 x y) :
    Facing h (.ref a) (.ref b) x y
  | operand {a b : Address} {p q p' q' : Pattern} {parts parts' : List Provenance} {v w x y : Value}
    (ha : h.cell a = .pattern p parts) (hb : h.cell b = .pattern q parts')
    (hnode : Pattern.Facing p q p' q') (hv : p'.operand? = some v) (hw : q'.operand? = some w)
    (hxy : Facing h v w x y) : Facing h (.ref a) (.ref b) x y

/-- Is the value a dictionary that keeps its order when it is compared, with entries enough for an
order? -/
def isOrdered (h : Heap) : Value → Bool
  | .ref a => match h.cell a with
    | .dict .ordered es => 2 ≤ es.length
    | _ => false
  | _ => false

theorem isOrdered_dict_iff {a : Address} {k : DictKind} {es : List (Value × Value)}
    (ha : h.cell a = .dict k es) :
    h.isOrdered (.ref a) = true ↔ k = .ordered ∧ 2 ≤ es.length := by
  cases k <;> simp [isOrdered, ha]

/-- Ordered dictionaries in the values face ordered ones. -/
def OrdersAlike (h : Heap) (v w : Value) : Prop :=
  ∀ x y, h.Facing v w x y → h.isOrdered x = h.isOrdered y

theorem isOrdered_of_isHashable {v : Value} (hv : h.IsHashable v) : h.isOrdered v = false := by
  cases v with
  | ref a =>
    rw [isOrdered]
    split
    · rename_i ha
      exact absurd ha hv.not_dict
    · rfl
  | _ => rfl

/-- Hashable values hold no dictionaries at places that can face each other. -/
theorem ordersAlike_of_isHashable {v w : Value} (hv : h.IsHashable v) (hw : h.IsHashable w) :
    h.OrdersAlike v w := by
  intro x y hxy
  induction hxy with
  | root => rw [isOrdered_of_isHashable hv, isOrdered_of_isHashable hw]
  | item ha hb hj hk hx hy _ ih =>
    exact ih (hv.item ha hj (List.mem_of_getElem? hx)) (hw.item hb hk (List.mem_of_getElem? hy))
  | value ha => exact absurd ha hv.not_dict
  | operand ha hb hnode hx hy _ ih =>
    exact ih (hv.operand ha hnode.nodeOf_left hx) (hw.operand hb hnode.symm.nodeOf_left hy)

/-- What is the same as an object with parts is that object, or one with the same parts. -/
theorem SameAt.ref {n : Nat} {a : Address} {w : Value} (hbytes : h.byteContent? (.ref a) = none)
    (haw : h.SameAt n (.ref a) w) :
    w = .ref a ∨ ∃ b m, w = .ref b ∧ (h.cell a).SameWith (h.SameAt m) (h.cell b) := by
  rcases haw with rfl | haw
  · exact .inl rfl
  cases n with
  | zero => exact haw.elim
  | succ n =>
    cases likeAt_succ.mp haw with
    | object => exact .inl rfl
    | @parts _ b hab => exact .inr ⟨b, n, rfl, hab⟩
    | bytes hv =>
      rw [hbytes] at hv
      cases hv
    | simple hv => exact absurd rfl (hv a)

/-- What is the same as a hashable value holds no ordered dictionaries at places that face places
of it. -/
theorem ordersAlike_of_sameAt {n : Nat} {v w : Value} (hvw : h.SameAt n v w)
    (hw : h.IsHashable w) : h.OrdersAlike v w := by
  intro x y hxy
  induction hxy generalizing n with
  | root v w =>
    rw [isOrdered_of_isHashable hw]
    cases v with
    | ref a =>
      rw [isOrdered]
      split
      · rename_i es ha
        rcases hvw.ref (by simp only [byteContent?, ha]) with rfl | ⟨b, m, rfl, hab⟩
        · exact absurd ha hw.not_dict
        · rw [ha] at hab
          generalize hb : h.cell b = y at hab
          cases hab with
          | dict => exact absurd hb hw.not_dict
      · rfl
    | _ => rfl
  | @item a b j k vs ws i v w _ _ ha hb hj hk hx hy _ ih =>
    have hhash := hw.item hb hk (List.mem_of_getElem? hy)
    rcases hvw.ref (by simp only [byteContent?, ha]) with heq | ⟨c, m, hc, hab⟩
    · cases heq
      cases ha.symm.trans hb
      exact ih (n := n) (.inl (Option.some.inj (hx.symm.trans hy))) hhash
    · cases hc
      rw [ha, hb] at hab
      cases hab with
      | sequence hfamily hitems =>
        have hitems : List.Forall₂ (h.SameAt m) vs ws := by
          cases hfam : j.family with
          | set => exact absurd hfam hj
          | list | tuple | deque => rwa [hfam] at hitems
        exact ih ((forall₂_iff_getElem?.mp hitems).2 i v w hx hy) hhash
  | value ha hb => exact absurd hb hw.not_dict
  | @operand a b p q p' q' parts parts' v w _ _ ha hb hnode hx hy _ ih =>
    have hhash := hw.operand hb hnode.symm.nodeOf_left hy
    rcases hvw.ref (by simp only [byteContent?, ha]) with heq | ⟨c, m, hc, hab⟩
    · cases heq
      cases ha.symm.trans hb
      rw [hnode.eq_of_eq rfl] at hx
      exact ih (n := n) (.inl (Option.some.inj (hx.symm.trans hy))) hhash
    · cases hc
      rw [ha, hb] at hab
      cases hab with
      | pattern hpq => exact ih ((hpq.facing hnode).operand hx hy) hhash

/-- No dictionary has a key twice and no set a member, and all keys and members are hashable. -/
structure IsSound (h : Heap) : Prop where
  key {a : Address} {k : DictKind} {es : List (Value × Value)} (ha : h.cell a = .dict k es)
    {e : Value × Value} (he : e ∈ es) : h.IsHashable e.1
  keys {a : Address} {k : DictKind} {es : List (Value × Value)} (ha : h.cell a = .dict k es) :
    es.Pairwise fun e d => ∀ n, ¬ h.SameAt n e.1 d.1
  member {a : Address} {k : SequenceKind} {items : List Value} (ha : h.cell a = .sequence k items)
    (hk : k.family = .set) {x : Value} (hx : x ∈ items) : h.IsHashable x
  members {a : Address} {k : SequenceKind} {items : List Value} (ha : h.cell a = .sequence k items)
    (hk : k.family = .set) : items.Pairwise fun x y => ∀ n, ¬ h.SameAt n x y

/-! ### Transitivity -/

section Transitivity

variable {R : Value → Value → Prop}

theorem forall₂_trans {us vs ws : List Value} (huv : List.Forall₂ R us vs)
    (hvw : List.Forall₂ R vs ws)
    (htrans : ∀ (i : Nat) v w, vs[i]? = some v → ws[i]? = some w → ∀ u, R u v → R v w → R u w) :
    List.Forall₂ R us ws := by
  induction huv generalizing ws with
  | nil => exact hvw
  | @cons u v us vs huv _ ih =>
    cases hvw with
    | @cons _ w _ ws hvw hvws =>
      exact .cons (htrans 0 v w rfl rfl u huv hvw)
        (ih hvws fun i v w hv hw => htrans (i + 1) v w hv hw)

/-- The relation is transitive where ordered dictionaries face ordered ones. -/
def IsTransitive (h : Heap) (R : Value → Value → Prop) : Prop :=
  ∀ u v w, R u v → R v w → h.OrdersAlike v w → R u w

theorem sequence_trans (hsound : h.IsSound) (hR : h.IsTransitive R) {b c : Address}
    {j k : SequenceKind} {us vs ws : List Value} (hb : h.cell b = .sequence j vs)
    (hc : h.cell c = .sequence k ws) (hfamily : j.family = k.family)
    (horders : h.OrdersAlike (.ref b) (.ref c)) (huv : j.family.SameWith R us vs)
    (hvw : j.family.SameWith R vs ws) : j.family.SameWith R us ws := by
  by_cases hset : j.family = .set
  · have hmembers : ∀ v ∈ vs, ∀ w ∈ ws, h.OrdersAlike v w := fun v hv w hw =>
      ordersAlike_of_isHashable (hsound.member hb hset hv)
        (hsound.member hc (hfamily ▸ hset) hw)
    rw [hset] at huv hvw ⊢
    obtain ⟨hlength, hwithin, hcovered⟩ := huv
    obtain ⟨hlength', hwithin', hcovered'⟩ := hvw
    refine ⟨hlength.trans hlength', fun u hu => ?_, fun w hw => ?_⟩
    · obtain ⟨v, hv, huv⟩ := hwithin u hu
      obtain ⟨w, hw, hvw⟩ := hwithin' v hv
      exact ⟨w, hw, hR u v w huv hvw (hmembers v hv w hw)⟩
    · obtain ⟨v, hv, hvw⟩ := hcovered' w hw
      obtain ⟨u, hu, huv⟩ := hcovered v hv
      exact ⟨u, hu, hR u v w huv hvw (hmembers v hv w hw)⟩
  · have hitems : List.Forall₂ R us vs → List.Forall₂ R vs ws → List.Forall₂ R us ws := by
      refine fun huv hvw => forall₂_trans huv hvw fun i v w hv hw u huv hvw => ?_
      exact hR u v w huv hvw fun x y hxy =>
        horders x y (.item hb hc hset (hfamily ▸ hset) hv hw hxy)
    cases hj : j.family with
    | set => exact absurd hj hset
    | list | tuple | deque =>
      rw [hj] at huv hvw
      exact hitems huv hvw

/-- One entry has no order. -/
theorem keys_of_length_lt {as bs : List (Value × Value)} (hbs : bs.length < 2)
    (hlength : as.length = bs.length) (hwithin : ∀ e ∈ as, ∃ d ∈ bs, R e.1 d.1 ∧ R e.2 d.2) :
    List.Forall₂ R (as.map (·.1)) (bs.map (·.1)) := by
  rcases Nat.le_one_iff_eq_zero_or_eq_one.mp (Nat.le_of_lt_succ hbs) with hnone | hone
  · rw [List.length_eq_zero_iff.mp hnone, List.length_eq_zero_iff.mp (hlength.trans hnone)]
    exact .nil
  · obtain ⟨d, rfl⟩ := List.length_eq_one_iff.mp hone
    obtain ⟨e, rfl⟩ := List.length_eq_one_iff.mp (hlength.trans hone)
    obtain ⟨d', hd', hkey, -⟩ := hwithin e List.mem_cons_self
    rw [List.mem_singleton.mp hd'] at hkey
    exact .cons hkey .nil

theorem entries_trans (hsound : h.IsSound) {n : Nat} (hR : h.IsTransitive (h.SameAt n))
    {b c : Address} {i j k : DictKind} {us vs ws : List (Value × Value)}
    (hb : h.cell b = .dict j vs) (hc : h.cell c = .dict k ws)
    (horders : h.OrdersAlike (.ref b) (.ref c))
    (huv : SameEntries (h.SameAt n) (i.comparesOrder j) us vs)
    (hvw : SameEntries (h.SameAt n) (j.comparesOrder k) vs ws) :
    SameEntries (h.SameAt n) (i.comparesOrder k) us ws := by
  have hkeys : ∀ v ∈ vs, ∀ w ∈ ws, h.OrdersAlike v.1 w.1 := fun v hv w hw =>
    ordersAlike_of_isHashable (hsound.key hb hv) (hsound.key hc hw)
  have hvalues : ∀ v ∈ vs, ∀ w ∈ ws, h.SameAt n v.1 w.1 → h.OrdersAlike v.2 w.2 :=
    fun v hv w hw hkey x y hxy => horders x y (.value hb hc hv hw hkey hxy)
  have hentry : ∀ u : Value × Value, ∀ v ∈ vs, ∀ w ∈ ws, h.SameAt n u.1 v.1 ∧ h.SameAt n u.2 v.2 →
      h.SameAt n v.1 w.1 ∧ h.SameAt n v.2 w.2 → h.SameAt n u.1 w.1 ∧ h.SameAt n u.2 w.2 :=
    fun u v hv w hw huv hvw => ⟨hR _ _ _ huv.1 hvw.1 (hkeys v hv w hw),
      hR _ _ _ huv.2 hvw.2 (hvalues v hv w hw hvw.1)⟩
  have hwithin : ∀ u ∈ us, ∃ w ∈ ws, h.SameAt n u.1 w.1 ∧ h.SameAt n u.2 w.2 := by
    intro u hu
    obtain ⟨v, hv, huv⟩ := huv.within u hu
    obtain ⟨w, hw, hvw⟩ := hvw.within v hv
    exact ⟨w, hw, hentry u v hv w hw huv hvw⟩
  refine ⟨huv.length.trans hvw.length, hwithin, fun w hw => ?_, fun hin => ?_⟩
  · obtain ⟨v, hv, hvw⟩ := hvw.covered w hw
    obtain ⟨u, hu, huv⟩ := huv.covered v hv
    exact ⟨u, hu, hentry u v hv w hw huv hvw⟩
  · obtain ⟨rfl, rfl⟩ : i = .ordered ∧ k = .ordered := by
      simpa [DictKind.comparesOrder] using hin
    by_cases hlength : ws.length < 2
    · exact keys_of_length_lt hlength (huv.length.trans hvw.length) hwithin
    · -- the dictionary in the middle is ordered too, for it faces an ordered one
      have hlast : h.isOrdered (.ref c) = true :=
        (isOrdered_dict_iff hc).mpr ⟨rfl, Nat.not_lt.mp hlength⟩
      have hmiddle : h.isOrdered (.ref b) = true := (horders _ _ (.root _ _)).trans hlast
      obtain ⟨rfl, -⟩ := (isOrdered_dict_iff hb).mp hmiddle
      refine forall₂_trans (huv.order rfl) (hvw.order rfl) fun i v w hv hw u huv hvw => ?_
      rw [List.getElem?_map, Option.map_eq_some_iff] at hv hw
      obtain ⟨v, hv, rfl⟩ := hv
      obtain ⟨w, hw, rfl⟩ := hw
      exact hR u _ _ huv hvw (hkeys v (List.mem_of_getElem? hv) w (List.mem_of_getElem? hw))

theorem sameWith_trans (hsound : h.IsSound) {n : Nat} (hR : h.IsTransitive (h.SameAt n))
    {b c : Address} {x y z : Cell} (hb : h.cell b = y) (hc : h.cell c = z)
    (horders : h.OrdersAlike (.ref b) (.ref c)) (hxy : x.SameWith (h.SameAt n) y)
    (hyz : y.SameWith (h.SameAt n) z) : x.SameWith (h.SameAt n) z := by
  cases hxy with
  | sequence hfamily huv =>
    cases hyz with
    | sequence hfamily' hvw =>
      rw [hfamily] at huv
      have huw := sequence_trans hsound hR hb hc hfamily' horders huv hvw
      rw [← hfamily] at huw
      exact .sequence (hfamily.trans hfamily') huw
  | dict huv =>
    cases hyz with
    | dict hvw => exact .dict (entries_trans hsound hR hb hc horders huv hvw)
  | pattern hpq =>
    cases hyz with
    | pattern hqr =>
      refine .pattern (hpq.trans hqr fun q' r' v w hnode hv hw u huv hvw => ?_)
      exact hR u v w huv hvw fun _ _ hfacing => horders _ _ (.operand hb hc hnode hv hw hfacing)

theorem byteContent?_of_sameWith {a : Address} {x y : Cell} (ha : h.cell a = x)
    (hxy : x.SameWith R y) : h.byteContent? (.ref a) = none := by
  cases hxy <;> simp only [byteContent?, ha]

/-- A byte string without parts is equal to nothing but itself. -/
theorem byteContent?_of_equalSimple {v w : Value} {s : List UInt8} (hv : ∀ a, v ≠ .ref a)
    (hs : h.byteContent? v = some s) (hvw : v.equalSimple w = true) :
    h.byteContent? w = some s := by
  cases v with
  | bytes k content =>
    cases (Value.equalSimple_of_none rfl rfl).mp hvw
    exact hs
  | ref a => exact absurd rfl (hv a)
  | _ => cases hs

theorem sameAt_isTransitive_of {n : Nat}
    (htrans : ∀ {u v w}, h.LikeAt n u v → h.LikeAt n v w → h.OrdersAlike v w → h.LikeAt n u w) :
    h.IsTransitive (h.SameAt n) := by
  rintro u v w (rfl | huv) hvw horders
  · exact hvw
  · rcases hvw with rfl | hvw
    · exact .inr huv
    · exact .inr (htrans huv hvw horders)

theorem LikeAt.trans (hsound : h.IsSound) {n : Nat} {u v w : Value} (huv : h.LikeAt n u v)
    (hvw : h.LikeAt n v w) (horders : h.OrdersAlike v w) : h.LikeAt n u w := by
  induction n generalizing u v w with
  | zero => exact huv
  | succ n ih =>
    have hR : h.IsTransitive (h.SameAt n) := sameAt_isTransitive_of ih
    rw [likeAt_succ] at huv hvw ⊢
    cases huv with
    | object a => exact hvw
    | @parts a b hab =>
      cases hvw with
      | object => exact .parts hab
      | parts hbc => exact .parts (sameWith_trans hsound hR rfl rfl horders hab hbc)
      | bytes hv hw =>
        have hnone := byteContent?_of_sameWith rfl (hab.symm fun _ _ => SameAt.symm)
        rw [hnone] at hv
        cases hv
      | simple hv => exact absurd rfl (hv b)
    | bytes hu hv =>
      cases hvw with
      | object => exact .bytes hu hv
      | parts hbc =>
        rw [byteContent?_of_sameWith rfl hbc] at hv
        cases hv
      | bytes hv' hw =>
        cases hv.symm.trans hv'
        exact .bytes hu hw
      | simple hnot hw hvw => exact .bytes hu (byteContent?_of_equalSimple hnot hv hvw)
    | @simple u v hu hv huv =>
      cases hvw with
      | object a => exact absurd rfl (hv a)
      | @parts b c hbc => exact absurd rfl (hv b)
      | bytes hs hw =>
        exact .bytes (byteContent?_of_equalSimple hv hs (Value.equalSimple_symm huv)) hw
      | simple _ hw hvw => exact .simple hu hw (Value.equalSimple_trans huv hvw)

theorem sameAt_isTransitive (hsound : h.IsSound) (n : Nat) : h.IsTransitive (h.SameAt n) :=
  sameAt_isTransitive_of fun huv hvw horders => huv.trans hsound hvw horders

end Transitivity

end Heap

end Conformance
