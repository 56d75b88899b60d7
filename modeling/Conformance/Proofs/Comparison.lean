import Conformance.Proofs.Sameness
import Mathlib.Data.List.Pairwise

/-!
# What a comparison tells

A comparison of two values ends in true only if they are the same, and in false only if they are
not. In between are the faults. Of dictionaries and sets, one side only is gone through; that the
other side is covered too follows from the sizes, since no key and no member is there twice.
-/

namespace Conformance

variable {R : Value → Value → Prop} {eq : Value → Value → Except Fault Bool}

/-! ### Sequences -/

/-- Of two lists of one length, the second is covered if each item of the first has a partner in it
and no two items share one. -/
theorem covered_of_within {α : Type} {S : α → α → Prop} {xs ys : List α}
    (hlength : xs.length = ys.length) (hwithin : ∀ x ∈ xs, ∃ y ∈ ys, S x y)
    (hapart : xs.Pairwise fun x x' => ∀ y, S x y → ¬ S x' y) : ∀ y ∈ ys, ∃ x ∈ xs, S x y := by
  induction xs generalizing ys with
  | nil =>
    rw [List.length_nil, eq_comm, List.length_eq_zero_iff] at hlength
    rw [hlength]
    exact List.forall_mem_nil _
  | cons x xs ih =>
    obtain ⟨⟨y, hy, hxy⟩, hwithin⟩ := List.forall_mem_cons.mp hwithin
    obtain ⟨hx, hapart⟩ := List.pairwise_cons.mp hapart
    obtain ⟨before, after, rfl⟩ := List.append_of_mem hy
    -- the other items have their partners among what is left
    have hrest : ∀ x' ∈ xs, ∃ z ∈ before ++ after, S x' z := by
      intro x' hx'
      obtain ⟨z, hz, hxz⟩ := hwithin x' hx'
      rcases List.mem_append.mp hz with hz | hz
      · exact ⟨z, List.mem_append_left _ hz, hxz⟩
      · rcases List.mem_cons.mp hz with rfl | hz
        · exact absurd hxz (hx x' hx' z hxy)
        · exact ⟨z, List.mem_append_right _ hz, hxz⟩
    have hlength' : xs.length = (before ++ after).length := by
      simp only [List.length_append, List.length_cons] at hlength ⊢
      omega
    have hcovered := ih hlength' hrest hapart
    intro z hz
    rcases List.mem_append.mp hz with hz | hz
    · obtain ⟨x', hx', hxz⟩ := hcovered z (List.mem_append_left _ hz)
      exact ⟨x', List.mem_cons_of_mem x hx', hxz⟩
    · rcases List.mem_cons.mp hz with rfl | hz
      · exact ⟨x, List.mem_cons_self, hxy⟩
      · obtain ⟨x', hx', hxz⟩ := hcovered z (List.mem_append_right _ hz)
        exact ⟨x', List.mem_cons_of_mem x hx', hxz⟩

theorem sameWith_of_family (hR : ∀ x y, eq x y = .ok true → R x y) {vs ws : List Value}
    {family : SequenceFamily}
    (hapart : family = .set → vs.Pairwise fun x x' => ∀ y, R x y → ¬ R x' y)
    (h : family.equalWith eq vs ws = .ok true) : family.SameWith R vs ws := by
  have hagrees := SequenceFamily.agrees_of_true h
  cases family with
  | set =>
    obtain ⟨hlength, hwithin⟩ := hagrees
    have hsame : ∀ x ∈ vs, ∃ y ∈ ws, R x y := by
      intro x hx
      obtain ⟨y, hy, hxy⟩ := hwithin x hx
      exact ⟨y, hy, hR x y hxy⟩
    exact ⟨hlength, hsame, covered_of_within hlength hsame (hapart rfl)⟩
  | tuple | list | deque => exact List.Forall₂.imp hR hagrees

theorem family_ne_false (hR : ∀ x y, R x y → eq x y ≠ .ok false) {vs ws : List Value}
    {family : SequenceFamily} (h : family.SameWith R vs ws) :
    family.equalWith eq vs ws ≠ .ok false := by
  cases family with
  | set =>
    obtain ⟨hlength, hwithin, -⟩ := h
    rw [SequenceFamily.equalWith, if_pos hlength]
    refine itemsWithin_ne_false fun x hx => ?_
    obtain ⟨y, hy, hxy⟩ := hwithin x hx
    exact ⟨y, hy, hR x y hxy⟩
  | tuple => exact equalItems_ne_false (List.Forall₂.imp hR h)
  | list | deque =>
    have hitems : List.Forall₂ (fun x y => eq x y ≠ .ok false) vs ws := List.Forall₂.imp hR h
    rw [SequenceFamily.equalWith, if_pos hitems.length_eq]
    · exact equalItems_ne_false hitems
    all_goals simp

/-! ### Entries -/

theorem sameEntries_of_equalEntries (hR : ∀ x y, eq x y = .ok true → R x y)
    (hsymm : ∀ x y, R x y → R y x) {inOrder : Bool} {as bs : List (Value × Value)}
    (hapart : as.Pairwise fun e e' => ∀ y, R e.1 y → ¬ R e'.1 y)
    (h : equalEntries eq inOrder as bs = .ok true) : SameEntries R inOrder as bs := by
  obtain ⟨hlength, hwithin, hkeys⟩ := EntriesAgree.of_true h
  have hsame : ∀ e ∈ as, ∃ d ∈ bs, R e.1 d.1 ∧ R e.2 d.2 := by
    intro e he
    obtain ⟨d, hd, hkey, hvalue⟩ := hwithin e he
    exact ⟨d, hd, hsymm _ _ (hR _ _ hkey), hR _ _ hvalue⟩
  have hcovered := covered_of_within (S := fun e d => R e.1 d.1 ∧ R e.2 d.2) hlength hsame
    (hapart.imp fun h d hed hed' => h d.1 hed.1 hed'.1)
  exact ⟨hlength, hsame, hcovered, fun hin => (hkeys hin).imp hR⟩

theorem equalEntries_ne_false (htrue : ∀ x y, eq x y = .ok true → R x y)
    (hfalse : ∀ x y, R x y → eq x y ≠ .ok false) (hsymm : ∀ x y, R x y → R y x) {inOrder : Bool}
    {as bs : List (Value × Value)}
    (hunique : ∀ e ∈ as, ∀ d ∈ bs, ∀ d' ∈ bs, R e.1 d.1 → R e.1 d'.1 → d = d')
    (h : SameEntries R inOrder as bs) : equalEntries eq inOrder as bs ≠ .ok false := by
  rw [equalEntries, if_neg (not_not.mpr h.length)]
  have hwithin : entriesWithin eq bs as ≠ .ok false := by
    refine entriesWithin_ne_false (fun e he hnone => ?_) fun e he w hsome => ?_
    · obtain ⟨d, hd, hkey, -⟩ := h.within e he
      exact hfalse _ _ (hsymm _ _ hkey) (lookupEntry_none hnone d hd)
    · -- the entry that the key leads to is the one that is the same
      obtain ⟨d, hd, hkey, rfl⟩ := lookupEntry_some hsome
      obtain ⟨d', hd', hkey', hvalue'⟩ := h.within e he
      have heq := hunique e he d hd d' hd' (hsymm _ _ (htrue _ _ hkey)) hkey'
      rw [heq]
      exact hfalse _ _ hvalue'
  refine ite_ne_false hwithin ?_
  split
  · rename_i hin
    exact equalItems_ne_false ((h.order hin).imp hfalse)
  · exact fun hf => by cases hf

namespace Heap

variable {h : Heap} {n : Nat}

/-! ### Keys and members apart -/

/-- What is the same as one of two values that differ is not the same as the other, if that is
hashable. -/
theorem IsSound.apart (hsound : h.IsSound) {x x' y : Value} (hx' : h.IsHashable x')
    (hne : ∀ n, ¬ h.SameAt n x x') (hxy : h.SameAt n x y) : ¬ h.SameAt n x' y := by
  intro hxy'
  have horders := ordersAlike_of_sameAt hxy'.symm hx'
  exact hne n (sameAt_isTransitive hsound n x y x' hxy hxy'.symm horders)

theorem IsSound.keys_apart (hsound : h.IsSound) {a : Address} {k : DictKind}
    {es : List (Value × Value)} (ha : h.cell a = .dict k es) :
    es.Pairwise fun e e' => ∀ y, h.SameAt n e.1 y → ¬ h.SameAt n e'.1 y :=
  (hsound.keys ha).imp_of_mem fun _ he' hne _ hy => hsound.apart (hsound.key ha he') hne hy

theorem IsSound.members_apart (hsound : h.IsSound) {a : Address} {k : SequenceKind}
    {items : List Value} (ha : h.cell a = .sequence k items) (hk : k.family = .set) :
    items.Pairwise fun x x' => ∀ y, h.SameAt n x y → ¬ h.SameAt n x' y :=
  (hsound.members ha hk).imp_of_mem fun _ hx' hne _ hy => hsound.apart (hsound.member ha hk hx') hne hy

theorem IsSound.unique (hsound : h.IsSound) {a : Address} {k : DictKind}
    {es : List (Value × Value)} (ha : h.cell a = .dict k es) {y : Value} {d d' : Value × Value}
    (hd : d ∈ es) (hd' : d' ∈ es) (hy : h.SameAt n d.1 y) (hy' : h.SameAt n d'.1 y) : d = d' := by
  by_contra hne
  have : Std.Symm fun x y : Value × Value => ∀ n, ¬ h.SameAt n x.1 y.1 :=
    ⟨fun _ _ hxy n hyx => hxy n hyx.symm⟩
  exact hsound.apart (hsound.key ha hd') ((hsound.keys ha).forall hd hd' hne) hy hy'

/-! ### Objects -/

section Objects

variable {eq : Value → Value → Except Fault Bool} {a b : Address} {x y : Cell}

theorem sameWith_of_equalWith (hsound : h.IsSound)
    (heq : ∀ x y, eq x y = .ok true → h.SameAt n x y) (ha : h.cell a = x) (hb : h.cell b = y)
    (hxy : x.equalWith eq y = .ok true) :
    x.SameWith (h.SameAt n) y ∨ ∃ s, x = .byteArray s ∧ y = .byteArray s := by
  cases x with
  | sequence j vs =>
    cases y with
    | sequence k ws =>
      rw [Cell.equalWith] at hxy
      split at hxy
      · cases hxy
      · rename_i hfamily
        have hfamily := not_not.mp hfamily
        refine .inl (.sequence hfamily ?_)
        split at hxy
        · refine (sameWith_of_family heq (fun hset => ?_) hxy).symm fun _ _ => SameAt.symm
          exact hsound.members_apart hb (hfamily ▸ hset)
        · refine sameWith_of_family heq (fun hset => ?_) hxy
          exact hsound.members_apart ha hset
    | _ => cases hxy
  | dict j as =>
    cases y with
    | dict k bs =>
      rw [Cell.equalWith] at hxy
      refine .inl (.dict ?_)
      have hsymm : ∀ x y, h.SameAt n x y → h.SameAt n y x := fun _ _ => SameAt.symm
      split at hxy
      · exact (sameEntries_of_equalEntries heq hsymm (hsound.keys_apart hb) hxy).symm hsymm
      · exact sameEntries_of_equalEntries heq hsymm (hsound.keys_apart ha) hxy
    | _ => cases hxy
  | byteArray s =>
    cases y with
    | byteArray t =>
      have hst : s = t := by simpa [Cell.equalWith] using hxy
      exact .inr ⟨s, rfl, by rw [hst]⟩
    | _ => cases hxy
  | pattern p parts =>
    cases y with
    | pattern q parts' => exact .inl (.pattern (Pattern.alike_of_equalWith heq hxy))
    | _ => cases hxy
  | _ => cases y <;> cases hxy

theorem equalWith_ne_false (hsound : h.IsSound)
    (htrue : ∀ x y, eq x y = .ok true → h.SameAt n x y)
    (hfalse : ∀ x y, h.SameAt n x y → eq x y ≠ .ok false) (ha : h.cell a = x) (hb : h.cell b = y)
    (hxy : x.SameWith (h.SameAt n) y) : x.equalWith eq y ≠ .ok false := by
  have hsymm : ∀ x y, h.SameAt n x y → h.SameAt n y x := fun _ _ => SameAt.symm
  cases hxy with
  | @sequence j k vs ws hfamily hitems =>
    rw [Cell.equalWith, if_neg (not_not.mpr hfamily)]
    split
    · exact family_ne_false hfalse (hitems.symm hsymm)
    · exact family_ne_false hfalse hitems
  | @dict j k as bs hentries =>
    rw [Cell.equalWith]
    split
    · refine equalEntries_ne_false htrue hfalse hsymm (fun e _ d hd d' hd' hed hed' => ?_)
        (hentries.symm hsymm)
      exact hsound.unique ha hd hd' hed.symm hed'.symm
    · refine equalEntries_ne_false htrue hfalse hsymm (fun e _ d hd d' hd' hed hed' => ?_) hentries
      exact hsound.unique hb hd hd' hed.symm hed'.symm
  | pattern hpq => exact hpq.equalWith_ne_false hfalse

end Objects

/-! ### Values -/

theorem sameAt_of_partAt {m : Nat} (heq : ∀ v w, h.equalAt n v w = .ok true → h.LikeAt m v w)
    {x y : Value} (hxy : h.partAt n x y = .ok true) : h.SameAt m x y := by
  rw [partAt] at hxy
  split at hxy
  · exact .inl ‹_›
  · exact .inr (heq x y hxy)

theorem partAt_ne_false {m : Nat} (heq : ∀ v w, h.LikeAt m v w → h.equalAt n v w ≠ .ok false)
    {x y : Value} (hxy : h.SameAt m x y) : h.partAt n x y ≠ .ok false := by
  rw [partAt]
  split
  · simp
  · rename_i hne
    rcases hxy with hxy | hxy
    · exact absurd hxy hne
    · exact heq x y hxy

/-- Values that are not both objects are compared by their bytes or in themselves. -/
theorem equalAt_of_not_refs {v w : Value} (hrefs : ∀ a b, v = .ref a → w ≠ .ref b) :
    h.equalAt (n + 1) v w = match h.byteContent? v, h.byteContent? w with
      | some s, some t => .ok (s = t)
      | _, _ => if v.refusesComparison w then .error .incomparable else .ok (v.equalSimple w) := by
  cases v with
  | ref a =>
    cases w with
    | ref b => exact absurd rfl (hrefs a b rfl)
    | _ => rfl
  | _ => rfl

theorem sameStep_of_not_refs {R : Value → Value → Prop} {v w : Value}
    (hrefs : ∀ a b, v = .ref a → w ≠ .ref b) (hvw : h.equalAt (n + 1) v w = .ok true) :
    h.SameStep R v w := by
  rw [equalAt_of_not_refs hrefs] at hvw
  split at hvw
  · rename_i s t hs ht
    have hst : s = t := by simpa using hvw
    exact .bytes hs (hst ▸ ht)
  · split at hvw
    · cases hvw
    · have hequal : v.equalSimple w = true := Except.ok.inj hvw
      refine .simple (fun a ha => ?_) (fun b hb => ?_) hequal
      · subst ha
        rw [Value.equalSimple_ref_left, decide_eq_true_eq] at hequal
        exact hrefs a a rfl hequal.symm
      · subst hb
        rw [Value.equalSimple_ref_right, decide_eq_true_eq] at hequal
        exact hrefs b b hequal rfl

theorem byteContent?_ref {a : Address} {s : List UInt8} (ha : h.byteContent? (.ref a) = some s) :
    h.cell a = .byteArray s := by
  rw [byteContent?] at ha
  split at ha
  · rename_i hcell
    cases ha
    exact hcell
  · cases ha

theorem likeAt_of_equalAt (hsound : h.IsSound) {v w : Value} (hvw : h.equalAt n v w = .ok true) :
    h.LikeAt n v w := by
  induction n generalizing v w with
  | zero => cases hvw
  | succ n ih =>
    rw [likeAt_succ]
    by_cases hrefs : ∃ a b, v = .ref a ∧ w = .ref b
    · obtain ⟨a, b, rfl, rfl⟩ := hrefs
      rw [equalAt_ref] at hvw
      split at hvw
      · rename_i hab
        rw [hab]
        exact .object b
      · have hparts : ∀ x y, h.partAt n x y = .ok true → h.SameAt n x y := fun _ _ =>
          sameAt_of_partAt fun _ _ => ih
        rcases sameWith_of_equalWith hsound hparts rfl rfl hvw with hab | ⟨s, ha, hb⟩
        · exact .parts hab
        · exact .bytes (s := s) (by simp only [byteContent?, ha]) (by simp only [byteContent?, hb])
    · exact sameStep_of_not_refs (fun a b ha hb => hrefs ⟨a, b, ha, hb⟩) hvw

/-- Values that are the same are not found to differ, neither at their depth nor at a smaller one. -/
theorem equalAt_ne_false (hsound : h.IsSound) {m : Nat} (hnm : n ≤ m) {v w : Value}
    (hvw : h.LikeAt m v w) : h.equalAt n v w ≠ .ok false := by
  induction n generalizing v w m with
  | zero => exact fun hf => by cases hf
  | succ n ih =>
    obtain ⟨m, rfl⟩ := Nat.exists_eq_succ_of_ne_zero (Nat.ne_zero_of_lt hnm)
    have hnm := Nat.le_of_succ_le_succ hnm
    have hparts : ∀ x y, h.SameAt m x y → h.partAt n x y ≠ .ok false := fun _ _ =>
      partAt_ne_false fun _ _ => ih hnm
    rw [likeAt_succ] at hvw
    cases hvw with
    | object a =>
      rw [equalAt_ref, if_pos rfl]
      simp
    | @parts a b hab =>
      rw [equalAt_ref]
      split
      · simp
      · have htrue : ∀ x y, h.partAt n x y = .ok true → h.SameAt m x y := fun _ _ =>
          sameAt_of_partAt fun _ _ hxy => (likeAt_of_equalAt hsound hxy).mono hnm
        exact equalWith_ne_false hsound htrue hparts rfl rfl hab
    | @bytes v w s hv hw =>
      by_cases hrefs : ∃ a b, v = .ref a ∧ w = .ref b
      · obtain ⟨a, b, rfl, rfl⟩ := hrefs
        rw [equalAt_ref, byteContent?_ref hv, byteContent?_ref hw, Cell.equalWith]
        split
        · simp
        · simp
      · rw [equalAt_of_not_refs fun a b ha hb => hrefs ⟨a, b, ha, hb⟩, hv, hw]
        simp
    | simple hv hw hvw =>
      rw [equalAt_of_not_refs fun a b ha _ => absurd ha (hv a)]
      split
      · rename_i s t hs ht
        cases hs.symm.trans (byteContent?_of_equalSimple hw ht (Value.equalSimple_symm hvw))
        simp
      · split
        · simp
        · simp [hvw]

end Heap

end Conformance
