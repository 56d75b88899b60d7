import Conformance.Heap.Construction
import Conformance.Proofs.Comparison
import Conformance.Proofs.NormalForm

/-!
# Sound heaps

No dictionary has a key twice and no set a member, since both are filled by comparisons. What a key
is made of does not change later, for it is hashable, and objects that can be changed are not. New
objects change nothing either: an object is made of values that are there before it.
-/

namespace Conformance

/-- The keys of a dictionary, or the members of a set. -/
def Cell.keys : Cell → List Value
  | .sequence k items => if k.family = .set then items else []
  | .dict _ es => es.map (·.1)
  | _ => []

theorem Cell.part_of_mem_keys {c : Cell} {x : Value} (hx : x ∈ c.keys) : c.Part x := by
  cases c with
  | sequence k items =>
    rw [keys] at hx
    split at hx
    · exact .item hx
    · exact absurd hx List.not_mem_nil
  | dict k es =>
    obtain ⟨e, he, rfl⟩ := List.mem_map.mp hx
    exact .key he
  | _ => exact absurd hx List.not_mem_nil

namespace Heap

variable {h h' : Heap} {S : Value → Prop} {a : Address} {v w x y : Value} {xs ys : List Value}

/-! ### What a change does not reach -/

/-- The second heap has the objects among the values in `S`, and all that they are made of, as they
are in the first. -/
structure Keeps (h h' : Heap) (S : Value → Prop) : Prop where
  cell_eq {a : Address} (ha : S (.ref a)) : h'.cell a = h.cell a
  part {a : Address} {x : Value} (ha : S (.ref a)) (hx : (h.cell a).Part x) : S x

namespace Keeps

theorem byteContent?_eq (hk : h.Keeps h' S) (hv : S v) : h'.byteContent? v = h.byteContent? v := by
  cases v with
  | ref a => rw [byteContent?, byteContent?, hk.cell_eq hv]
  | _ => rfl

theorem likeAt (hk : h.Keeps h' S) {n : Nat} (hv : S v) (hw : S w) (hvw : h'.LikeAt n v w) :
    h.LikeAt n v w := by
  induction n generalizing v w with
  | zero => exact hvw
  | succ n ih =>
    rw [likeAt_succ] at hvw ⊢
    cases hvw with
    | object a => exact .object a
    | parts hab =>
      rw [hk.cell_eq hv, hk.cell_eq hw] at hab
      exact .parts (hab.imp fun x y hx hy hxy => hxy.imp id (ih (hk.part hv hx) (hk.part hw hy)))
    | bytes hs ht =>
      rw [hk.byteContent?_eq hv] at hs
      rw [hk.byteContent?_eq hw] at ht
      exact .bytes hs ht
    | simple hv hw hvw => exact .simple hv hw hvw

theorem sameAt (hk : h.Keeps h' S) {n : Nat} (hv : S v) (hw : S w) (hvw : h'.SameAt n v w) :
    h.SameAt n v w := hvw.imp id (hk.likeAt hv hw)

theorem checkHashableAt_ok (hk : h.Keeps h' S) {n : Nat} (hv : S v)
    (hn : h.checkHashableAt n v = .ok ()) : h'.checkHashableAt n v = .ok () := by
  induction n generalizing v with
  | zero => cases hn
  | succ n ih =>
    cases v with
    | ref a =>
      have hpart : ∀ x, (h.cell a).Part x → h.checkHashableAt n x = .ok () →
          h'.checkHashableAt n x = .ok () := fun x hx => ih (hk.part hv hx)
      rw [checkHashableAt.eq_def] at hn ⊢
      simp only [hk.cell_eq hv] at hn ⊢
      generalize h.cell a = c at hn hpart
      cases c with
      | sequence k items =>
        cases k with
        | tuple | point =>
          exact forM_ok_iff.mpr fun x hx => hpart x (.item hx) (forM_ok_iff.mp hn x hx)
        | frozenset => rfl
        | _ => cases hn
      | pattern p parts =>
        have hoperands := Pattern.checkOperands_ok_iff_forall.mp hn
        exact Pattern.checkOperands_ok_iff_forall.mpr fun q x hq hx =>
          hpart x (.operand hq hx) (hoperands q x hq hx)
      | inst c => cases c <;> first | rfl | cases hn
      | predicate g => rfl
      | dict k es | byteArray s => cases hn
    | decimal d => exact hn
    | _ => rfl

theorem isHashable (hk : h.Keeps h' S) (hv : S v) (hhash : h.IsHashable v) : h'.IsHashable v := by
  obtain ⟨n, hn⟩ := hhash
  exact ⟨n, hk.checkHashableAt_ok hv hn⟩

end Keeps

/-! ### Distinct values -/

/-- The values are hashable, and no two of them are the same. -/
structure Distinct (h : Heap) (xs : List Value) : Prop where
  hashable : ∀ x ∈ xs, h.IsHashable x
  apart : xs.Pairwise fun x y => ∀ n, ¬ h.SameAt n x y

namespace Distinct

theorem nil : h.Distinct [] where
  hashable := List.forall_mem_nil _
  apart := .nil

theorem concat (hxs : h.Distinct xs) (hy : h.IsHashable y)
    (hfresh : ∀ x ∈ xs, ∀ n, ¬ h.SameAt n x y) : h.Distinct (xs ++ [y]) where
  hashable := by simpa [or_imp, forall_and] using ⟨hxs.hashable, hy⟩
  apart := List.pairwise_append.mpr
    ⟨hxs.apart, List.pairwise_singleton _ _, fun x hx _ hy => List.mem_singleton.mp hy ▸ hfresh x hx⟩

theorem sublist (hys : h.Distinct ys) (hxs : xs.Sublist ys) : h.Distinct xs where
  hashable x hx := hys.hashable x (hxs.subset hx)
  apart := hys.apart.sublist hxs

theorem perm (hxs : h.Distinct xs) (hperm : xs.Perm ys) : h.Distinct ys where
  hashable y hy := hxs.hashable y (hperm.mem_iff.mpr hy)
  apart := hperm.pairwise hxs.apart fun hxy n hyx => hxy n hyx.symm

theorem keeps (hxs : h.Distinct xs) (hk : h.Keeps h' S) (hS : ∀ x ∈ xs, S x) : h'.Distinct xs where
  hashable x hx := hk.isHashable (hS x hx) (hxs.hashable x hx)
  apart := hxs.apart.imp_of_mem fun hx hy hne n hxy => hne n (hk.sameAt (hS _ hx) (hS _ hy) hxy)

end Distinct

theorem isSound_iff : h.IsSound ↔ ∀ a, h.Distinct (h.cell a).keys := by
  refine ⟨fun hsound a => ?_, fun hkeys => ⟨?_, ?_, ?_, ?_⟩⟩
  · cases ha : h.cell a with
    | sequence k items =>
      rw [Cell.keys]
      split
      · rename_i hk
        exact ⟨fun _ => hsound.member ha hk, hsound.members ha hk⟩
      · exact .nil
    | dict k es =>
      exact ⟨List.forall_mem_map.mpr fun _ => hsound.key ha, List.pairwise_map.mpr (hsound.keys ha)⟩
    | _ => exact .nil
  · intro a k es ha e he
    have hdistinct := hkeys a
    rw [ha] at hdistinct
    exact hdistinct.hashable e.1 (List.mem_map_of_mem he)
  · intro a k es ha
    have hdistinct := hkeys a
    rw [ha] at hdistinct
    exact List.pairwise_map.mp hdistinct.apart
  · intro a k items ha hk x hx
    have hdistinct := hkeys a
    rw [ha, Cell.keys, if_pos hk] at hdistinct
    exact hdistinct.hashable x hx
  · intro a k items ha hk
    have hdistinct := hkeys a
    rw [ha, Cell.keys, if_pos hk] at hdistinct
    exact hdistinct.apart

theorem IsSound.distinct (hsound : h.IsSound) {c : Cell} (ha : h.cell a = c) :
    h.Distinct c.keys := ha ▸ isSound_iff.mp hsound a

theorem IsSound.distinct_of_plainEntries? (hsound : h.IsSound) {es : List (Value × Value)}
    (hv : h.plainEntries? v = some es) : h.Distinct (es.map (·.1)) := by
  cases v with
  | ref a =>
    rw [plainEntries?] at hv
    split at hv
    · rename_i ha
      cases hv
      exact hsound.distinct ha
    · cases hv
  | _ => cases hv

/-! ### Filling dictionaries and sets -/

theorem IsSound.not_sameAt (hsound : h.IsSound) (hxy : h.equalPart x y = .ok false) (n : Nat) :
    ¬ h.SameAt n x y := by
  rw [equalPart] at hxy
  split at hxy
  · cases hxy
  · rename_i hne
    rintro (heq | hlike)
    · exact hne heq
    · exact equalAt_ne_false hsound (Nat.le_max_left nestingLimit n)
        (hlike.mono (Nat.le_max_right nestingLimit n)) hxy

theorem IsSound.insertKey_distinct (hsound : h.IsSound) {es held : List (Value × Value)}
    {key value : Value} (hes : h.Distinct (es.map (·.1)))
    (hheld : h.insertKey es key value = .ok held) : h.Distinct (held.map (·.1)) := by
  obtain ⟨_, hhash, hinsert⟩ := bind_eq_ok_iff.mp hheld
  rcases insertEntry_keys hinsert with hkeys | ⟨hkeys, hfresh⟩
  · rwa [hkeys]
  · rw [hkeys]
    exact hes.concat ⟨_, hhash⟩ (List.forall_mem_map.mpr fun e he => hsound.not_sameAt (hfresh e he))

theorem IsSound.collectEntries_distinct (hsound : h.IsSound) {pairs es : List (Value × Value)}
    (hes : h.collectEntries pairs = .ok es) : h.Distinct (es.map (·.1)) := by
  refine foldlM_ok_induction (motive := fun held => h.Distinct (held.map (·.1))) ?_ ?_ hes
  · exact fun _ hheld _ _ _ hmore => hsound.insertKey_distinct hheld hmore
  · exact .nil

theorem anyM_false {f : Value → Except Fault Bool} (hxs : xs.anyM f = .ok false) :
    ∀ x ∈ xs, f x = .ok false := by
  intro x hx
  by_contra hne
  exact anyM_ne_false ⟨x, hx, hne⟩ hxs

theorem IsSound.collectItems_distinct (hsound : h.IsSound) {items : List Value}
    (hitems : h.collectItems items = .ok xs) : h.Distinct xs := by
  refine foldlM_ok_induction (motive := h.Distinct) ?_ ?_ hitems
  · intro present hpresent x _ more hmore
    obtain ⟨_, hhash, hmore⟩ := bind_eq_ok_iff.mp hmore
    obtain ⟨found, hfound, hmore⟩ := bind_eq_ok_iff.mp hmore
    cases found with
    | true =>
      cases hmore
      exact hpresent
    | false =>
      cases hmore
      refine hpresent.concat ⟨_, hhash⟩ fun y hy n hyx => ?_
      exact hsound.not_sameAt (anyM_false hfound y hy) n hyx.symm
  · exact .nil

theorem IsSound.makeSet_distinct (hsound : h.IsSound) {k : SequenceKind} {items : List Value}
    {c : Cell} (hc : h.makeSet k items = .ok c) : h.Distinct c.keys := by
  obtain ⟨xs, hxs, hc⟩ := bind_eq_ok_iff.mp hc
  cases hc
  rw [Cell.keys]
  split
  · exact (hsound.collectItems_distinct hxs).perm (Placement.arrange_perm xs).symm
  · exact .nil

/-! ### Objects that are there -/

def knows (h : Heap) : Value → Bool
  | .ref a => a < h.cells.size
  | _ => true

/-- All objects are made of values that the heap knows. -/
def IsClosed (h : Heap) : Prop := ∀ a x, (h.cell a).Part x → h.knows x = true

theorem IsClosed.part (hclosed : h.IsClosed) {c : Cell} (ha : h.cell a = c) (hx : c.Part x) :
    h.knows x = true := hclosed a x (ha ▸ hx)

theorem knows_alloc {c : Cell} (hv : h.knows v = true) : (h.alloc c).1.knows v = true := by
  cases v with
  | ref a =>
    rw [knows, decide_eq_true_eq] at hv ⊢
    rw [alloc, Array.size_push]
    exact Nat.lt_succ_of_lt hv
  | _ => rfl

theorem knows_update (a : Address) (c : Cell) (v : Value) :
    (h.update a c).knows v = h.knows v := by
  cases v with
  | ref b => rw [knows, knows, update, Array.size_setIfInBounds]
  | _ => rfl

/-- A new object is no part of the others. -/
theorem IsClosed.keeps_alloc (hclosed : h.IsClosed) (c : Cell) :
    h.Keeps (h.alloc c).1 fun v => h.knows v = true where
  cell_eq ha := cell_alloc_of_lt (of_decide_eq_true ha)
  part _ hx := hclosed _ _ hx

theorem IsClosed.alloc (hclosed : h.IsClosed) {c : Cell}
    (hparts : ∀ x, c.Part x → h.knows x = true) : (h.alloc c).1.IsClosed := by
  refine forall_cell_alloc (motive := fun d => ∀ x, d.Part x → (h.alloc c).1.knows x = true) ?_ ?_
  · exact fun a x hx => knows_alloc (hclosed a x hx)
  · exact fun x hx => knows_alloc (hparts x hx)

theorem IsSound.alloc (hsound : h.IsSound) (hclosed : h.IsClosed) {c : Cell}
    (hparts : ∀ x, c.Part x → h.knows x = true) (hc : h.Distinct c.keys) :
    (h.alloc c).1.IsSound := by
  have hkeeps := hclosed.keeps_alloc c
  have hcells : ∀ a, (h.alloc c).1.Distinct (h.cell a).keys := fun a =>
    (isSound_iff.mp hsound a).keeps hkeeps fun x hx => hclosed a x (Cell.part_of_mem_keys hx)
  have hnew : (h.alloc c).1.Distinct c.keys :=
    hc.keeps hkeeps fun x hx => hparts x (Cell.part_of_mem_keys hx)
  exact isSound_iff.mpr
    (forall_cell_alloc (motive := fun d => (h.alloc c).1.Distinct d.keys) hcells hnew)

/-! ### Objects that change -/

theorem IsSound.part (hsound : h.IsSound) (hv : h.IsHashable (.ref a)) (hx : (h.cell a).Part x) :
    h.IsHashable x := by
  generalize ha : h.cell a = c at hx
  cases hx with
  | @item k items _ hx =>
    by_cases hk : k.family = .set
    · exact hsound.member ha hk hx
    · exact hv.item ha hk hx
  | key he | value he => exact absurd ha hv.not_dict
  | operand hq hx => exact hv.operand ha hq hx

/-- An object that is not hashable is no part of one that is. -/
theorem IsSound.keeps_update (hsound : h.IsSound) (ha : ¬ h.IsHashable (.ref a)) (c : Cell) :
    h.Keeps (h.update a c) h.IsHashable where
  cell_eq hb := cell_update_of_ne fun hba => ha (hba ▸ hb)
  part hb hx := hsound.part hb hx

theorem IsSound.update (hsound : h.IsSound) (ha : ¬ h.IsHashable (.ref a)) {c : Cell}
    (hc : h.Distinct c.keys) : (h.update a c).IsSound := by
  have hkeeps := hsound.keeps_update ha c
  have hcells : ∀ b, (h.update a c).Distinct (h.cell b).keys := fun b =>
    (isSound_iff.mp hsound b).keeps hkeeps (isSound_iff.mp hsound b).hashable
  have hnew : (h.update a c).Distinct c.keys := hc.keeps hkeeps hc.hashable
  exact isSound_iff.mpr
    (forall_cell_update (motive := fun d => (h.update a c).Distinct d.keys) hcells a hnew)

theorem IsHashable.not_row {k : SequenceKind} {r : Row} {items : List Value}
    (ha : h.cell a = .sequence k items) (hk : Row.ofKind? k = some r) : ¬ h.IsHashable (.ref a) := by
  rintro ⟨n, hn⟩
  cases n with
  | zero => cases hn
  | succ n =>
    cases k with
    | tuple | point | set | frozenset => cases hk
    | _ => simp [checkHashableAt, ha] at hn

theorem IsHashable.not_byteArray {content : List UInt8} (ha : h.cell a = .byteArray content) :
    ¬ h.IsHashable (.ref a) := by
  rintro ⟨n, hn⟩
  cases n with
  | zero => cases hn
  | succ n => simp [checkHashableAt, ha] at hn

theorem family_ne_set_of_row {k : SequenceKind} {r : Row} (hk : Row.ofKind? k = some r) :
    k.family ≠ .set := by
  cases k with
  | set | frozenset => cases hk
  | _ => simp [SequenceKind.family]

theorem IsSound.change (hsound : h.IsSound) {given : List Value} (hchange : h.Change given h') :
    h'.IsSound := by
  cases hchange with
  | insert ha _ _ hheld =>
    have hkeys := hsound.insertKey_distinct (hsound.distinct ha) hheld
    exact hsound.update (fun hv => hv.not_dict ha) hkeys
  | erase ha hrest =>
    have hkeys := (hsound.distinct ha).sublist (hrest.map _)
    exact hsound.update (fun hv => hv.not_dict ha) hkeys
  | items ha hk =>
    refine hsound.update (IsHashable.not_row ha hk) ?_
    rw [Cell.keys, if_neg (family_ne_set_of_row hk)]
    exact .nil
  | bytes ha => exact hsound.update (IsHashable.not_byteArray ha) .nil

theorem insertEntry_subset {eq : Value → Value → Except Fault Bool} {key value : Value}
    {es held : List (Value × Value)} (hheld : insertEntry eq key value es = .ok held)
    {e : Value × Value} (he : e ∈ held) : e = (key, value) ∨ e ∈ es ∨ ∃ d ∈ es, e = (d.1, value) := by
  induction es generalizing held with
  | nil =>
    cases hheld
    exact .inl (List.mem_singleton.mp he)
  | cons d rest ih =>
    obtain ⟨k, v⟩ := d
    obtain ⟨same, -, hheld⟩ := bind_eq_ok_iff.mp hheld
    cases same with
    | true =>
      cases hheld
      rcases List.mem_cons.mp he with rfl | he
      · exact .inr (.inr ⟨(k, v), List.mem_cons_self, rfl⟩)
      · exact .inr (.inl (List.mem_cons_of_mem _ he))
    | false =>
      obtain ⟨more, hmore, hheld⟩ := bind_eq_ok_iff.mp hheld
      cases hheld
      rcases List.mem_cons.mp he with rfl | he
      · exact .inr (.inl List.mem_cons_self)
      · rcases ih hmore he with rfl | he | ⟨d, hd, rfl⟩
        · exact .inl rfl
        · exact .inr (.inl (List.mem_cons_of_mem _ he))
        · exact .inr (.inr ⟨d, List.mem_cons_of_mem _ hd, rfl⟩)

def KnowsEntries (h : Heap) (es : List (Value × Value)) : Prop :=
  ∀ e ∈ es, h.knows e.1 = true ∧ h.knows e.2 = true

theorem KnowsEntries.part {k : DictKind} {es : List (Value × Value)} (hes : h.KnowsEntries es)
    (hx : (Cell.dict k es).Part x) : h.knows x = true := by
  cases hx with
  | key he => exact (hes _ he).1
  | value he => exact (hes _ he).2

theorem KnowsEntries.insertKey {es held : List (Value × Value)} {key value : Value}
    (hes : h.KnowsEntries es) (hkey : h.knows key = true) (hvalue : h.knows value = true)
    (hheld : h.insertKey es key value = .ok held) : h.KnowsEntries held := by
  obtain ⟨_, -, hinsert⟩ := bind_eq_ok_iff.mp hheld
  intro e he
  rcases insertEntry_subset hinsert he with rfl | he | ⟨d, hd, rfl⟩
  · exact ⟨hkey, hvalue⟩
  · exact hes e he
  · exact ⟨(hes d hd).1, hvalue⟩

theorem IsClosed.update (hclosed : h.IsClosed) {c : Cell}
    (hparts : ∀ x, c.Part x → h.knows x = true) : (h.update a c).IsClosed := by
  intro b x hx
  rw [knows_update]
  exact forall_cell_update (motive := fun d => ∀ x, d.Part x → h.knows x = true) hclosed a hparts b x hx

theorem IsClosed.change (hclosed : h.IsClosed) {given : List Value}
    (hgiven : ∀ x ∈ given, h.knows x = true) (hchange : h.Change given h') : h'.IsClosed := by
  have hentries : ∀ {a k es}, h.cell a = .dict k es → h.KnowsEntries es := fun ha _ he =>
    ⟨hclosed.part ha (.key he), hclosed.part ha (.value he)⟩
  cases hchange with
  | insert ha hkey hvalue hheld =>
    have hheld := (hentries ha).insertKey (hgiven _ hkey) (hgiven _ hvalue) hheld
    exact hclosed.update fun x hx => hheld.part hx
  | erase ha hrest =>
    have hrest : h.KnowsEntries _ := fun e he => hentries ha e (hrest.subset he)
    exact hclosed.update fun x hx => hrest.part hx
  | items ha _ hys =>
    refine hclosed.update fun x hx => ?_
    cases hx with
    | item hx =>
      rcases hys _ hx with hold | hnew
      · exact hclosed.part ha (.item hold)
      · exact hgiven _ hnew
  | bytes => exact hclosed.update fun x hx => by cases hx

/-! ### Heaps that come about -/

/-- A heap that comes about when objects are made of values that are there and changed. Other than
in a built heap, sets are filled member by member, and nothing points to where no object is. -/
inductive Filled : Heap → Prop where
  | empty : Filled empty
  | dict {h : Heap} {es : List (Value × Value)} (hh : Filled h) (k : DictKind)
    (pairs : List (Value × Value)) (hpairs : ∀ e ∈ pairs, h.knows e.1 = true ∧ h.knows e.2 = true)
    (hes : h.collectEntries pairs = .ok es) : Filled (h.alloc (.dict k es)).1
  | set {h : Heap} {c : Cell} (hh : Filled h) (k : SequenceKind) (items : List Value)
    (hitems : ∀ x ∈ items, h.knows x = true) (hc : h.makeSet k items = .ok c) : Filled (h.alloc c).1
  | sequence {h : Heap} (hh : Filled h) (k : SequenceKind) (items : List Value)
    (hk : k.family ≠ .set) (hitems : ∀ x ∈ items, h.knows x = true) :
    Filled (h.alloc (.sequence k items)).1
  | pattern {h : Heap} (hh : Filled h) (p : Pattern) (parts : List Provenance)
    (hp : p.Every fun q => q.operand?.all h.knows) : Filled (h.alloc (.pattern p parts)).1
  | byteArray {h : Heap} (hh : Filled h) (content : List UInt8) :
    Filled (h.alloc (.byteArray content)).1
  | inst {h : Heap} (hh : Filled h) (c : Class) : Filled (h.alloc (.inst c)).1
  | predicate {h : Heap} (hh : Filled h) (g : Predicate) : Filled (h.alloc (.predicate g)).1
  | setItem {h h' : Heap} {object key value : Value} (hh : Filled h) (hkey : h.knows key = true)
    (hvalue : h.knows value = true) (hset : h.setItem object key value = .ok h') : Filled h'
  | appendItem {h h' : Heap} {object value : Value} (hh : Filled h) (hvalue : h.knows value = true)
    (happend : h.appendItem object value = .ok h') : Filled h'
  | dropItem {h h' : Heap} {object key : Value} (hh : Filled h)
    (hdrop : h.dropItem object key = .ok h') : Filled h'

theorem collectEntries_known {pairs es : List (Value × Value)} (hpairs : h.KnowsEntries pairs)
    (hes : h.collectEntries pairs = .ok es) : h.KnowsEntries es := by
  refine foldlM_ok_induction (motive := h.KnowsEntries) ?_ ?_ hes
  · exact fun _ hheld e he _ hmore => hheld.insertKey (hpairs e he).1 (hpairs e he).2 hmore
  · exact List.forall_mem_nil _

theorem makeSet_known {k : SequenceKind} {items : List Value} {c : Cell}
    (hitems : ∀ x ∈ items, h.knows x = true) (hc : h.makeSet k items = .ok c) (hx : c.Part x) :
    h.knows x = true := by
  obtain ⟨xs, hxs, hc⟩ := bind_eq_ok_iff.mp hc
  cases hc
  have hknown : ∀ x ∈ xs, h.knows x = true := by
    refine foldlM_ok_induction (motive := fun xs => ∀ x ∈ xs, h.knows x = true) ?_ ?_ hxs
    · intro present hpresent y hy more hmore
      obtain ⟨_, -, hmore⟩ := bind_eq_ok_iff.mp hmore
      obtain ⟨found, -, hmore⟩ := bind_eq_ok_iff.mp hmore
      cases found with
      | true =>
        cases hmore
        exact hpresent
      | false =>
        cases hmore
        exact List.forall_mem_append.mpr ⟨hpresent, List.forall_mem_singleton.mpr (hitems y hy)⟩
    · exact List.forall_mem_nil _
  cases hx with
  | item hx => exact hknown x ((Placement.arrange_perm xs).mem_iff.mp hx)

/-- The invariant of filling: what is there is sound, and made of what is there. -/
theorem Filled.isSound_and_isClosed (hh : Filled h) : h.IsSound ∧ h.IsClosed := by
  induction hh with
  | empty => exact ⟨isSound_iff.mpr fun _ => .nil, fun _ _ hx => by cases hx⟩
  | dict _ k _ hpairs hes ih =>
    obtain ⟨hsound, hclosed⟩ := ih
    have hparts := fun x => (collectEntries_known hpairs hes).part (k := k) (x := x)
    exact ⟨hsound.alloc hclosed hparts (hsound.collectEntries_distinct hes), hclosed.alloc hparts⟩
  | set _ k items hitems hc ih =>
    obtain ⟨hsound, hclosed⟩ := ih
    have hparts := fun x => makeSet_known (x := x) hitems hc
    exact ⟨hsound.alloc hclosed hparts (hsound.makeSet_distinct hc), hclosed.alloc hparts⟩
  | @sequence h _ k items hk hitems ih =>
    obtain ⟨hsound, hclosed⟩ := ih
    have hparts : ∀ x, (Cell.sequence k items).Part x → h.knows x = true
      | _, .item hx => hitems _ hx
    have hkeys : h.Distinct (Cell.sequence k items).keys := by
      rw [Cell.keys, if_neg hk]
      exact .nil
    exact ⟨hsound.alloc hclosed hparts hkeys, hclosed.alloc hparts⟩
  | @pattern h _ p parts hp ih =>
    obtain ⟨hsound, hclosed⟩ := ih
    have hparts : ∀ x, (Cell.pattern p parts).Part x → h.knows x = true := by
      intro x hx
      cases hx with
      | @operand _ q _ _ hq hx =>
        have hknown : q.operand?.all h.knows = true := hp q hq
        rwa [hx, Option.all_some] at hknown
    exact ⟨hsound.alloc hclosed hparts .nil, hclosed.alloc hparts⟩
  | byteArray | inst | predicate =>
    rename_i ih
    exact ⟨ih.1.alloc ih.2 (fun _ hx => by cases hx) .nil, ih.2.alloc fun _ hx => by cases hx⟩
  | setItem _ hkey hvalue hset ih =>
    have hchange := setItem_change hset
    exact ⟨ih.1.change hchange, ih.2.change (by simp [hkey, hvalue]) hchange⟩
  | appendItem _ hvalue happend ih =>
    have hchange := appendItem_change happend
    exact ⟨ih.1.change hchange, ih.2.change (by simp [hvalue]) hchange⟩
  | dropItem _ hdrop ih =>
    have hchange := dropItem_change hdrop
    exact ⟨ih.1.change hchange, ih.2.change (List.forall_mem_nil _) hchange⟩

theorem Filled.isSound (hh : Filled h) : h.IsSound := hh.isSound_and_isClosed.1

end Heap

end Conformance
