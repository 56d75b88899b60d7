import Conformance.Proofs.Relocation
import Conformance.Proofs.SoundHeap
import Mathlib.Control.Monad.Basic

/-!
# Divergence

The path of a mismatch leads to the first divergence. Its accessors are the keys of a walk through
the value, and a descent through the pattern along the same keys comes to a pattern that the part at
the end of the walk does not match. Everything that the descent passes by matches.
-/

namespace Conformance

/-! ### Walks through values -/

namespace Heap

/-- The value holds the part under the key: an array an element under its index, and a plain
dictionary a value under its key. -/
inductive Holds (h : Heap) (v : Value) : Value → Value → Prop where
  | element {i : Nat} {x : Value} (hv : h.isArrayLike v = true)
    (hx : (h.elements v).toList[i]? = some x) : Holds h v (.int i) x
  | entry {entries : List (Value × Value)} {key x : Value}
    (hv : h.plainEntries? v = some entries) (hx : (key, x) ∈ entries) : Holds h v key x

/-- To look up the keys one after the other leads from a value to a part. -/
inductive Reaches (h : Heap) : Value → List Value → Value → Prop where
  | here (v : Value) : Reaches h v [] v
  | under {v key x w : Value} {keys : List Value} (hx : h.Holds v key x) (hw : Reaches h x keys w) :
    Reaches h v (key :: keys) w

/-- The part under a key, for arrays and plain dictionaries. -/
def part? (h : Heap) (v key : Value) : Option Value :=
  match h.plainEntries? v, key with
  | some entries, _ => (entries.find? (·.1 = key)).map (·.2)
  | none, .int (.ofNat i) => if h.isArrayLike v then (h.elements v).toList[i]? else none
  | none, _ => none

def KeysDistinct (h : Heap) : Prop :=
  ∀ v entries, h.plainEntries? v = some entries → (entries.map (·.1)).Nodup

variable {h : Heap}

theorem IsSound.keysDistinct (hsound : h.IsSound) : h.KeysDistinct := fun _ _ hv =>
  (hsound.distinct_of_plainEntries? hv).apart.imp fun hne heq => hne 0 (.inl heq)

theorem Reaches.append {v u w : Value} {keys keys' : List Value} (hu : h.Reaches v keys u)
    (hw : h.Reaches u keys' w) : h.Reaches v (keys ++ keys') w := by
  induction hu with
  | here v => exact hw
  | under hx _ ih => exact .under hx (ih hw)

theorem plainEntries?_of_isArrayLike {v : Value} (hv : h.isArrayLike v = true) :
    h.plainEntries? v = none := by
  cases v with
  | ref a =>
    simp only [plainEntries?]
    split
    · rename_i entries hcell
      simp only [isArrayLike, isInstance, classes, hcell, Cell.classes] at hv
      exact absurd hv (by decide)
    · rfl
  | _ => rfl

theorem find?_key_of_mem {α β : Type} [DecidableEq α] {entries : List (α × β)}
    (hd : (entries.map (·.1)).Nodup) {key : α} {x : β} (hx : (key, x) ∈ entries) :
    entries.find? (·.1 = key) = some (key, x) := by
  induction entries with
  | nil => exact absurd hx List.not_mem_nil
  | cons e rest ih =>
    obtain ⟨hfresh, hrest⟩ := List.nodup_cons.mp hd
    rcases List.mem_cons.mp hx with rfl | hmem
    · rw [List.find?_cons_of_pos (by simp)]
    · have hne : e.1 ≠ key := by
        rintro rfl
        exact hfresh (List.mem_map.mpr ⟨(e.1, x), hmem, rfl⟩)
      rw [List.find?_cons_of_neg (by simpa using hne)]
      exact ih hrest hmem

theorem part?_of_holds (hd : h.KeysDistinct) {v key x : Value} (hx : h.Holds v key x) :
    h.part? v key = some x := by
  cases hx with
  | @element i x hv hx =>
    have hi : (Value.int i) = .int (.ofNat i) := rfl
    simp only [part?, plainEntries?_of_isArrayLike hv, hi, hv, if_true, hx]
  | entry hv hx => simp only [part?, hv, find?_key_of_mem (hd v _ hv) hx, Option.map_some]

theorem foldlM_part?_of_reaches (hd : h.KeysDistinct) {v w : Value} {keys : List Value}
    (hw : h.Reaches v keys w) : keys.foldlM h.part? v = some w := by
  induction hw with
  | here v => rfl
  | under hx _ ih =>
    rw [List.foldlM_cons, part?_of_holds hd hx]
    exact ih

end Heap

/-! ### Chains of keys -/

namespace Path

variable {h : Heap}

theorem join_concat (base path : String) (key : Value) :
    join h (concat base path) key = concat base <$> join h path key := by
  rw [join, join]
  cases keyAccessor h key with
  | error f => rfl
  | ok accessor =>
    have ha := concat_assoc base path accessor
    exact congrArg Except.ok ha

theorem foldlM_join_concat (base path : String) (keys : List Value) :
    keys.foldlM (join h) (concat base path) = concat base <$> keys.foldlM (join h) path := by
  induction keys generalizing path with
  | nil => rfl
  | cons key keys ih =>
    rw [List.foldlM_cons, List.foldlM_cons, join_concat]
    cases join h path key with
    | error f => rfl
    | ok extended => exact ih extended

theorem foldlM_join_cons {key : Value} {accessor tail : String} {keys : List Value}
    (hkey : keyAccessor h key = .ok accessor) (hkeys : keys.foldlM (join h) "" = .ok tail) :
    (key :: keys).foldlM (join h) "" = .ok (concat accessor tail) := by
  have hjoin : join h "" key = .ok (concat accessor "") := by
    rw [join, hkey, concat_empty_right]
    exact congrArg Except.ok (concat_empty_left accessor)
  have hfold := foldlM_join_concat (h := h) accessor "" keys
  rw [hkeys] at hfold
  rw [List.foldlM_cons, hjoin]
  exact hfold

end Path

/-! ### Descents -/

namespace Pattern

variable {c : Context}

def Accepts (c : Context) (p : Pattern) (v : Value) : Prop := (p.matcher c v "").result = .ok ()

/-- An object pattern lets an entry pass: under a declared key, a value that matches; under any
other key, whatever it is, unless such keys are rejected. -/
def Admits (c : Context) (u : UnknownKeys) (fields : List (String × Pattern))
    (e : Value × Value) : Prop :=
  match declared? fields e.1 with
  | some q => q.unwrapped.Accepts c e.2
  | none => u = .allow

/-- Along keys, a pattern and a value lead to a pattern and a part. Each step is to the pattern for
one part, and passes by parts that match. -/
inductive Descends (c : Context) : Pattern → Value → List Value → Pattern → Value → Prop where
  | here (p : Pattern) (v : Value) : Descends c p v [] p v
  | element {q r : Pattern} {v x w : Value} {before after keys : List Value}
    (hv : c.heap.isArrayLike v = true) (hx : (c.heap.elements v).toList = before ++ x :: after)
    (hbefore : ∀ y ∈ before, q.Accepts c y) (hw : Descends c q x keys r w) :
    Descends c (arrayOf q) v (.int before.length :: keys) r w
  | value {q r : Pattern} {v key x w : Value} {before after : List (Value × Value)}
    {keys : List Value} (hx : c.heap.plainEntries? v = some (before ++ (key, x) :: after))
    (hbefore : ∀ e ∈ before, q.Accepts c e.2) (hw : Descends c q x keys r w) :
    Descends c (objectWithValues q) v (key :: keys) r w
  | field {u : UnknownKeys} {fields : List (String × Pattern)} {q r : Pattern} {v key x w : Value}
    {before after : List (Value × Value)} {keys : List Value}
    (hx : c.heap.plainEntries? v = some (before ++ (key, x) :: after))
    (hbefore : ∀ e ∈ before, Admits c u fields e) (hq : declared? fields key = some q)
    (hw : Descends c q.unwrapped x keys r w) : Descends c (object u fields) v (key :: keys) r w
  | inner {wrapper : Wrapper} {p r : Pattern} {v w : Value} {keys : List Value}
    (hv : Matcher.excuses wrapper v = false) (hw : Descends c p v keys r w) :
    Descends c (wrap .native wrapper p) v keys r w

/-- The pattern is an object pattern that lets all entries pass, and the name is the first one, in
order of declaration, that must be present and is not. -/
inductive Lacks (c : Context) : Pattern → Value → String → Prop where
  | name {u : UnknownKeys} {before after : List (String × Pattern)} {name : String} {q : Pattern}
    {v : Value} {entries : List (Value × Value)} (hv : c.heap.plainEntries? v = some entries)
    (hentries : ∀ e ∈ entries, Admits c u (before ++ (name, q) :: after) e)
    (hq : q.isWrapped = false) (hname : ∀ e ∈ entries, e.1.text? ≠ some name)
    (hbefore : ∀ f ∈ before, f.2.isWrapped = false → ∃ e ∈ entries, e.1.text? = some f.1) :
    Lacks c (object u (before ++ (name, q) :: after)) v name

/-- Along keys, a pattern and a value come to the first divergence and its reason. It is at a
pattern that the part as a whole does not match, or at a key that its object pattern does not
declare. -/
inductive DivergesAt (c : Context) (p : Pattern) (v : Value) : List Value → Value → Reason → Prop
    where
  | part {q : Pattern} {w : Value} {keys : List Value} {reason : Reason}
    (hq : Descends c p v keys q w)
    (hw : (q.matcher c w "").result = .error (.mismatch ⟨reason, ""⟩))
    (hlacks : ∀ name, reason = .missingKey name → q.Lacks c w name) : DivergesAt c p v keys w reason
  | key {fields : List (String × Pattern)} {u key w : Value} {before after : List (Value × Value)}
    {keys : List Value} (hq : Descends c p v keys (object .reject fields) u)
    (hw : c.heap.plainEntries? u = some (before ++ (key, w) :: after))
    (hbefore : ∀ e ∈ before, Admits c .reject fields e) (hkey : declared? fields key = none) :
    DivergesAt c p v (keys ++ [key]) w .unknownKey

theorem Descends.reaches {p q : Pattern} {v w : Value} {keys : List Value}
    (h : Descends c p v keys q w) : c.heap.Reaches v keys w := by
  induction h with
  | here p v => exact .here v
  | element hv hx _ _ ih => exact .under (.element hv (by simp [hx])) ih
  | value hx _ _ ih => exact .under (.entry hx (by simp)) ih
  | field hx _ _ _ ih => exact .under (.entry hx (by simp)) ih
  | inner _ _ ih => exact ih

theorem DivergesAt.reaches {p : Pattern} {v w : Value} {keys : List Value} {reason : Reason}
    (h : DivergesAt c p v keys w reason) : c.heap.Reaches v keys w := by
  cases h with
  | part hq _ _ => exact hq.reaches
  | key hq hw _ _ => exact hq.reaches.append (.under (.entry hw (by simp)) (.here _))

/-- What holds at the end of a descent holds at the end of one that begins higher up. -/
theorem DivergesAt.lift {p q : Pattern} {v x w : Value} {keys : List Value} {reason : Reason}
    (above : List Value)
    (hstep : ∀ {keys r w}, Descends c q x keys r w → Descends c p v (above ++ keys) r w)
    (h : DivergesAt c q x keys w reason) : DivergesAt c p v (above ++ keys) w reason := by
  cases h with
  | part hq hw hlacks => exact .part (hstep hq) hw hlacks
  | key hq hw hbefore hkey =>
    rw [← List.append_assoc]
    exact .key (hstep hq) hw hbefore hkey

/-! ### Visits -/

theorem accepts_iff {p : Pattern} {v : Value} {path : String} :
    (p.matcher c v path).result = .ok () ↔ p.Accepts c v := by
  rw [matcher_relocate]
  exact Run.relocate_result_ok_iff

theorem visit_run_ok_iff {b : Visit} {q : Pattern} (hq : b.demand = .conform q) :
    (b.run c "").result = .ok () ↔
      (∃ accessor, Path.keyAccessor c.heap b.key = .ok accessor) ∧ q.Accepts c b.part := by
  simp only [Visit.run, hq, Path.lift_join_andThen, Run.lift_andThen_result_ok_iff, accepts_iff]
  exact exists_and_right

theorem visit_run_ok {b : Visit} {q : Pattern} (hq : b.demand = .conform q)
    (hb : (b.run c "").result = .ok ()) : q.Accepts c b.part :=
  ((visit_run_ok_iff hq).mp hb).2

theorem visit_run_mismatch {b : Visit} {q : Pattern} {m : Mismatch} (hq : b.demand = .conform q)
    (hm : (b.run c "").result = .error (.mismatch m)) :
    ∃ accessor tail, Path.keyAccessor c.heap b.key = .ok accessor ∧
      m.path = Path.concat accessor tail ∧
      (q.matcher c b.part "").result = .error (.mismatch ⟨m.reason, tail⟩) := by
  simp only [Visit.run, hq, Path.lift_join_andThen, Path.concat_empty_left] at hm
  rcases Run.lift_andThen_result_error_iff.mp hm with ⟨f, -, hf⟩ | ⟨accessor, hkey, hrun⟩
  · cases hf
  · rw [matcher_relocate] at hrun
    obtain ⟨tail, hq, hpath⟩ := Run.relocate_result_mismatch_iff.mp hrun
    exact ⟨accessor, tail, hkey, hpath, hq⟩

theorem visit_run_absence {b : Visit} {m : Mismatch} (hb : b.demand = .absence)
    (hm : (b.run c "").result = .error (.mismatch m)) :
    m.reason = .unknownKey ∧ Path.keyAccessor c.heap b.key = .ok m.path := by
  simp only [Visit.run, hb, Path.lift_join_andThen, Path.concat_empty_left] at hm
  rcases Run.lift_andThen_result_error_iff.mp hm with ⟨f, -, hf⟩ | ⟨accessor, hkey, hrun⟩
  · cases hf
  · cases hrun
    exact ⟨rfl, hkey⟩

theorem admits_of_visit {u : UnknownKeys} {fields : List (String × Pattern)} {e : Value × Value}
    (he : (Visit.run c "" ⟨e.1, e.2, .ofKey u fields e.1⟩).result = .ok ()) :
    Admits c u fields e := by
  cases hd : declared? fields e.1 with
  | some q =>
    simp only [Admits, hd]
    exact visit_run_ok (by simp only [Demand.ofKey, hd]) he
  | none =>
    cases u with
    | allow => simp only [Admits, hd]
    | reject =>
      simp only [Visit.run, Demand.ofKey, hd] at he
      obtain ⟨t, -, ht⟩ := Run.lift_andThen_result_ok_iff.mp he
      cases ht

theorem exists_split_of_map {α β : Type} {f : α → β} {xs : List α} {before after : List β} {b : β}
    (h : xs.map f = before ++ b :: after) :
    ∃ front x back, xs = front ++ x :: back ∧ f x = b ∧ ∀ y ∈ front, f y ∈ before := by
  obtain ⟨front, rest, rfl, rfl, hrest⟩ := List.map_eq_append_iff.mp h
  obtain ⟨x, back, rfl, hx, -⟩ := List.map_eq_cons_iff.mp hrest
  exact ⟨front, x, back, rfl, hx, fun y hy => List.mem_map_of_mem hy⟩

/-- The visits of an array before one of them are those of the elements with a smaller index. -/
theorem arrayOf_split {h : Heap} {q : Pattern} {v : Value} {before after : List Visit} {b : Visit}
    (hb : (arrayOf q).visits h v = before ++ b :: after) :
    ∃ front x back, (h.elements v).toList = front ++ x :: back ∧
      b = ⟨.int front.length, x, .conform q⟩ ∧
      ∀ y ∈ front, ∃ i : Nat, (⟨.int i, y, .conform q⟩ : Visit) ∈ before := by
  obtain ⟨front, item, back, hsplit, rfl, hfront⟩ := exists_split_of_map hb
  obtain ⟨xs, rest, hxs, rfl, hrest⟩ := List.zipIdx_eq_append_iff.mp hsplit
  obtain ⟨x, ys, rfl, rfl, -⟩ := List.zipIdx_eq_cons_iff.mp hrest.symm
  refine ⟨xs, x, ys, hxs, by simp, fun y hy => ?_⟩
  obtain ⟨i, hi, rfl⟩ := List.mem_iff_getElem.mp hy
  exact ⟨i, hfront (xs[i], i) (by simp [List.mem_zipIdx_iff_getElem?])⟩

/-! ### Reasons -/

theorem ofInstance_ne_missingKey {h : Heap} {target v : Value} {name : String} :
    leafFlaw?.ofInstance h target v ≠ .ok (some (.missingKey name)) := by
  intro hf
  obtain ⟨belongs, -, hflaw⟩ := ofInstance_ok_iff.mp hf
  cases belongs <;> cases hflaw

theorem literal_ne_missingKey {h : Heap} {e v : Value} {name : String} :
    leafFlaw? h (literal e) v ≠ .ok (some (.missingKey name)) := by
  intro hf
  rcases leafFlaw?_literal_ok_iff.mp hf with ⟨-, hflaw⟩ | ⟨wanted, -, -, hflaw⟩
  · cases hflaw
  · cases hflaw

theorem leafFlaw?_ne_missingKey {h : Heap} {p : Pattern} {v : Value} {name : String} :
    p.leafFlaw? h v ≠ .ok (some (.missingKey name)) := by
  cases p with
  | literal e => exact literal_ne_missingKey
  | typeTag o k =>
    cases o with
    | native =>
      rw [leafFlaw?]
      split <;> simp
    | foreign => simp [leafFlaw?]
  | integer =>
    rw [leafFlaw?]
    split
    · split <;> simp
    · simp
  | objectTag =>
    rw [leafFlaw?, leafFlaw?.ofCategory]
    split <;> simp
  | functionTag =>
    rw [leafFlaw?, leafFlaw?.ofCategory]
    split <;> simp
  | arrayTag =>
    rw [leafFlaw?]
    split <;> simp
  | dateTag => exact ofInstance_ne_missingKey
  | regexTag => exact ofInstance_ne_missingKey
  | instanceOf target => exact ofInstance_ne_missingKey
  | _ => simp [leafFlaw?]

theorem openingFlaw?_ne_missingKey {h : Heap} {p : Pattern} {v : Value} {name : String} :
    p.openingFlaw? h v ≠ some (.missingKey name) := by
  have hplain : (if h.isPlain v then none else some (h.plainFlaw v)) ≠ some (.missingKey name) := by
    rw [Heap.plainFlaw]
    split
    · simp
    · split <;> simp
  cases p with
  | arrayOf q =>
    rw [openingFlaw?]
    split <;> simp
  | _ => exact hplain

/-! ### Divergences of containers -/

theorem lacks_of_absent? {u : UnknownKeys} {fields : List (String × Pattern)} {v : Value}
    {entries : List (Value × Value)} {name : String} (hv : c.heap.plainEntries? v = some entries)
    (hentries : ∀ e ∈ entries, Admits c u fields e) (hname : absent? fields entries = some name) :
    (object u fields).Lacks c v name := by
  obtain ⟨f, hfind, rfl⟩ := Option.map_eq_some_iff.mp hname
  obtain ⟨hf, before, after, rfl, hbefore⟩ := List.find?_eq_some_iff_append.mp hfind
  obtain ⟨name, q⟩ := f
  simp only [Bool.and_eq_true, Bool.not_eq_true', List.any_eq_false, decide_eq_true_eq] at hf
  refine .name hv hentries hf.1 hf.2 fun g hg hw => ?_
  simpa [hw] using hbefore g hg

/-- A mismatch of the pattern at the value is explained: keys spell its path, and lead to the first
divergence. -/
def Explained (c : Context) (p : Pattern) (v : Value) (m : Mismatch) : Prop :=
  ∃ keys w, keys.foldlM (Path.join c.heap) "" = .ok m.path ∧ DivergesAt c p v keys w m.reason

theorem explained_here {p : Pattern} {v : Value} {reason : Reason}
    (hm : (p.matcher c v "").result = .error (.mismatch ⟨reason, ""⟩))
    (hlacks : ∀ name, reason = .missingKey name → p.Lacks c v name) :
    p.Explained c v ⟨reason, ""⟩ :=
  ⟨[], v, rfl, .part (.here p v) hm hlacks⟩

/-- A divergence of a part is one of the whole, under the key of the part. -/
theorem explained_under {p q : Pattern} {v x : Value} {key : Value} {m : Mismatch}
    {accessor tail : String} (hkey : Path.keyAccessor c.heap key = .ok accessor)
    (hpath : m.path = Path.concat accessor tail)
    (hstep : ∀ {keys r w}, Descends c q x keys r w → Descends c p v (key :: keys) r w)
    (hq : q.Explained c x ⟨m.reason, tail⟩) : p.Explained c v m := by
  obtain ⟨keys, w, hkeys, hd⟩ := hq
  -- the keys below spell the tail from the root, and the accessor goes in front of it
  refine ⟨key :: keys, w, ?_, hd.lift [key] hstep⟩
  rw [hpath]
  exact Path.foldlM_join_cons hkey hkeys

theorem arrayOf_explained {q : Pattern} {v : Value} {m : Mismatch} {before after : List Visit}
    {b : Visit} (hv : (arrayOf q).openingFlaw? c.heap v = none)
    (hb : (arrayOf q).visits c.heap v = before ++ b :: after)
    (hbefore : ∀ a ∈ before, (a.run c "").result = .ok ())
    (hm : (b.run c "").result = .error (.mismatch m))
    (ih : ∀ v m, (q.matcher c v "").result = .error (.mismatch m) → q.Explained c v m) :
    (arrayOf q).Explained c v m := by
  obtain ⟨front, x, back, hx, rfl, hfront⟩ := arrayOf_split hb
  have harray : c.heap.isArrayLike v = true := openingFlaw?_arrayOf_eq_none_iff.mp hv
  have haccepts : ∀ y ∈ front, q.Accepts c y := fun y hy => by
    obtain ⟨i, hi⟩ := hfront y hy
    exact visit_run_ok rfl (hbefore _ hi)
  obtain ⟨accessor, tail, hkey, hpath, hq⟩ := visit_run_mismatch rfl hm
  exact explained_under hkey hpath (.element harray hx haccepts) (ih x _ hq)

theorem objectWithValues_explained {q : Pattern} {v : Value} {m : Mismatch}
    {before after : List Visit} {b : Visit} (hv : (objectWithValues q).openingFlaw? c.heap v = none)
    (hb : (objectWithValues q).visits c.heap v = before ++ b :: after)
    (hbefore : ∀ a ∈ before, (a.run c "").result = .ok ())
    (hm : (b.run c "").result = .error (.mismatch m))
    (ih : ∀ v m, (q.matcher c v "").result = .error (.mismatch m) → q.Explained c v m) :
    (objectWithValues q).Explained c v m := by
  have hentries := (openingFlaw?_eq_none_iff (by simp)).mp hv
  obtain ⟨front, ⟨key, x⟩, back, hx, rfl, hfront⟩ := exists_split_of_map hb
  rw [hx] at hentries
  obtain ⟨accessor, tail, hkey, hpath, hq⟩ := visit_run_mismatch rfl hm
  exact explained_under hkey hpath
    (.value hentries fun e he => visit_run_ok rfl (hbefore _ (hfront e he))) (ih x _ hq)

theorem object_explained {u : UnknownKeys} {fields : List (String × Pattern)} {v : Value}
    {m : Mismatch} {before after : List Visit} {b : Visit}
    (hv : (object u fields).openingFlaw? c.heap v = none)
    (hb : (object u fields).visits c.heap v = before ++ b :: after)
    (hbefore : ∀ a ∈ before, (a.run c "").result = .ok ())
    (hm : (b.run c "").result = .error (.mismatch m))
    (ih : ∀ q ∈ (object u fields).parts, ∀ v m,
      (q.matcher c v "").result = .error (.mismatch m) → q.Explained c v m) :
    (object u fields).Explained c v m := by
  have hentries := (openingFlaw?_eq_none_iff (by simp)).mp hv
  obtain ⟨front, ⟨key, x⟩, back, hx, rfl, hfront⟩ := exists_split_of_map hb
  rw [hx] at hentries
  have hadmits : ∀ e ∈ front, Admits c u fields e := fun e he =>
    admits_of_visit (hbefore _ (hfront e he))
  cases hd : declared? fields key with
  | some q =>
    obtain ⟨accessor, tail, hkey, hpath, hq⟩ :=
      visit_run_mismatch (q := q.unwrapped) (by simp only [Demand.ofKey, hd]) hm
    exact explained_under hkey hpath (.field hentries hadmits hd)
      (ih q.unwrapped (mem_parts_of_declared? hd) x _ hq)
  | none =>
    cases u with
    | allow =>
      simp only [Visit.run, Demand.ofKey, hd] at hm
      cases hm
    | reject =>
      obtain ⟨hreason, hkey⟩ := visit_run_absence (by simp only [Demand.ofKey, hd]) hm
      have hjoin : [key].foldlM (Path.join c.heap) "" = .ok (Path.concat m.path "") :=
        Path.foldlM_join_cons hkey rfl
      have hend : DivergesAt c (object .reject fields) v ([] ++ [key]) x .unknownKey :=
        .key (.here _ v) hentries hadmits hd
      rw [Path.concat_empty_right] at hjoin
      rw [← hreason] at hend
      exact ⟨[key], x, hjoin, hend⟩

theorem closing_explained {p : Pattern} {v : Value} {reason : Reason}
    (hopening : p.openingFlaw? c.heap v = none)
    (hvisits : ∀ b ∈ p.visits c.heap v, (b.run c "").result = .ok ())
    (hclosing : p.closingFlaw? c.heap v = some reason)
    (hm : (p.matcher c v "").result = .error (.mismatch ⟨reason, ""⟩)) :
    p.Explained c v ⟨reason, ""⟩ := by
  cases p with
  | object u fields =>
    obtain ⟨name, hname, rfl⟩ := Option.map_eq_some_iff.mp hclosing
    refine explained_here hm fun name' hn => ?_
    cases hn
    refine lacks_of_absent? ((openingFlaw?_eq_none_iff (by simp)).mp hopening) ?_ hname
    exact fun e he => admits_of_visit (hvisits _ (List.mem_map_of_mem he))
  | _ => exact absurd hclosing (Option.some_ne_none reason).symm

theorem container_explained {p : Pattern} {v : Value} {m : Mismatch} (hp : p.isContainer = true)
    (hm : (p.matcher c v "").result = .error (.mismatch m))
    (ih : ∀ q ∈ p.parts, ∀ v m,
      (q.matcher c v "").result = .error (.mismatch m) → q.Explained c v m) :
    p.Explained c v m := by
  rcases (container_result_error_iff hp).mp hm with
    ⟨reason, hreason, he⟩ | ⟨hopening, ⟨before, b, after, hb, hbefore, hrun⟩ |
      ⟨hvisits, reason, hclosing, he⟩⟩
  · cases he
    refine explained_here hm fun name hn => ?_
    rw [hn] at hreason
    exact absurd hreason openingFlaw?_ne_missingKey
  -- a visit failed: each container has its own kind of step to the part
  · cases p with
    | arrayOf q =>
      exact arrayOf_explained hopening hb hbefore hrun (ih q (List.mem_singleton_self q))
    | objectWithValues q =>
      exact objectWithValues_explained hopening hb hbefore hrun (ih q (List.mem_singleton_self q))
    | object u fields => exact object_explained hopening hb hbefore hrun ih
    | _ => exact absurd hp Bool.false_ne_true
  · cases he
    exact closing_explained hopening hvisits hclosing hm

/-! ### All patterns -/

def isPredicateFree : Pattern → Bool
  | satisfies _ => false
  | _ => true

theorem explained_of_mismatch {p : Pattern} {v : Value} {m : Mismatch}
    (hp : p.Every isPredicateFree) (hm : (p.matcher c v "").result = .error (.mismatch m)) :
    p.Explained c v m := by
  induction p using formInduction generalizing v m with
  | leaf p hleaf =>
    obtain ⟨reason, hreason, rfl⟩ := (leaf_result_mismatch_iff hleaf).mp hm
    refine explained_here hm fun name hn => ?_
    rw [hn] at hreason
    exact absurd hreason leafFlaw?_ne_missingKey
  | container p hcontainer ih =>
    exact container_explained hcontainer hm fun q hq v m => ih q hq (hp.part hq)
  | wrap w p ih =>
    rw [wrap_matcher] at hm
    cases hv : Matcher.excuses w v with
    | true =>
      rw [hv] at hm
      cases hm
    | false =>
      rw [hv] at hm
      obtain ⟨keys, x, hkeys, hd⟩ := ih (hp.part (List.mem_singleton_self p)) hm
      exact ⟨keys, x, hkeys, hd.lift [] (.inner hv)⟩
  | oneOf choices ih =>
    -- what the choices failed for is lost, so the descent ends here
    obtain ⟨-, rfl⟩ := oneOf_result_mismatch_iff.mp hm
    refine explained_here hm fun name hn => ?_
    cases hn
  | satisfies f => exact absurd hp.root Bool.false_ne_true

end Pattern

/-- The path of the mismatch that a check ends in leads to the first divergence: some keys spell it,
these can be looked up one after the other, and the descent along them ends at the divergence. -/
theorem Context.check_reports_first_divergence (c : Context) (v raw : Value) (p : Pattern)
    (m : Mismatch) (hp : c.heap.toPattern raw = .ok p) (hfree : p.Every Pattern.isPredicateFree)
    (hm : (c.check v raw).result = .error (.mismatch m)) :
    ∃ keys w, keys.foldlM (Path.join c.heap) "" = .ok m.path ∧ c.heap.Reaches v keys w ∧
      (c.heap.KeysDistinct → keys.foldlM c.heap.part? v = some w) ∧
      p.DivergesAt c v keys w m.reason := by
  rw [check_result hp] at hm
  obtain ⟨keys, w, hkeys, hd⟩ := Pattern.explained_of_mismatch hfree hm
  have hw := hd.reaches
  exact ⟨keys, w, hkeys, hw, fun hdistinct => Heap.foldlM_part?_of_reaches hdistinct hw, hd⟩

def nestedFields : Pattern :=
  .object .allow
    [("a", .arrayOf (.wrap .native .maybe
      (.object .reject [("b", .wrap .native .optional .integer)])))]

/-- A dictionary that leads through a list to another one, with an entry that nothing declares. -/
def strayEntry : Heap :=
  ⟨#[.dict .plain [(.str "b", .int 1), (.str "x y", .null)],
    .sequence .list [.null, .ref 0],
    .dict .plain [(.int 7, .undefined), (.str "a", .ref 1)],
    .pattern nestedFields []]⟩

theorem strayEntry_filled : strayEntry.Filled := by
  have h₁ := Heap.Filled.empty.dict .plain [(.str "b", .int 1), (.str "x y", .null)] (by decide) rfl
  have h₂ := h₁.sequence .list [.null, .ref 0] (by decide) (by decide)
  have h₃ := h₂.dict .plain [(.int 7, .undefined), (.str "a", .ref 1)] (by decide) rfl
  exact h₃.pattern nestedFields [] (by decide)

theorem strayEntry_diverges :
    ((strayEntry.context false "").check (.ref 2) (.ref 3)).result =
        .error (.mismatch ⟨.unknownKey, "a[1][\"x y\"]"⟩) ∧
      ∃ keys w, keys.foldlM (Path.join strayEntry) "" = .ok "a[1][\"x y\"]" ∧
        strayEntry.Reaches (.ref 2) keys w ∧
        keys.foldlM strayEntry.part? (.ref 2) = some w ∧
        nestedFields.DivergesAt (strayEntry.context false "") (.ref 2) keys w .unknownKey := by
  have hm : ((strayEntry.context false "").check (.ref 2) (.ref 3)).result =
      .error (.mismatch ⟨.unknownKey, "a[1][\"x y\"]"⟩) := by
    decide +kernel
  have hfree : nestedFields.Every Pattern.isPredicateFree := by decide
  obtain ⟨keys, w, hkeys, hw, hlookup, hd⟩ := Context.check_reports_first_divergence
    (strayEntry.context false "") (.ref 2) (.ref 3) nestedFields ⟨.unknownKey, "a[1][\"x y\"]"⟩ rfl hfree
    hm
  exact ⟨hm, keys, w, hkeys, hw, hlookup strayEntry_filled.isSound.keysDistinct, hd⟩

end Conformance
