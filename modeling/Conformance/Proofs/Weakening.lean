import Conformance.Proofs.ClosedPattern
import Conformance.Proofs.Stumble

/-!
# Weakening

One sub-pattern of a pattern gives way to another one that accepts all that the first did. A value
that matched before is not rejected then. It matches, unless a choice that is tried now, and was not
before, comes to a pattern beside the place that has no verdict on a part of the value: a choice
goes on after a mismatch, and not after a fault.
-/

namespace Conformance

open Pattern

/-- A pattern with one open place. The wrappers are those of the library. -/
inductive Surroundings where
  | place
  | arrayOf (s : Surroundings)
  | objectWithValues (s : Surroundings)
  | field (unknown : UnknownKeys) (before : List (String × Pattern)) (name : String)
    (s : Surroundings) (after : List (String × Pattern))
  | wrap (wrapper : Wrapper) (s : Surroundings)
  | choice (before : List Pattern) (s : Surroundings) (after : List Pattern)

namespace Surroundings

def fill (p : Pattern) : Surroundings → Pattern
  | place => p
  | arrayOf s => .arrayOf (s.fill p)
  | objectWithValues s => .objectWithValues (s.fill p)
  | field u before name s after => .object u (before ++ (name, s.fill p) :: after)
  | wrap w s => .wrap .native w (s.fill p)
  | choice before s after => .oneOf (before ++ s.fill p :: after)

/-- The patterns beside the open place, as values are matched against them: a field without its
outer wrapper. -/
def beside : Surroundings → List Pattern
  | place => []
  | arrayOf s | objectWithValues s | wrap _ s => s.beside
  | field _ before _ s after => (before ++ after).map (·.2.unwrapped) ++ s.beside
  | choice before s after => before ++ after ++ s.beside

/-- Does another choice follow one that the open place lies in? -/
def hasLaterChoice : Surroundings → Bool
  | place => false
  | arrayOf s | objectWithValues s | wrap _ s | field _ _ _ s _ => s.hasLaterChoice
  | choice _ s after => !after.isEmpty || s.hasLaterChoice

def isPlace : Surroundings → Bool
  | place => true
  | _ => false

/-- Is the open place itself the pattern of a field? -/
def isField : Surroundings → Bool
  | place => false
  | arrayOf s | objectWithValues s | wrap _ s | choice _ s _ => s.isField
  | field _ _ _ s _ => s.isPlace || s.isField

def unwrapped : Surroundings → Surroundings
  | wrap _ s => s
  | s => s

variable {s : Surroundings} {p q : Pattern}

theorem isField_unwrapped : s.unwrapped.isField = s.isField := by
  cases s <;> rfl

theorem hasLaterChoice_unwrapped : s.unwrapped.hasLaterChoice = s.hasLaterChoice := by
  cases s <;> rfl

theorem beside_unwrapped : s.unwrapped.beside = s.beside := by
  cases s <;> rfl

theorem unwrapped_fill (hp : s.isPlace = true → p.isWrapped = false) :
    (s.fill p).unwrapped = s.unwrapped.fill p := by
  cases s with
  | place => exact unwrapped_of_isWrapped_eq_false (hp rfl)
  | _ => rfl

theorem isWrapped_fill_eq (h : s.isPlace = true → p.isWrapped = false ∧ q.isWrapped = false) :
    (s.fill p).isWrapped = (s.fill q).isWrapped := by
  cases s with
  | place => exact (h rfl).1.trans (h rfl).2.symm
  | _ => rfl

/-- Induction on surroundings along the patterns that values are matched against: below a field,
the outer wrapper is gone. -/
@[elab_as_elim]
theorem unwrappedInduction {motive : Surroundings → Prop} (s : Surroundings)
    (place : motive .place)
    (arrayOf : ∀ s, motive s → motive (.arrayOf s))
    (objectWithValues : ∀ s, motive s → motive (.objectWithValues s))
    (field : ∀ u before name s after, motive s.unwrapped → motive (.field u before name s after))
    (wrap : ∀ w s, motive s → motive (.wrap w s))
    (choice : ∀ before s after, motive s → motive (.choice before s after)) : motive s := by
  have both : motive s ∧ motive s.unwrapped := by
    induction s with
    | place => exact ⟨place, place⟩
    | arrayOf s ih => exact ⟨arrayOf s ih.1, arrayOf s ih.1⟩
    | objectWithValues s ih => exact ⟨objectWithValues s ih.1, objectWithValues s ih.1⟩
    | field u before name s after ih =>
      have hfield := field u before name s after ih.2
      exact ⟨hfield, hfield⟩
    | wrap w s ih => exact ⟨wrap w s ih.1, ih.1⟩
    | choice before s after ih =>
      have hchoice := choice before s after ih.1
      exact ⟨hchoice, hchoice⟩
  exact both.1

end Surroundings

/-! ### Fields around the open place -/

namespace Pattern

variable {c : Context} {p q : Pattern} {v : Value} {late : Prop} {f : Fault}

/-- What is declared for a key is the pattern of the field in the middle, or it does not depend on
this pattern. -/
theorem declared?_middle (before : List (String × Pattern)) (name : String)
    (after : List (String × Pattern)) (key : Value) :
    (∀ r, declared? (before ++ (name, r) :: after) key = some r) ∨
      ∃ d, ∀ r, declared? (before ++ (name, r) :: after) key = d := by
  cases hkey : key.text? with
  | none =>
    refine .inr ⟨none, fun r => ?_⟩
    rw [declared?, hkey, Option.bind_none]
  | some text =>
    simp only [declared?, hkey, Option.bind_some, List.find?_append]
    cases before.find? (·.1 = text) with
    | some g => exact .inr ⟨some g.2, fun r => rfl⟩
    | none =>
      by_cases hname : name = text
      · refine .inl fun r => ?_
        simp [hname]
      · refine .inr ⟨(after.find? (·.1 = text)).map (·.2), fun r => ?_⟩
        simp [hname]

theorem ofKey_middle (u : UnknownKeys) (before : List (String × Pattern)) (name : String)
    (after : List (String × Pattern)) (key : Value) :
    (∀ r, Demand.ofKey u (before ++ (name, r) :: after) key = .conform r.unwrapped) ∨
      ∃ d, ∀ r, Demand.ofKey u (before ++ (name, r) :: after) key = d := by
  rcases declared?_middle before name after key with hmiddle | ⟨d, hd⟩
  · exact .inl fun r => by simp only [Demand.ofKey, hmiddle r]
  · refine .inr ⟨Demand.ofKey u (before ++ (name, Pattern.any) :: after) key, fun r => ?_⟩
    simp only [Demand.ofKey, hd]

theorem absent?_middle {before after : List (String × Pattern)} {name : String}
    (h : p.isWrapped = q.isWrapped) (entries : List (Value × Value)) :
    absent? (before ++ (name, p) :: after) entries =
      absent? (before ++ (name, q) :: after) entries := by
  simp only [absent?, List.find?_append, List.find?_cons, h]
  cases before.find? fun f => !f.2.isWrapped && !entries.any fun e => e.1.text? = some f.1 with
  | some g => rfl
  | none =>
    cases !q.isWrapped && !entries.any fun e => decide (e.1.text? = some name) with
    | true => rfl
    | false => rfl

/-! ### Covering -/

/-- The second pattern accepts what the first accepts, or has no verdict on it if `late`. -/
def Covers (c : Context) (late : Prop) (p q : Pattern) : Prop :=
  ∀ v, p.Accepts c v → q.Accepts c v ∨ (late ∧ ∃ f, (q.matcher c v "").result = .error (.fault f))

/-- The second visit is to the same part. It asks for `q` if the first asks for `p`, or the same. -/
structure Supersedes (p q : Pattern) (b b' : Visit) : Prop where
  key : b'.key = b.key
  part : b'.part = b.part
  demand : b'.demand = b.demand ∨ (b.demand = .conform p ∧ b'.demand = .conform q)

theorem visit_run_covers {b b' : Visit} (hcovers : Covers c late p q) (hb : Supersedes p q b b')
    (hrun : (b.run c "").result = .ok ()) :
    (b'.run c "").result = .ok () ∨ (late ∧ ∃ f, (b'.run c "").result = .error (.fault f)) := by
  obtain ⟨key, part, demand⟩ := b
  obtain ⟨key', part', demand'⟩ := b'
  obtain ⟨rfl, rfl, rfl | ⟨hp, hq⟩⟩ := hb
  · exact .inl hrun
  · obtain ⟨⟨accessor, hkey⟩, haccepts⟩ := (visit_run_ok_iff hp).mp hrun
    rcases hcovers _ haccepts with hok | ⟨hlate, f, hf⟩
    · exact .inl ((visit_run_ok_iff hq).mpr ⟨⟨accessor, hkey⟩, hok⟩)
    · have hfault := visit_run_fault_iff.mpr (.inr ⟨q, accessor, hq, hkey, hf⟩)
      exact .inr ⟨hlate, f, hfault⟩

/-- A container covers another one whose visits its own supersede. -/
theorem container_covers {r r' : Pattern} (hr : r.isContainer = true) (hr' : r'.isContainer = true)
    (hopening : ∀ v, r.openingFlaw? c.heap v = r'.openingFlaw? c.heap v)
    (hvisits : ∀ v, ∀ b' ∈ r'.visits c.heap v, ∃ b ∈ r.visits c.heap v, Supersedes p q b b')
    (hclosing : ∀ v, r.closingFlaw? c.heap v = r'.closingFlaw? c.heap v)
    (hcovers : Covers c late p q) : Covers c late r r' := by
  intro v hv
  obtain ⟨hopen, hparts, hclose⟩ := (container_result_ok_iff hr).mp hv
  have hrun : ∀ b' ∈ r'.visits c.heap v, (b'.run c "").result = .ok () ∨
      (late ∧ ∃ f, (b'.run c "").result = .error (.fault f)) := by
    intro b' hb'
    obtain ⟨b, hb, hsupersedes⟩ := hvisits v b' hb'
    exact visit_run_covers hcovers hsupersedes (hparts b hb)
  rcases hresult : (r'.matcher c v "").result with (m | f) | u
  · -- none of the three ways for a container to end in a mismatch is open
    rcases (container_result_error_iff hr').mp hresult with
      ⟨reason, hreason, -⟩ | ⟨-, ⟨before, b', after, hsplit, -, hb'⟩ | ⟨-, reason, hreason, -⟩⟩
    · rw [← hopening v, hopen] at hreason
      cases hreason
    · have hmem : b' ∈ r'.visits c.heap v := hsplit ▸ List.mem_append_cons_self
      rcases hrun b' hmem with hok | ⟨-, f, hf⟩
      · rw [hok] at hb'
        cases hb'
      · rw [hf] at hb'
        cases hb'
    · rw [← hclosing v, hclose] at hreason
      cases hreason
  · obtain ⟨b', hcomes, hb'⟩ := (container_fault_iff hr').mp hresult
    rcases hrun b' hcomes.mem_visits with hok | ⟨hlate, -⟩
    · rw [hok] at hb'
      cases hb'
    · exact .inr ⟨hlate, f, rfl⟩
  · exact .inl hresult

theorem arrayOf_covers (h : Covers c late p q) : Covers c late (arrayOf p) (arrayOf q) := by
  refine container_covers rfl rfl (fun _ => rfl) ?_ (fun _ => rfl) h
  intro v b' hb'
  obtain ⟨item, hitem, rfl⟩ := List.mem_map.mp hb'
  exact ⟨_, List.mem_map_of_mem hitem, rfl, rfl, .inr ⟨rfl, rfl⟩⟩

theorem objectWithValues_covers (h : Covers c late p q) :
    Covers c late (objectWithValues p) (objectWithValues q) := by
  refine container_covers rfl rfl (fun _ => rfl) ?_ (fun _ => rfl) h
  intro v b' hb'
  obtain ⟨e, he, rfl⟩ := List.mem_map.mp hb'
  exact ⟨_, List.mem_map_of_mem he, rfl, rfl, .inr ⟨rfl, rfl⟩⟩

theorem field_covers (u : UnknownKeys) (before : List (String × Pattern)) (name : String)
    (after : List (String × Pattern)) (hwrapped : p.isWrapped = q.isWrapped)
    (h : Covers c late p.unwrapped q.unwrapped) :
    Covers c late (object u (before ++ (name, p) :: after))
      (object u (before ++ (name, q) :: after)) := by
  refine container_covers rfl rfl (fun _ => rfl) ?_ ?_ h
  · intro v b' hb'
    obtain ⟨e, he, rfl⟩ := List.mem_map.mp hb'
    refine ⟨_, List.mem_map_of_mem he, rfl, rfl, ?_⟩
    rcases ofKey_middle u before name after e.1 with hmiddle | ⟨d, hd⟩
    · exact .inr ⟨hmiddle p, hmiddle q⟩
    · exact .inl ((hd q).trans (hd p).symm)
  · intro v
    simp only [closingFlaw?, absent?_middle hwrapped]

theorem wrap_covers (w : Wrapper) (h : Covers c late p q) :
    Covers c late (wrap .native w p) (wrap .native w q) := by
  intro v hv
  rw [Accepts, wrap_matcher] at hv ⊢
  cases hexcused : Matcher.excuses w v with
  | true => exact .inl rfl
  | false =>
    rw [hexcused] at hv
    exact h v hv

/-- Where no choice follows, one that covers another can take its place. -/
theorem oneOf_covers (before after : List Pattern) (h : Covers c late p q) :
    Covers c (after ≠ [] ∨ late) (oneOf (before ++ p :: after)) (oneOf (before ++ q :: after)) := by
  intro v hv
  induction before with
  | cons r before ih =>
    rw [Accepts, List.cons_append, oneOf_cons_matcher, Run.recover_result_ok_iff] at hv ⊢
    rcases hv with hr | ⟨m, hr, hrest⟩
    · exact .inl (.inl hr)
    · rcases ih hrest with hok | ⟨hlate, f, hf⟩
      · exact .inl (.inr ⟨m, hr, hok⟩)
      · exact .inr ⟨hlate, f, Run.recover_result_fault_iff.mpr (.inr ⟨m, hr, hf⟩)⟩
  | nil =>
    rw [Accepts, List.nil_append, oneOf_cons_matcher, Run.recover_result_ok_iff] at hv ⊢
    rcases hv with hp | ⟨-, -, hrest⟩
    · rcases h v hp with hok | ⟨hlate, f, hf⟩
      · exact .inl (.inl hok)
      · exact .inr ⟨.inr hlate, f, Run.recover_result_fault_iff.mpr (.inl hf)⟩
    · -- a later choice accepts the value, and it is what counts unless `q` has no verdict
      have hafter : after ≠ [] := by
        rintro rfl
        cases hrest
      rcases hq : (q.matcher c v "").result with (m | f) | u
      · exact .inl (.inr ⟨m, rfl, hrest⟩)
      · exact .inr ⟨.inl hafter, f, Run.recover_result_fault_iff.mpr (.inl hq)⟩
      · exact .inl (.inl rfl)

end Pattern

/-! ### Faults from beside the open place -/

namespace Heap

theorem holds_of_mem_visits {h : Heap} {p : Pattern} {v : Value} {b : Visit}
    (hp : p.openingFlaw? h v = none) (hb : b ∈ p.visits h v) : h.Holds v b.key b.part := by
  have hentry : ∀ e ∈ h.plainEntries v, (∀ q, p ≠ .arrayOf q) → h.Holds v e.1 e.2 := by
    intro e he hne
    exact .entry ((openingFlaw?_eq_none_iff hne).mp hp) he
  cases p with
  | arrayOf q =>
    obtain ⟨item, hitem, rfl⟩ := List.mem_map.mp hb
    have harray : h.isArrayLike v = true := openingFlaw?_arrayOf_eq_none_iff.mp hp
    exact .element harray (List.mem_zipIdx_iff_getElem?.mp hitem)
  | objectWithValues q | object u fields =>
    obtain ⟨e, he, rfl⟩ := List.mem_map.mp hb
    exact hentry e he (by simp)
  | _ => exact absurd hb List.not_mem_nil

end Heap

/-- One of the patterns ends in the fault on a part of the value, or the key of a part cannot be
written for it. -/
inductive Blamed (c : Context) (siblings : List Pattern) (f : Fault) (v : Value) : Prop where
  | pattern {r : Pattern} {keys : List Value} {w : Value} (hr : r ∈ siblings)
    (hw : c.heap.Reaches v keys w) (hf : (r.matcher c w "").result = .error (.fault f))
  | key {keys : List Value} {w key x : Value} (hw : c.heap.Reaches v keys w)
    (hx : c.heap.Holds w key x) (hf : Path.keyAccessor c.heap key = .error f)

namespace Blamed

variable {c : Context} {siblings siblings' : List Pattern} {f : Fault} {v : Value}

theorem mono (hsub : ∀ r ∈ siblings, r ∈ siblings') (h : Blamed c siblings f v) :
    Blamed c siblings' f v := by
  cases h with
  | pattern hr hw hf => exact .pattern (hsub _ hr) hw hf
  | key hw hx hf => exact .key hw hx hf

theorem under {key x : Value} (hx : c.heap.Holds v key x) (h : Blamed c siblings f x) :
    Blamed c siblings f v := by
  cases h with
  | pattern hr hw hf => exact .pattern hr (.under hx hw) hf
  | key hw hy hf => exact .key (.under hx hw) hy hf

theorem of_container {p q : Pattern} (hp : p.isContainer = true)
    (hparts : ∀ r ∈ p.parts, r = q ∨ r ∈ siblings)
    (hq : ∀ x, (q.matcher c x "").result = .error (.fault f) → Blamed c siblings f x)
    (hf : (p.matcher c v "").result = .error (.fault f)) : Blamed c siblings f v := by
  obtain ⟨b, hcomes, hb⟩ := (container_fault_iff hp).mp hf
  have hholds := Heap.holds_of_mem_visits hcomes.opening hcomes.mem_visits
  rcases visit_run_fault_iff.mp hb with ⟨-, hkey⟩ | ⟨r, accessor, hdemand, -, hr⟩
  · exact .key (.here v) hholds hkey
  · have hpart := mem_parts_of_mem_visits hcomes.mem_visits hdemand
    rcases hparts r hpart with rfl | hsibling
    · exact under hholds (hq b.part hr)
    · exact .pattern hsibling (.under hholds (.here _)) hr

end Blamed

namespace Surroundings

variable {c : Context} {s : Surroundings} {p q : Pattern} {v : Value} {f : Fault}

/-- If `q` always has a verdict, a fault of the pattern around it comes from beside it. -/
theorem blamed_of_fault (hverdict : ∀ w f, (q.matcher c w "").result ≠ .error (.fault f))
    (hfield : s.isField = true → q.isWrapped = false)
    (hf : ((s.fill q).matcher c v "").result = .error (.fault f)) :
    Blamed c s.beside f v := by
  induction s using unwrappedInduction generalizing v with
  | place => exact absurd hf (hverdict v f)
  | arrayOf s ih =>
    refine .of_container (p := .arrayOf (s.fill q)) (q := s.fill q) rfl ?_ (fun x => ih hfield) hf
    intro r hr
    exact .inl (List.mem_singleton.mp hr)
  | objectWithValues s ih =>
    refine .of_container (p := .objectWithValues (s.fill q)) (q := s.fill q) rfl ?_
      (fun x => ih hfield) hf
    intro r hr
    exact .inl (List.mem_singleton.mp hr)
  | field u before name s after ih =>
    simp only [isField, Bool.or_eq_true] at hfield
    have hunwrapped := unwrapped_fill fun hs => hfield (.inl hs)
    have hbelow : ∀ x, ((s.unwrapped.fill q).matcher c x "").result = .error (.fault f) →
        Blamed c (field u before name s after).beside f x := by
      intro x hx
      have hinner := ih (fun hs => hfield (.inr (isField_unwrapped ▸ hs))) hx
      rw [beside_unwrapped] at hinner
      exact hinner.mono fun r hr => List.mem_append_right _ hr
    refine .of_container (p := .object u (before ++ (name, s.fill q) :: after)) rfl ?_ hbelow hf
    intro r hr
    obtain ⟨g, hg, rfl⟩ := List.mem_map.mp hr
    rcases List.mem_append.mp hg with hbefore | hrest
    · exact .inr (List.mem_append_left _ (List.mem_map_of_mem (List.mem_append_left _ hbefore)))
    rcases List.mem_cons.mp hrest with rfl | hafter
    · exact .inl hunwrapped
    · exact .inr (List.mem_append_left _ (List.mem_map_of_mem (List.mem_append_right _ hafter)))
  | wrap w s ih =>
    rw [fill, wrap_matcher] at hf
    cases hexcused : Matcher.excuses w v with
    | true =>
      rw [hexcused] at hf
      cases hf
    | false =>
      rw [hexcused] at hf
      exact ih hfield hf
  | choice before s after ih =>
    obtain ⟨front, r, back, hsplit, -, hr⟩ := oneOf_result_fault_iff.mp hf
    have hmem : r ∈ before ++ s.fill q :: after := hsplit ▸ List.mem_append_cons_self
    rcases List.mem_append.mp hmem with hbefore | hrest
    · exact .pattern (List.mem_append_left _ (List.mem_append_left _ hbefore)) (.here v) hr
    rcases List.mem_cons.mp hrest with rfl | hafter
    · exact (ih hfield hr).mono fun r hr => List.mem_append_right _ hr
    · exact .pattern (List.mem_append_left _ (List.mem_append_right _ hafter)) (.here v) hr

/-- What the open place accepts more, the pattern around it accepts more. -/
theorem fill_covers (hcover : ∀ w, p.Accepts c w → q.Accepts c w)
    (hfield : s.isField = true → p.isWrapped = false ∧ q.isWrapped = false) :
    Covers c (s.hasLaterChoice = true) (s.fill p) (s.fill q) := by
  induction s using unwrappedInduction with
  | place => exact fun v hv => .inl (hcover v hv)
  | arrayOf s ih => exact arrayOf_covers (ih hfield)
  | objectWithValues s ih => exact objectWithValues_covers (ih hfield)
  | field u before name s after ih =>
    simp only [isField, Bool.or_eq_true] at hfield
    have hinner := ih fun hs => hfield (.inr (isField_unwrapped ▸ hs))
    rw [hasLaterChoice_unwrapped] at hinner
    refine field_covers u before name after (isWrapped_fill_eq fun hs => hfield (.inl hs)) ?_
    rw [unwrapped_fill fun hs => (hfield (.inl hs)).1,
      unwrapped_fill fun hs => (hfield (.inl hs)).2]
    exact hinner
  | wrap w s ih => exact wrap_covers w (ih hfield)
  | choice before s after ih =>
    have hchoice := oneOf_covers before after (ih hfield)
    have hlate : (choice before s after).hasLaterChoice = true ↔
        after ≠ [] ∨ s.hasLaterChoice = true := by
      simp [hasLaterChoice]
    rw [hlate]
    exact hchoice

end Surroundings

/-- Let `q` have a verdict on every value and accept what `p` accepts, and neither be a wrapper if
the open place is a field. A value that matches the pattern around `p` then matches the one around
`q`, or a choice follows on the way to the open place and the match ends in a fault that comes from
beside it. It is never rejected. -/
theorem Context.weakening_never_rejects (c : Context) (s : Surroundings) (p q : Pattern)
    (v raw raw' : Value) (hraw : c.heap.toPattern raw = .ok (s.fill p))
    (hraw' : c.heap.toPattern raw' = .ok (s.fill q))
    (hverdict : ∀ w f, (q.matcher c w "").result ≠ .error (.fault f))
    (hcover : ∀ w, p.Accepts c w → q.Accepts c w)
    (hfield : s.isField = true → p.isWrapped = false ∧ q.isWrapped = false)
    (hv : (c.accepts v raw).result = .ok true) :
    (c.accepts v raw').result = .ok true ∨
      (s.hasLaterChoice = true ∧
        ∃ f, (c.accepts v raw').result = .error (.fault f) ∧ Blamed c s.beside f v) := by
  have haccepts : (s.fill p).Accepts c v := (accepts_true_iff hraw).mp hv
  rcases s.fill_covers hcover hfield v haccepts with hok | ⟨hlate, f, hf⟩
  · exact .inl ((accepts_true_iff hraw').mpr hok)
  · have hfault : (c.accepts v raw').result = .error (.fault f) := by
      rw [accepts_result hraw', hf]
    exact .inr ⟨hlate, f, hfault, s.blamed_of_fault hverdict (fun hs => (hfield hs).2) hf⟩

/-- A choice between an object pattern and everything. Its field `a` is open; for the field `b` a
predicate is called. -/
def openField : Surroundings :=
  .choice [] (.field .reject [] "a" .place [("b", .satisfies (.ref 1))]) [.any]

/-- A predicate that raises a fault beside the open place, which is filled in two ways. -/
def raisingSibling : Heap :=
  ⟨#[.dict .plain [(.str "a", .int 1), (.str "b", .int 2)],
    .predicate (.raise .runtimeError "x"),
    .pattern (openField.fill (.typeTag .native .string)) [],
    .pattern (openField.fill .any) []]⟩

theorem any_has_verdict (c : Context) (w : Value) (f : Fault) :
    (Pattern.any.matcher c w "").result ≠ .error (.fault f) := nofun

theorem any_accepts (c : Context) (w : Value) : Pattern.any.Accepts c w := rfl

theorem raisingSibling_accepts_text :
    ((raisingSibling.context false "").accepts (.ref 0) (.ref 2)).result = .ok true := by
  decide +kernel

theorem raisingSibling_faults :
    ((raisingSibling.context false "").accepts (.ref 0) (.ref 3)).result =
      .error (.fault (.raised .runtimeError "x")) := by
  decide +kernel

/-- Where texts give way to all values, the predicate is called, and its fault comes from beside the
open place. -/
theorem raisingSibling_blamed :
    ((raisingSibling.context false "").accepts (.ref 0) (.ref 2)).result = .ok true ∧
      ((raisingSibling.context false "").accepts (.ref 0) (.ref 3)).result =
        .error (.fault (.raised .runtimeError "x")) ∧
      Blamed (raisingSibling.context false "") openField.beside (.raised .runtimeError "x")
        (.ref 0) := by
  have hv := raisingSibling_accepts_text
  have hf := raisingSibling_faults
  have hweak := Context.weakening_never_rejects (raisingSibling.context false "") openField
    (.typeTag .native .string) .any (.ref 0) (.ref 2) (.ref 3) rfl rfl
    (any_has_verdict _) (fun w _ => any_accepts _ w) (fun _ => ⟨rfl, rfl⟩) hv
  refine ⟨hv, hf, ?_⟩
  rcases hweak with hok | ⟨-, f, hfault, hblamed⟩
  · rw [hf] at hok
    cases hok
  · rw [hf] at hfault
    cases hfault
    exact hblamed

/-- Weakening does not keep every value accepted, even if what is filled in always has a verdict. -/
theorem weakening_loses_verdict :
    ¬ ∀ (c : Context) (s : Surroundings) (p q : Pattern) (v raw raw' : Value),
      c.heap.toPattern raw = .ok (s.fill p) → c.heap.toPattern raw' = .ok (s.fill q) →
      (∀ w f, (q.matcher c w "").result ≠ .error (.fault f)) →
      (∀ w, p.Accepts c w → q.Accepts c w) →
      (s.isField = true → p.isWrapped = false ∧ q.isWrapped = false) →
      (c.accepts v raw).result = .ok true → (c.accepts v raw').result = .ok true := by
  intro hall
  have hok := hall (raisingSibling.context false "") openField (.typeTag .native .string) .any
    (.ref 0) (.ref 2) (.ref 3) rfl rfl (any_has_verdict _) (fun w _ => any_accepts _ w)
    (fun _ => ⟨rfl, rfl⟩) raisingSibling_accepts_text
  rw [raisingSibling_faults] at hok
  cases hok

end Conformance
