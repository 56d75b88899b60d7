import Conformance.Proofs.FieldPairs
import Conformance.Proofs.Recipe
import Conformance.Proofs.Stumble

/-!
# Recipes that misfire

What keeps a pattern from being built. A malformed operand is reported as such, unless one of two
things comes first: what is wrong with it cannot be worded, for it holds an integer with too many
digits, or it is a tuple of fields of which an element is refused as an entry of a dictionary. The
first operand at fault decides.
-/

namespace Conformance

/-! ### Expected faults -/

/-- The fault says that a pattern is malformed, or that raw values are nested too deeply. -/
def Fault.IsMalformation (f : Fault) : Prop := (∃ flaw, f = .badPattern flaw) ∨ f = .nestingLimit

/-- The computation fails with the fault, unless raw values are nested too deeply for it. -/
def FailsWith {α : Type} (f : Fault) (x : Except Fault α) : Prop :=
  x = .error f ∨ x = .error .nestingLimit

namespace FailsWith

variable {α β : Type} {f : Fault} {x : Except Fault α}

theorem bind (hx : FailsWith f x) (next : α → Except Fault β) : FailsWith f (x >>= next) := by
  rcases hx with rfl | rfl
  · exact .inl rfl
  · exact .inr rfl

/-- What comes first may only fail for its depth. -/
theorem after {a : α} {next : α → Except Fault β} (hx : x = .ok a ∨ x = .error .nestingLimit)
    (hnext : FailsWith f (next a)) : FailsWith f (x >>= next) := by
  rcases hx with rfl | rfl
  · exact hnext
  · exact .inr rfl

end FailsWith

namespace Heap

variable {h : Heap} {f : Fault}

/-! ### Raw values that cannot be worded -/

/-- The entry declares a field: it has a name, and its value stands for a pattern. -/
def Declares (h : Heap) (e : Value × Value) : Prop :=
  (∃ name, e.1.string? = some name) ∧ ∃ p, h.toPattern e.2 = .ok p

mutual

/-- What is wrong with a raw value cannot be worded: what would have to be shown, a list without
exactly one element or a key that is no text, holds an integer with too many digits. -/
inductive Unworded (h : Heap) : Value → Prop where
  | list {a : Address} {k : SequenceKind} {items : List Value} (ha : h.cell a = .sequence k items)
    (hk : k.isShorthand = true) (hitems : ∀ x, items ≠ [x])
    (hshown : h.display (.ref a) = .error .digitLimit) : Unworded h (.ref a)
  | element {a : Address} {k : SequenceKind} {x : Value} (ha : h.cell a = .sequence k [x])
    (hk : k.isShorthand = true) (hx : Unworded h x) : Unworded h (.ref a)
  | fields {a : Address} {k : DictKind} {entries : List (Value × Value)}
    (ha : h.cell a = .dict k entries) (hk : k.isShorthand = true)
    (hentries : UnwordedEntries h entries) : Unworded h (.ref a)

/-- What is wrong with the first entry that declares no field cannot be worded. -/
inductive UnwordedEntries (h : Heap) : List (Value × Value) → Prop where
  | key {e : Value × Value} {rest : List (Value × Value)} (hkey : e.1.string? = none)
    (hshown : h.display e.1 = .error .digitLimit) : UnwordedEntries h (e :: rest)
  | value {e : Value × Value} {rest : List (Value × Value)} {name : String}
    (hkey : e.1.string? = some name) (hx : Unworded h e.2) : UnwordedEntries h (e :: rest)
  | later {e : Value × Value} {rest : List (Value × Value)} (he : h.Declares e)
    (hrest : UnwordedEntries h rest) : UnwordedEntries h (e :: rest)

end

/-! ### Faults of raw values -/

mutual

theorem Unworded.failsWith {v : Value} (hv : h.Unworded v) (n : Nat) :
    FailsWith .digitLimit (h.toPatternAt n v) := by
  cases n with
  | zero => exact .inr rfl
  | succ n =>
    cases hv with
    | list ha hk hitems hshown =>
      rw [toPatternAt_list ha hk hitems]
      exact .bind (.inl hshown) _
    | element ha hk hx =>
      rw [toPatternAt_element ha hk]
      exact .bind (hx.failsWith n) _
    | fields ha hk hentries =>
      rw [toPatternAt_dict ha hk]
      exact .bind (hentries.failsWith n) _

theorem UnwordedEntries.failsWith {entries : List (Value × Value)} (he : h.UnwordedEntries entries)
    (n : Nat) : FailsWith .digitLimit (h.declareFields (h.toPatternAt n) entries) := by
  cases he with
  | key hkey hshown =>
    rw [declareFields_key hkey]
    exact .bind (.inl hshown) _
  | value hkey hx =>
    rw [declareFields_field hkey]
    exact .bind (hx.failsWith n) _
  | later hdeclares hrest =>
    obtain ⟨⟨name, hname⟩, p, hp⟩ := hdeclares
    rw [declareFields_field hname]
    exact .after (toPatternAt_of_ok hp) (.bind (hrest.failsWith n) _)

end

/-- Texts that have to be shown are the only ones that can be lacking. -/
theorem display_error {v : Value} (hf : h.display v = .error f) :
    f.IsMalformation ∨ f = .digitLimit := by
  rcases h.displayAt_textual nestingLimit [] v f hf with rfl | rfl
  · exact .inr rfl
  · exact .inl (.inr rfl)

theorem declareFields_error {n : Nat} (hn : n ≤ nestingLimit)
    (hbuild : ∀ v g, h.toPatternAt n v = .error g →
      g.IsMalformation ∨ g = .digitLimit ∧ h.Unworded v)
    {entries : List (Value × Value)} (hf : h.declareFields (h.toPatternAt n) entries = .error f) :
    f.IsMalformation ∨ f = .digitLimit ∧ h.UnwordedEntries entries := by
  induction entries with
  | nil => cases hf
  | cons e rest ih =>
    cases hkey : e.1.string? with
    | none =>
      rw [declareFields_key hkey, bind_eq_error_iff] at hf
      rcases hf with hshown | ⟨shown, -, hf⟩
      · rcases display_error hshown with hmal | rfl
        · exact .inl hmal
        · exact .inr ⟨rfl, .key hkey hshown⟩
      · cases hf
        exact .inl (.inl ⟨_, rfl⟩)
    | some name =>
      rw [declareFields_field hkey, bind_eq_error_iff] at hf
      rcases hf with hvalue | ⟨p, hp, hf⟩
      · rcases hbuild _ _ hvalue with hmal | ⟨hlimit, hx⟩
        · exact .inl hmal
        · exact .inr ⟨hlimit, .value hkey hx⟩
      · rw [bind_eq_error_iff] at hf
        rcases hf with hrest | ⟨_, -, hf⟩
        · rcases ih hrest with hmal | ⟨hlimit, hrest⟩
          · exact .inl hmal
          · exact .inr ⟨hlimit, .later ⟨⟨name, hkey⟩, p, toPatternAt_mono hp hn⟩ hrest⟩
        · cases hf

/-- A raw value that stands for no pattern is malformed, unless that cannot be worded. -/
theorem toPatternAt_error {n : Nat} (hn : n ≤ nestingLimit) {v : Value}
    (hf : h.toPatternAt n v = .error f) :
    f.IsMalformation ∨ f = .digitLimit ∧ h.Unworded v := by
  induction n generalizing v f with
  | zero =>
    cases hf
    exact .inl (.inr rfl)
  | succ n ih =>
    have hless : n ≤ nestingLimit := Nat.le_of_succ_le hn
    cases h.rawForm v with
    | atom _ hv | stored _ hv => cases (hv n).symm.trans hf
    | unknown hv =>
      cases (hv n).symm.trans hf
      exact .inl (.inl ⟨_, rfl⟩)
    | element ha hk =>
      rw [toPatternAt_element ha hk, bind_eq_error_iff] at hf
      rcases hf with hx | ⟨_, -, hf⟩
      · rcases ih hless hx with hmal | ⟨hlimit, hx⟩
        · exact .inl hmal
        · exact .inr ⟨hlimit, .element ha hk hx⟩
      · cases hf
    | list ha hk hitems =>
      rw [toPatternAt_list ha hk hitems, bind_eq_error_iff] at hf
      rcases hf with hshown | ⟨_, -, hf⟩
      · rcases display_error hshown with hmal | rfl
        · exact .inl hmal
        · exact .inr ⟨rfl, .list ha hk hitems hshown⟩
      · cases hf
        exact .inl (.inl ⟨_, rfl⟩)
    | fields ha hk =>
      rw [toPatternAt_dict ha hk, bind_eq_error_iff] at hf
      rcases hf with hentries | ⟨_, -, hf⟩
      · have hvalues : ∀ v g, h.toPatternAt n v = .error g →
            g.IsMalformation ∨ g = .digitLimit ∧ h.Unworded v := fun _ _ hg => ih hless hg
        rcases declareFields_error hless hvalues hentries with hmal | ⟨hlimit, hentries⟩
        · exact .inl hmal
        · exact .inr ⟨hlimit, .fields ha hk hentries⟩
      · cases hf

/-! ### Operands that declare fields -/

/-- An operand that declares no fields is malformed or holds an element that is refused. -/
theorem fieldEntries_error {v : Value} (hf : h.fieldEntries v = .error f) :
    f.IsMalformation ∨ ∃ a k before item after held, v = .ref a ∧
      h.cell a = .sequence k (before ++ item :: after) ∧ k.family = .tuple ∧
      h.collectPairs h.sizedPair 0 [] before = .ok held ∧
      h.takePair before.length held item = .error f := by
  cases v with
  | ref a =>
    cases ha : h.cell a with
    | sequence k items =>
      by_cases hk : k.family = .tuple
      · rw [fieldEntries_tuple ha hk, collectPairs_error_iff] at hf
        obtain ⟨before, item, after, held, rfl, hbefore, hitem⟩ := hf
        rw [Nat.zero_add] at hitem
        exact .inr ⟨a, k, before, item, after, held, rfl, ha, hk, hbefore, hitem⟩
      · cases k with
        | tuple | point => exact absurd rfl hk
        | _ =>
          simp only [fieldEntries, ha] at hf
          cases hf
          exact .inl (.inl ⟨_, rfl⟩)
    | dict k entries =>
      simp only [fieldEntries, ha] at hf
      cases hf
    | _ =>
      simp only [fieldEntries, ha] at hf
      cases hf
      exact .inl (.inl ⟨_, rfl⟩)
  | _ =>
    cases hf
    exact .inl (.inl ⟨_, rfl⟩)

end Heap

namespace Recipe

variable {h : Heap} {r : Recipe} {f : Fault}

/-! ### Faults of recipes -/

/-- What keeps a pattern from being built without being said to be malformed: an operand that cannot
be worded, or an element of a tuple of fields that is no entry of a dictionary. -/
inductive Misfires (h : Heap) : Recipe → Fault → Prop where
  | operand {r : Recipe} {v : Value} (hr : r.operand? = some v) (hv : h.Unworded v) :
    Misfires h r .digitLimit
  | choice {before after : List Value} {v : Value}
    (hbefore : ∀ x ∈ before, ∃ p, h.toPattern x = .ok p) (hv : h.Unworded v) :
    Misfires h (oneOf (before ++ v :: after)) .digitLimit
  | tag {o : Origin} {name : Value} (hname : name.text?.bind TypeKind.ofName? = none)
    (hshown : h.display name = .error .digitLimit) : Misfires h (typeTag o name) .digitLimit
  | field {u : UnknownKeys} {v : Value} {entries : List (Value × Value)}
    (hentries : h.fieldEntries v = .ok entries) (hunworded : h.UnwordedEntries entries) :
    Misfires h (object u v) .digitLimit
  | pair {u : UnknownKeys} {a : Address} {k : SequenceKind} {before after : List Value}
    {item : Value} {held : List (Value × Value)} {f : Fault}
    (ha : h.cell a = .sequence k (before ++ item :: after)) (hk : k.family = .tuple)
    (hbefore : h.collectPairs h.sizedPair 0 [] before = .ok held)
    (hitem : h.takePair before.length held item = .error f) (hf : f ≠ .nestingLimit) :
    Misfires h (object u (.ref a)) f

theorem toPattern_error {v : Value} (hf : h.toPattern v = .error f) :
    f.IsMalformation ∨ f = .digitLimit ∧ h.Unworded v :=
  Heap.toPatternAt_error (Nat.le_refl nestingLimit) hf

theorem mapM_toPattern_error {choices : List Value} (hf : choices.mapM h.toPattern = .error f) :
    ∃ before v after, choices = before ++ v :: after ∧
      (∀ x ∈ before, ∃ p, h.toPattern x = .ok p) ∧ h.toPattern v = .error f := by
  induction choices with
  | nil => cases hf
  | cons v rest ih =>
    rw [List.mapM_cons, bind_eq_error_iff] at hf
    rcases hf with hv | ⟨p, hp, hf⟩
    · exact ⟨[], v, rest, rfl, fun _ hx => absurd hx List.not_mem_nil, hv⟩
    · rw [bind_eq_error_iff] at hf
      rcases hf with hrest | ⟨_, -, hf⟩
      · obtain ⟨before, w, after, rfl, hbefore, hw⟩ := ih hrest
        exact ⟨v :: before, w, after, rfl, List.forall_mem_cons.mpr ⟨⟨p, hp⟩, hbefore⟩, hw⟩
      · cases hf

theorem mapM_toPattern_failsWith {before after : List Value} {v : Value}
    (hbefore : ∀ x ∈ before, ∃ p, h.toPattern x = .ok p) (hv : FailsWith f (h.toPattern v)) :
    FailsWith f ((before ++ v :: after).mapM h.toPattern) := by
  induction before with
  | nil =>
    rw [List.nil_append, List.mapM_cons]
    exact hv.bind _
  | cons x before ih =>
    obtain ⟨⟨p, hp⟩, hbefore⟩ := List.forall_mem_cons.mp hbefore
    rw [List.cons_append, List.mapM_cons]
    exact .after (.inl hp) ((ih hbefore).bind _)

theorem Misfires.failsWith (hr : r.Misfires h f) : FailsWith f (r.build h) := by
  cases hr with
  | operand hv hunworded =>
    rw [build_of_operand? hv]
    exact (hunworded.failsWith nestingLimit).bind _
  | @choice before after v hbefore hunworded =>
    have hempty : (before ++ v :: after).isEmpty = false := by cases before <;> rfl
    rw [build, Heap.choicePattern, hempty]
    exact (mapM_toPattern_failsWith hbefore (hunworded.failsWith nestingLimit)).bind _
  | tag hname hshown =>
    rw [build, Heap.tagPattern, hname]
    exact .bind (.inl hshown) _
  | field hentries hunworded =>
    rw [build, Heap.objectPattern, hentries]
    exact .bind (hunworded.failsWith nestingLimit) _
  | @pair _ a _ _ _ _ _ _ ha hk hbefore hitem _ =>
    have hrefused : h.fieldEntries (.ref a) = .error f := by
      rw [Heap.fieldEntries_tuple ha hk, Heap.collectPairs_error_iff]
      exact ⟨_, _, _, _, rfl, hbefore, by rwa [Nat.zero_add]⟩
    rw [build, Heap.objectPattern, hrefused]
    exact .inl rfl

theorem Misfires.kind_ne (hr : r.Misfires h f) : f.kind ≠ "PatternError" ∧ f ≠ .nestingLimit := by
  cases hr with
  | pair _ _ _ hitem hf => exact ⟨(h.takePair_faultsOnly _ _ _ f hitem).kind_ne, hf⟩
  | _ => simp [Fault.kind]

theorem misfires_of_tag_error {o : Origin} {name : Value} (hf : h.tagPattern o name = .error f) :
    f.IsMalformation ∨ (typeTag o name).Misfires h f := by
  rw [Heap.tagPattern] at hf
  cases hname : name.text?.bind TypeKind.ofName? with
  | some k =>
    rw [hname] at hf
    cases hf
  | none =>
    simp only [hname, bind_eq_error_iff] at hf
    rcases hf with hshown | ⟨_, -, hf⟩
    · rcases Heap.display_error hshown with hmal | rfl
      · exact .inl hmal
      · exact .inr (.tag hname hshown)
    · cases hf
      exact .inl (.inl ⟨_, rfl⟩)

theorem misfires_of_object_error {u : UnknownKeys} {v : Value}
    (hf : h.objectPattern u v = .error f) : f.IsMalformation ∨ (object u v).Misfires h f := by
  rw [Heap.objectPattern, bind_eq_error_iff] at hf
  rcases hf with hrefused | ⟨entries, hentries, hf⟩
  · rcases Heap.fieldEntries_error hrefused with
      hmal | ⟨a, k, before, item, after, held, rfl, ha, hk, hbefore, hitem⟩
    · exact .inl hmal
    · by_cases hlimit : f = .nestingLimit
      · exact .inl (.inr hlimit)
      · exact .inr (.pair ha hk hbefore hitem hlimit)
  · rw [bind_eq_error_iff] at hf
    rcases hf with hfields | ⟨_, -, hf⟩
    · have hvalues : ∀ v g, h.toPatternAt nestingLimit v = .error g →
          g.IsMalformation ∨ g = .digitLimit ∧ h.Unworded v := fun _ _ => toPattern_error
      rcases Heap.declareFields_error (Nat.le_refl _) hvalues hfields with hmal | ⟨rfl, he⟩
      · exact .inl hmal
      · exact .inr (.field hentries he)
    · cases hf

theorem misfires_of_choice_error {choices : List Value} (hf : h.choicePattern choices = .error f) :
    f.IsMalformation ∨ (oneOf choices).Misfires h f := by
  rw [Heap.choicePattern] at hf
  split at hf
  · cases hf
    exact .inl (.inl ⟨_, rfl⟩)
  · rw [bind_eq_error_iff] at hf
    rcases hf with hchoices | ⟨_, -, hf⟩
    · obtain ⟨before, v, after, rfl, hbefore, hv⟩ := mapM_toPattern_error hchoices
      rcases toPattern_error hv with hmal | ⟨rfl, hunworded⟩
      · exact .inl hmal
      · exact .inr (.choice hbefore hunworded)
    · cases hf

theorem misfires_of_error (hf : r.build h = .error f) : f.IsMalformation ∨ r.Misfires h f := by
  cases hoperand : r.operand? with
  | some v =>
    rw [build_of_operand? hoperand, bind_eq_error_iff] at hf
    rcases hf with hv | ⟨_, -, hf⟩
    · rcases toPattern_error hv with hmal | ⟨rfl, hunworded⟩
      · exact .inl hmal
      · exact .inr (.operand hoperand hunworded)
    · cases hf
  | none =>
    cases r with
    | raw v | arrayOf v | objectWithValues v | wrap o w v => cases hoperand
    | bare p hp => cases hf
    | typeTag o name => exact misfires_of_tag_error hf
    | object u v => exact misfires_of_object_error hf
    | oneOf choices => exact misfires_of_choice_error hf
    | satisfies g =>
      rw [build, Heap.predicatePattern] at hf
      split at hf
      · cases hf
      · cases hf
        exact .inl (.inl ⟨_, rfl⟩)

/-- A pattern is built, or is said to be malformed or nested too deeply, or the recipe misfires: an
operand that is at fault cannot be worded, or a tuple of fields holds an element that is no entry of
a dictionary. A recipe that misfires says so with a fault of its own and never that the pattern is
malformed. -/
theorem built_unless_malformed_or_misfires (h : Heap) (r : Recipe) :
    ((∃ p, r.build h = .ok p) ∨ ∃ f, r.build h = .error f ∧
        (f.kind = "PatternError" ∨ f = .nestingLimit ∨ r.Misfires h f)) ∧
      ∀ f, r.Misfires h f → f.kind ≠ "PatternError" ∧ f ≠ .nestingLimit ∧
        FailsWith f (r.build h) := by
  refine ⟨?_, fun f hf => ⟨hf.kind_ne.1, hf.kind_ne.2, hf.failsWith⟩⟩
  cases hbuild : r.build h with
  | ok p => exact .inl ⟨p, rfl⟩
  | error f =>
    refine .inr ⟨f, rfl, ?_⟩
    rcases misfires_of_error hbuild with (⟨flaw, rfl⟩ | rfl) | hmisfires
    · exact .inl rfl
    · exact .inr (.inl rfl)
    · exact .inr (.inr hmisfires)

end Recipe

/-- A list of two integers, and a tuple of fields that holds no pair. -/
def clumsyOperands (n : Int) : Heap :=
  ⟨#[.sequence .list [.int n, .int 1], .sequence .tuple [.int 1]]⟩

theorem clumsyOperands_display {n : Int} (hn : IsOversized n) :
    (clumsyOperands n).display (.ref 0) = .error .digitLimit := by
  have htext : integerText n = .error .digitLimit := integerText_error_iff.mpr ⟨rfl, hn⟩
  have hdepth : ∀ depth, (clumsyOperands n).displayAt (depth + 2) [] (.ref 0) =
      .error .digitLimit := by
    intro depth
    have hint : ∀ active, (clumsyOperands n).displayAt (depth + 1) active (.int n) =
        .error .digitLimit := fun _ => htext
    rw [Heap.displayAt]
    simp only [show (clumsyOperands n).cell 0 = .sequence .list [.int n, .int 1] from rfl,
      List.mapM_cons, hint]
    rfl
  exact hdepth (nestingLimit - 2)

theorem clumsyOperands_misfire :
    (Recipe.arrayOf (.ref 0)).Misfires (clumsyOperands leastOversized) .digitLimit ∧
      FailsWith .digitLimit ((Recipe.arrayOf (.ref 0)).build (clumsyOperands leastOversized)) ∧
      (Recipe.object .reject (.ref 1)).Misfires (clumsyOperands leastOversized)
        (.pairNotSequence 0) ∧
      FailsWith (.pairNotSequence 0)
        ((Recipe.object .reject (.ref 1)).build (clumsyOperands leastOversized)) := by
  have hsize : IsOversized leastOversized := isOversized_leastOversized
  generalize leastOversized = n at hsize ⊢
  have hlist : (Recipe.arrayOf (.ref 0)).Misfires (clumsyOperands n) .digitLimit :=
    .operand rfl (.list (k := .list) rfl rfl (by simp) (clumsyOperands_display hsize))
  have hcell : (clumsyOperands n).cell 1 = .sequence .tuple ([] ++ .int 1 :: []) := rfl
  have hpair : (Recipe.object .reject (.ref 1)).Misfires (clumsyOperands n) (.pairNotSequence 0) :=
    .pair hcell rfl rfl rfl (by simp)
  refine ⟨hlist, ?_, hpair, ?_⟩
  · exact ((Recipe.built_unless_malformed_or_misfires _ _).2 _ hlist).2.2
  · exact ((Recipe.built_unless_malformed_or_misfires _ _).2 _ hpair).2.2

end Conformance
