import Conformance.Proofs.PatternTree

/-!
# Causes of faults

A computation that fails says why, and each kind of work has causes of its own. To compare values
fails if they are nested too deeply or if a decimal number refuses to be compared; to look at the
operand of a class pattern fails if it is no class and no collection of classes.
-/

namespace Conformance

/-- All faults of the computation are good ones. -/
def FaultsOnly {α : Type} (good : Fault → Prop) (x : Except Fault α) : Prop :=
  ∀ f, x = .error f → good f

namespace FaultsOnly

variable {α β : Type} {good better : Fault → Prop}

theorem ok (a : α) : FaultsOnly good (.ok a) := by
  intro f hf
  cases hf

theorem error {f : Fault} (hf : good f) : FaultsOnly good (.error f : Except Fault α) := by
  intro g hg
  cases hg
  exact hf

theorem mono {x : Except Fault α} (hmono : ∀ f, good f → better f) (hx : FaultsOnly good x) :
    FaultsOnly better x := fun f hf => hmono f (hx f hf)

theorem bind {x : Except Fault α} {next : α → Except Fault β} (hx : FaultsOnly good x)
    (hnext : ∀ a, FaultsOnly good (next a)) : FaultsOnly good (x >>= next) := by
  intro f hf
  cases hres : x with
  | error g =>
    rw [hres] at hf
    cases hf
    exact hx f hres
  | ok a =>
    rw [hres] at hf
    exact hnext a f hf

theorem ite {p : Prop} [Decidable p] {x y : Except Fault α} (hx : FaultsOnly good x)
    (hy : FaultsOnly good y) : FaultsOnly good (if p then x else y) := by
  split
  · exact hx
  · exact hy

theorem mapM {f : α → Except Fault β} {xs : List α} (h : ∀ x ∈ xs, FaultsOnly good (f x)) :
    FaultsOnly good (xs.mapM f) := by
  induction xs with
  | nil => exact ok []
  | cons x xs ih =>
    obtain ⟨hx, hs⟩ := List.forall_mem_cons.mp h
    rw [List.mapM_cons]
    exact bind hx fun b => bind (ih hs) fun bs => ok (b :: bs)

theorem anyM {f : α → Except Fault Bool} (h : ∀ x, FaultsOnly good (f x)) (xs : List α) :
    FaultsOnly good (xs.anyM f) := by
  induction xs with
  | nil => exact ok false
  | cons x xs ih =>
    rw [List.anyM_cons]
    refine bind (h x) fun b => ?_
    cases b with
    | true => exact ok true
    | false => exact ih

end FaultsOnly

/-! ### Comparisons -/

section Comparisons

variable {good : Fault → Prop} {eq : Value → Value → Except Fault Bool}

theorem equalItems_faultsOnly (heq : ∀ x y, FaultsOnly good (eq x y)) (xs ys : List Value) :
    FaultsOnly good (equalItems eq xs ys) := by
  induction xs generalizing ys with
  | nil => cases ys <;> exact .ok _
  | cons x xs ih =>
    cases ys with
    | nil => exact .ok _
    | cons y ys => exact .bind (heq x y) fun _ => .ite (ih ys) (.ok _)

theorem itemsWithin_faultsOnly (heq : ∀ x y, FaultsOnly good (eq x y)) (ys xs : List Value) :
    FaultsOnly good (itemsWithin eq ys xs) := by
  induction xs with
  | nil => exact .ok _
  | cons x xs ih => exact .bind (.anyM (heq x) ys) fun _ => .ite ih (.ok _)

theorem lookupEntry_faultsOnly (heq : ∀ x y, FaultsOnly good (eq x y)) (key : Value)
    (entries : List (Value × Value)) : FaultsOnly good (lookupEntry eq key entries) := by
  induction entries with
  | nil => exact .ok _
  | cons e rest ih => exact .bind (heq e.1 key) fun _ => .ite (.ok _) ih

theorem entriesWithin_faultsOnly (heq : ∀ x y, FaultsOnly good (eq x y))
    (bs as : List (Value × Value)) : FaultsOnly good (entriesWithin eq bs as) := by
  induction as with
  | nil => exact .ok _
  | cons e rest ih =>
    refine .bind (lookupEntry_faultsOnly heq e.1 bs) fun found => ?_
    cases found with
    | none => exact .ok _
    | some w => exact .bind (heq e.2 w) fun _ => .ite ih (.ok _)

theorem equalEntries_faultsOnly (heq : ∀ x y, FaultsOnly good (eq x y)) (inOrder : Bool)
    (as bs : List (Value × Value)) : FaultsOnly good (equalEntries eq inOrder as bs) := by
  unfold equalEntries
  refine .ite (.ok _) (.bind (entriesWithin_faultsOnly heq bs as) fun _ => .ite ?_ (.ok _))
  exact .ite (equalItems_faultsOnly heq _ _) (.ok _)

theorem SequenceFamily.equalWith_faultsOnly (heq : ∀ x y, FaultsOnly good (eq x y))
    (xs ys : List Value) (family : SequenceFamily) :
    FaultsOnly good (family.equalWith eq xs ys) := by
  cases family with
  | tuple => exact equalItems_faultsOnly heq xs ys
  | set => exact .ite (itemsWithin_faultsOnly heq ys xs) (.ok _)
  | list | deque => exact .ite (equalItems_faultsOnly heq xs ys) (.ok _)

namespace Pattern

theorem equalFields_faultsOnly {fs : List (String × Pattern)}
    (h : ∀ f ∈ fs, ∀ q, FaultsOnly good (f.2.equalWith eq q)) (gs : List (String × Pattern)) :
    FaultsOnly good (equalFields eq fs gs) := by
  induction fs generalizing gs with
  | nil => cases gs <;> exact .ok _
  | cons f fs ih =>
    cases gs with
    | nil => exact .ok _
    | cons g gs =>
      obtain ⟨hf, hrest⟩ := List.forall_mem_cons.mp h
      exact .ite (.bind (hf g.2) fun _ => .ite (ih hrest gs) (.ok _)) (.ok _)

theorem equalChoices_faultsOnly {ps : List Pattern}
    (h : ∀ p ∈ ps, ∀ q, FaultsOnly good (p.equalWith eq q)) (qs : List Pattern) :
    FaultsOnly good (equalChoices eq ps qs) := by
  induction ps generalizing qs with
  | nil => cases qs <;> exact .ok _
  | cons p ps ih =>
    cases qs with
    | nil => exact .ok _
    | cons q qs =>
      obtain ⟨hp, hrest⟩ := List.forall_mem_cons.mp h
      exact .bind (hp q) fun _ => .ite (ih hrest qs) (.ok _)

theorem equalWith_faultsOnly (heq : ∀ x y, FaultsOnly good (eq x y)) (p q : Pattern) :
    FaultsOnly good (p.equalWith eq q) := by
  induction p using childrenInduction generalizing q with
  | step p ih =>
    cases p with
    | literal v =>
      cases q with
      | literal w => exact heq v w
      | _ => exact .ok _
    | instanceOf v =>
      cases q with
      | instanceOf w => exact heq v w
      | _ => exact .ok _
    | satisfies v =>
      cases q with
      | satisfies w => exact heq v w
      | _ => exact .ok _
    | arrayOf p =>
      cases q with
      | arrayOf q => exact ih p (List.mem_singleton_self p) q
      | _ => exact .ok _
    | objectWithValues p =>
      cases q with
      | objectWithValues q => exact ih p (List.mem_singleton_self p) q
      | _ => exact .ok _
    | wrap o w p =>
      cases q with
      | wrap o' w' q => exact .ite (ih p (List.mem_singleton_self p) q) (.ok _)
      | _ => exact .ok _
    | object u fields =>
      cases q with
      | object u' fields' =>
        have hfields : ∀ f ∈ fields, ∀ q, FaultsOnly good (f.2.equalWith eq q) := by
          intro f hf
          exact ih f.2 (List.mem_map_of_mem hf)
        exact .ite (equalFields_faultsOnly hfields fields') (.ok _)
      | _ => exact .ok _
    | oneOf choices =>
      cases q with
      | oneOf choices' => exact equalChoices_faultsOnly ih choices'
      | _ => exact .ok _
    | _ => cases q <;> exact .ok _

end Pattern

theorem Cell.equalWith_faultsOnly (heq : ∀ x y, FaultsOnly good (eq x y)) (c d : Cell) :
    FaultsOnly good (c.equalWith eq d) := by
  cases c with
  | sequence j xs =>
    cases d with
    | sequence k ys =>
      have hfamily := fun xs ys => SequenceFamily.equalWith_faultsOnly heq xs ys j.family
      exact .ite (.ok _) (.ite (hfamily ys xs) (hfamily xs ys))
    | _ => exact .ok _
  | dict j as =>
    cases d with
    | dict k bs =>
      have hentries := equalEntries_faultsOnly heq (j.comparesOrder k)
      exact .ite (hentries bs as) (hentries as bs)
    | _ => exact .ok _
  | pattern p _ =>
    cases d with
    | pattern q _ => exact p.equalWith_faultsOnly heq q
    | _ => exact .ok _
  | _ => cases d <;> exact .ok _

end Comparisons

/-- Why values cannot be compared. -/
def Fault.IsComparative (f : Fault) : Prop := f = .nestingLimit ∨ f = .incomparable

namespace Heap

variable (h : Heap)

theorem equalAt_faultsOnly (depth : Nat) (v w : Value) :
    FaultsOnly Fault.IsComparative (h.equalAt depth v w) := by
  induction depth generalizing v w with
  | zero => exact .error (.inl rfl)
  | succ depth ih =>
    rw [equalAt.eq_def]
    dsimp only
    split
    · refine .ite (.ok _) (Cell.equalWith_faultsOnly (fun x y => ?_) _ _)
      exact .ite (.ok _) (ih x y)
    · split
      · exact .ok _
      · exact .ite (.error (.inr rfl)) (.ok _)

theorem equal_faultsOnly (v w : Value) : FaultsOnly Fault.IsComparative (h.equal v w) :=
  h.equalAt_faultsOnly nestingLimit v w

end Heap

/-! ### Operands of class patterns -/

/-- Why the operand of a class pattern cannot be looked at. -/
def Fault.IsOperand (f : Fault) : Prop :=
  f = .notClass ∨ f = .parameterizedClass ∨ f = .nestingLimit

theorem Heap.isInstanceOf_faultsOnly (h : Heap) (v target : Value) :
    FaultsOnly Fault.IsOperand (h.isInstanceOf v target) := by
  have hdepth : ∀ depth target, FaultsOnly Fault.IsOperand (h.isInstanceOfAt v depth target) := by
    intro depth
    induction depth with
    | zero => exact fun _ => .error (.inr (.inr rfl))
    | succ depth ih =>
      intro target
      rw [isInstanceOfAt.eq_def]
      dsimp only
      split
      · exact .ok _
      · exact .ok _
      · exact .error (.inr (.inl rfl))
      · split
        · exact .anyM ih _
        · exact .anyM ih _
        · exact .error (.inl rfl)
      · exact .error (.inl rfl)
  exact hdepth nestingLimit target

end Conformance
