import Conformance.Proofs.FaultCause

/-!
# Faults of texts

Why the text of a value cannot be written: an integer in it has too many digits, or objects are
nested too deeply. So a path fails to be extended by a key for no other cause.
-/

namespace Conformance

/-- The cause for which a text cannot be written. -/
def Fault.IsTextual (f : Fault) : Prop := f = .digitLimit ∨ f = .nestingLimit

def Textual {α : Type} (x : Except Fault α) : Prop := ∀ f, x = .error f → f.IsTextual

def IsOversized (n : Int) : Prop := Nat.pow 10 digitLimit ≤ n.natAbs

instance (n : Int) : Decidable (IsOversized n) := inferInstanceAs (Decidable (_ ≤ _))

theorem integerText_error_iff {n : Int} {f : Fault} :
    integerText n = .error f ↔ f = .digitLimit ∧ IsOversized n := by
  rw [integerText, IsOversized]
  split
  · rename_i h
    simp only [reduceCtorEq, false_iff, not_and, Nat.not_le]
    exact fun _ => h
  · rename_i h
    simp only [Except.error.injEq]
    exact ⟨fun he => ⟨he.symm, Nat.le_of_not_lt h⟩, fun he => he.1.symm⟩

namespace Textual

variable {α β : Type}

theorem ok (a : α) : Textual (.ok a) := FaultsOnly.ok a

theorem bind {x : Except Fault α} {next : α → Except Fault β} (hx : Textual x)
    (hnext : ∀ a, Textual (next a)) : Textual (x >>= next) := FaultsOnly.bind hx hnext

theorem mapM {f : α → Except Fault β} {xs : List α} (h : ∀ x ∈ xs, Textual (f x)) :
    Textual (xs.mapM f) := FaultsOnly.mapM h

theorem integerText (n : Int) : Textual (integerText n) :=
  fun _ hf => .inl (integerText_error_iff.mp hf).1

theorem displaySimple (v : Value) : Textual v.displaySimple := by
  cases v with
  | int n => exact integerText n
  | boxed b =>
    cases b with
    | int n => exact integerText n
    | _ => exact ok _
  | range start stop step => exact bind (mapM fun n _ => integerText n) fun _ => ok _
  | bytes k content => cases k <;> exact ok _
  | _ => exact ok _

theorem displayEntries {render : Value → Except Fault String}
    (h : ∀ v, Textual (render v)) (entries : List (Value × Value)) :
    Textual (displayEntries render entries) :=
  mapM fun e _ => bind (h e.1) fun _ => bind (h e.2) fun _ => ok _

end Textual

/-! ### Displayed patterns -/

namespace Pattern

variable {render : Rendering}

theorem displayFields_textual {fields : List (String × Pattern)}
    (h : ∀ f ∈ fields, ∀ active origin, Textual (f.2.displayWith render active origin))
    (active : List Address) (origins : List Provenance) :
    Textual (displayFields render active fields origins) := by
  induction fields generalizing origins with
  | nil => exact .ok _
  | cons f rest ih =>
    obtain ⟨hf, hrest⟩ := List.forall_mem_cons.mp h
    exact .bind (hf active _) fun _ => .bind (ih hrest _) fun _ => .ok _

theorem displayChoices_textual {choices : List Pattern}
    (h : ∀ p ∈ choices, ∀ active origin, Textual (p.displayWith render active origin))
    (active : List Address) (origins : List Provenance) :
    Textual (displayChoices render active choices origins) := by
  induction choices generalizing origins with
  | nil => exact .ok _
  | cons p rest ih =>
    obtain ⟨hp, hrest⟩ := List.forall_mem_cons.mp h
    exact .bind (hp active _) fun _ => .bind (ih hrest _) fun _ => .ok _

theorem displayWith_textual (h : ∀ active v, Textual (render active v)) (p : Pattern)
    (active : List Address) (origin : Provenance) :
    Textual (p.displayWith render active origin) := by
  induction p using childrenInduction generalizing active origin with
  | step p ih =>
    rw [displayWith.eq_def]
    -- one case for each branch of the definition, in its order
    split
    · exact .ok _
    · exact .bind (h _ _) fun _ => .ok _
    · exact .ok _
    · exact .bind (h _ _) fun _ => .ok _
    · exact .bind (ih _ (List.mem_singleton_self _) _ _) fun _ => .ok _
    · refine .bind (displayFields_textual (fun f hf => ?_) _ _) fun _ => .ok _
      exact ih f.2 (List.mem_map_of_mem hf)
    · exact .bind (ih _ (List.mem_singleton_self _) _ _) fun _ => .ok _
    · exact .bind (ih _ (List.mem_singleton_self _) _ _) fun _ => .ok _
    · exact .bind (displayChoices_textual ih _ _) fun _ => .ok _
    · exact .bind (h _ _) fun _ => .ok _
    · exact .ok _

end Pattern

/-! ### Displayed values -/

namespace Heap

variable (h : Heap)

theorem displayAt_textual (depth : Nat) (active : List Address) (v : Value) :
    Textual (h.displayAt depth active v) := by
  induction depth generalizing active v with
  | zero =>
    -- the only place where the nesting limit comes from
    intro f hf
    cases hf
    exact .inr rfl
  | succ depth ih =>
    rw [displayAt.eq_def]
    dsimp only
    split
    · rename_i a
      cases h.cell a with
      | sequence k items =>
        dsimp only
        split
        · exact .ok _
        · exact .bind (.mapM fun v _ => ih (a :: active) v) fun _ => .ok _
      | dict k entries =>
        dsimp only
        split
        · exact .ok _
        · exact .bind (.displayEntries (ih (a :: active)) entries) fun _ => .ok _
      | pattern p parts => exact p.displayWith_textual ih active _
      | _ => exact .ok _
    · exact .displaySimple v

theorem text_textual (v : Value) : Textual (h.text v) := by
  have hdisplay : Textual (h.display v) := h.displayAt_textual nestingLimit [] v
  rw [text.eq_def]
  split
  any_goals exact .ok _
  · split
    any_goals exact .ok _
    · exact .bind (.displayEntries (h.displayAt_textual nestingLimit _) _) fun _ => .ok _
    · exact hdisplay
  · exact hdisplay

end Heap

theorem Path.keyAccessor_textual (h : Heap) (key : Value) : Textual (keyAccessor h key) := by
  rw [keyAccessor]
  split
  · exact .bind (.integerText _) fun _ => .ok _
  · exact .bind (h.text_textual key) fun _ => .ok _

theorem Path.keyAccessor_of_isOversized {h : Heap} {key : Value} {n : Int}
    (hn : key.integer? = some n) (hsize : IsOversized n) :
    keyAccessor h key = .error .digitLimit := by
  have htext : integerText n = .error .digitLimit := integerText_error_iff.mpr ⟨rfl, hsize⟩
  simp only [keyAccessor, hn, htext]
  rfl

/-! ### Documents -/

/-- The cause for which a document cannot be written. -/
def Fault.IsDocumentary (f : Fault) : Prop :=
  f.IsTextual ∨ f = .circular ∨ ∃ t, f = .notEncodable t ∨ f = .keyNotEncodable t

theorem Textual.documentary {α : Type} {x : Except Fault α} (hx : Textual x) :
    FaultsOnly Fault.IsDocumentary x := FaultsOnly.mono (fun _ hf => .inl hf) hx

namespace Heap

variable (h : Heap) (style : DocumentStyle)

theorem scalarDocument?_textual {v : Value} {text : Except Fault String}
    (hv : scalarDocument? style v = some text) : Textual text := by
  cases v with
  | int n =>
    rw [scalarDocument?, Option.some.injEq] at hv
    rw [← hv]
    exact .integerText n
  | boxed b =>
    cases b with
    | int n =>
      rw [scalarDocument?, Option.some.injEq] at hv
      rw [← hv]
      exact .integerText n
    | float x | str s =>
      cases hv
      exact .ok _
  | null | bool b | float x | str s =>
    cases hv
    exact .ok _
  | _ => cases hv

theorem documentKey_faultsOnly (key : Value) :
    FaultsOnly Fault.IsDocumentary (h.documentKey key) := by
  have hinteger : ∀ n, FaultsOnly Fault.IsDocumentary (Conformance.integerText n) :=
    fun n => (Textual.integerText n).documentary
  have hother : ∀ t, FaultsOnly Fault.IsDocumentary
      (.error (.keyNotEncodable t) : Except Fault String) := by
    intro t
    exact .error (.inr (.inr ⟨t, .inr rfl⟩))
  cases key with
  | int n => exact hinteger n
  | boxed b =>
    cases b with
    | int n => exact hinteger n
    | float x | str s => exact .ok _
  | null | bool b | float x | str s => exact .ok _
  | _ => exact hother _

theorem otherDocument_faultsOnly (v : Value) :
    FaultsOnly Fault.IsDocumentary (h.otherDocument style v) := by
  unfold otherDocument
  cases style.unencodable with
  | refuse => exact .error (.inr (.inr ⟨_, .inl rfl⟩))
  | describe =>
    exact .bind (h.text_textual v).documentary fun _ => .ok _

theorem documentAt_faultsOnly (depth : Nat) (active : List Address) (v : Value) :
    FaultsOnly Fault.IsDocumentary (h.documentAt style depth active v) := by
  induction depth generalizing active v with
  | zero => exact .error (.inl (.inr rfl))
  | succ depth ih =>
    rw [documentAt.eq_def]
    dsimp only
    split
    · rename_i text hv
      exact (scalarDocument?_textual style hv).documentary
    · split
      · split
        · refine .ite (h.otherDocument_faultsOnly style _) (.ite (.ok _) (.ite ?_ ?_))
          · exact .error (.inr (.inl rfl))
          · exact .bind (.mapM fun w _ => ih _ w) fun _ => .ok _
        · refine .ite (h.otherDocument_faultsOnly style _) (.ite (.ok _) (.ite ?_ ?_))
          · exact .error (.inr (.inl rfl))
          · refine .bind (.mapM fun e _ => ?_) fun _ => .ok _
            exact .bind (h.documentKey_faultsOnly e.1) fun _ => .bind (ih _ e.2) fun _ => .ok _
        · exact h.otherDocument_faultsOnly style _
      · exact h.otherDocument_faultsOnly style _

theorem renderLiteral_faultsOnly (v : Value) :
    FaultsOnly Fault.IsDocumentary (h.renderLiteral v) := by
  unfold renderLiteral
  split
  · exact .ok _
  · exact h.documentAt_faultsOnly .literal nestingLimit [] v

end Heap

end Conformance
