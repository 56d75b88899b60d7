import Conformance.Match.Run

/-!
# Outcomes of runs

What the result of a composed run says about the results of its parts. The events of a run play no
role here.
-/

namespace Conformance
namespace Run

variable {α β : Type}

def flaw : Option Reason → String → Run Unit
  | none, _ => ok ()
  | some reason, path => mismatch reason path

@[simp] theorem flaw_none (path : String) : flaw none path = ok () := rfl

@[simp] theorem flaw_some (reason : Reason) (path : String) :
    flaw (some reason) path = mismatch reason path := rfl

theorem andThen_ok_unit (r : Run Unit) : (r.andThen fun _ => ok ()) = r := andThen_pure r

theorem each_map (f : β → Run Unit) (g : α → β) (xs : List α) :
    each f (xs.map g) = each (fun x => f (g x)) xs := by
  induction xs with
  | nil => rfl
  | cons x xs ih => rw [List.map_cons, each_cons, each_cons, ih]

theorem each_congr {f g : α → Run Unit} {xs : List α} (h : ∀ x ∈ xs, f x = g x) :
    each f xs = each g xs := by
  induction xs with
  | nil => rfl
  | cons x xs ih =>
    obtain ⟨hx, hs⟩ := List.forall_mem_cons.mp h
    rw [each_cons, each_cons, hx, ih hs]

def Diverges (r : Run α) : Prop := ∃ m, r.result = .error (.mismatch m)

/-- The verdict of the run, if there is one, tells whether `p` holds. -/
def Decides (r : Run Unit) (p : Prop) : Prop := (r.result = .ok () → p) ∧ (r.Diverges → ¬ p)

/-! ### Single steps -/

@[simp] theorem result_ok (a : α) : (ok a).result = .ok a := rfl

@[simp] theorem result_fail (e : Failure) : (fail e : Run α).result = .error e := rfl

@[simp] theorem result_mismatch (reason : Reason) (path : String) :
    (mismatch reason path : Run α).result = .error (.mismatch ⟨reason, path⟩) := rfl

@[simp] theorem result_fault (f : Fault) : (fault f : Run α).result = .error (.fault f) := rfl

@[simp] theorem lift_ok (a : α) : lift (.ok a) = ok a := rfl

@[simp] theorem lift_error (f : Fault) : (lift (.error f) : Run α) = fault f := rfl

theorem flaw_result_ok_iff {flaw? : Option Reason} {path : String} :
    (flaw flaw? path).result = .ok () ↔ flaw? = none := by
  cases flaw? <;> simp

theorem flaw_result_error_iff {flaw? : Option Reason} {path : String} {e : Failure} :
    (flaw flaw? path).result = .error e ↔
      ∃ reason, flaw? = some reason ∧ e = .mismatch ⟨reason, path⟩ := by
  cases flaw? <;> simp [eq_comm]

/-! ### Sequences -/

theorem andThen_result_ok_iff {r : Run α} {next : α → Run β} {b : β} :
    (r.andThen next).result = .ok b ↔ ∃ a, r.result = .ok a ∧ (next a).result = .ok b := by
  cases h : r.result <;> simp [andThen, h]

theorem andThen_result_error_iff {r : Run α} {next : α → Run β} {e : Failure} :
    (r.andThen next).result = .error e ↔
      r.result = .error e ∨ ∃ a, r.result = .ok a ∧ (next a).result = .error e := by
  cases h : r.result <;> simp [andThen, h]

theorem unit_andThen_result_ok_iff {r : Run Unit} {next : Run β} {b : β} :
    (r.andThen fun _ => next).result = .ok b ↔ r.result = .ok () ∧ next.result = .ok b := by
  rw [andThen_result_ok_iff]
  exact ⟨fun ⟨_, hr, hn⟩ => ⟨hr, hn⟩, fun ⟨hr, hn⟩ => ⟨(), hr, hn⟩⟩

theorem unit_andThen_result_error_iff {r : Run Unit} {next : Run β} {e : Failure} :
    (r.andThen fun _ => next).result = .error e ↔
      r.result = .error e ∨ (r.result = .ok () ∧ next.result = .error e) := by
  rw [andThen_result_error_iff]
  exact or_congr_right ⟨fun ⟨_, hr, hn⟩ => ⟨hr, hn⟩, fun ⟨hr, hn⟩ => ⟨(), hr, hn⟩⟩

theorem lift_andThen_result_ok_iff {x : Except Fault α} {next : α → Run β} {b : β} :
    ((lift x).andThen next).result = .ok b ↔ ∃ a, x = .ok a ∧ (next a).result = .ok b := by
  cases x <;> simp [andThen_result_ok_iff]

theorem lift_andThen_result_error_iff {x : Except Fault α} {next : α → Run β} {e : Failure} :
    ((lift x).andThen next).result = .error e ↔
      (∃ f, x = .error f ∧ e = .fault f) ∨ ∃ a, x = .ok a ∧ (next a).result = .error e := by
  cases x with
  | error f =>
    rw [lift_error, andThen_result_error_iff]
    simp [eq_comm]
  | ok a => simp [andThen_result_error_iff]

theorem each_result_ok_iff {f : α → Run Unit} {xs : List α} :
    (each f xs).result = .ok () ↔ ∀ x ∈ xs, (f x).result = .ok () := by
  induction xs with
  | nil => simp [each_nil]
  | cons x xs ih =>
    rw [each_cons, unit_andThen_result_ok_iff, ih, List.forall_mem_cons]

/-- A list splits at an item before which all have a property: at its head, or later. -/
theorem exists_split_cons (x : α) (xs : List α) (passed stops : α → Prop) :
    (∃ before y after, x :: xs = before ++ y :: after ∧ (∀ b ∈ before, passed b) ∧ stops y) ↔
      stops x ∨ (passed x ∧
        ∃ before y after, xs = before ++ y :: after ∧ (∀ b ∈ before, passed b) ∧ stops y) := by
  constructor
  · rintro ⟨before, y, after, heq, hbefore, hy⟩
    cases before with
    | nil =>
      obtain ⟨rfl, rfl⟩ := List.cons.inj heq
      exact .inl hy
    | cons b before =>
      obtain ⟨rfl, rfl⟩ := List.cons.inj heq
      obtain ⟨hx, hrest⟩ := List.forall_mem_cons.mp hbefore
      exact .inr ⟨hx, before, y, after, rfl, hrest, hy⟩
  · rintro (hx | ⟨hx, before, y, after, rfl, hbefore, hy⟩)
    · exact ⟨[], x, xs, rfl, List.forall_mem_nil _, hx⟩
    · exact ⟨x :: before, y, after, rfl, List.forall_mem_cons.mpr ⟨hx, hbefore⟩, hy⟩

theorem each_result_error_iff {f : α → Run Unit} {xs : List α} {e : Failure} :
    (each f xs).result = .error e ↔
      ∃ before x after, xs = before ++ x :: after ∧
        (∀ b ∈ before, (f b).result = .ok ()) ∧ (f x).result = .error e := by
  induction xs with
  | nil => simp [each_nil]
  | cons x xs ih =>
    rw [each_cons, unit_andThen_result_error_iff, ih]
    exact (exists_split_cons x xs (fun y => (f y).result = .ok ())
      fun y => (f y).result = .error e).symm

/-! ### Walks that are cut short -/

theorem andThen_of_result_error {r : Run Unit} {e : Failure} (h : r.result = .error e)
    (next : Unit → Run Unit) : r.andThen next = r := by
  obtain ⟨events, result⟩ := r
  cases h
  rfl

theorem each_append (f : α → Run Unit) (xs ys : List α) :
    each f (xs ++ ys) = (each f xs).andThen fun _ => each f ys := by
  induction xs with
  | nil => rw [List.nil_append, each_nil, andThen_ok]
  | cons x xs ih => rw [List.cons_append, each_cons, each_cons, ih, andThen_assoc]

/-! ### Recovery -/

theorem recover_assoc (r : Run α) (f g : Mismatch → Run α) :
    (r.recover f).recover g = r.recover fun m => (f m).recover g := by
  rcases h : r.result with (m | fault) | a
  · simp only [recover, h]
    split
    · rw [List.append_assoc]
    · rfl
  · simp only [recover, h]
  · simp only [recover, h]

theorem recover_mismatch (reason : Reason) (path : String) (handler : Mismatch → Run α) :
    (mismatch reason path).recover handler = handler ⟨reason, path⟩ := rfl

theorem recover_result_of_diverges {r next : Run α} (h : r.Diverges) :
    (r.recover fun _ => next).result = next.result := by
  obtain ⟨m, hm⟩ := h
  simp only [recover, hm]

theorem recover_result_congr {r f g : Run α} (h : r.Diverges → f.result = g.result) :
    (r.recover fun _ => f).result = (r.recover fun _ => g).result := by
  rcases hr : r.result with (m | fault) | a
  · simp only [recover, hr]
    exact h ⟨m, hr⟩
  · simp only [recover, hr]
  · simp only [recover, hr]

theorem recover_result_ok_iff {r : Run α} {handler : Mismatch → Run α} {a : α} :
    (r.recover handler).result = .ok a ↔
      r.result = .ok a ∨ ∃ m, r.result = .error (.mismatch m) ∧ (handler m).result = .ok a := by
  rcases h : r.result with (m | f) | b <;> simp [recover, h]

theorem recover_result_mismatch_iff {r : Run α} {handler : Mismatch → Run α} {m : Mismatch} :
    (r.recover handler).result = .error (.mismatch m) ↔
      ∃ m', r.result = .error (.mismatch m') ∧ (handler m').result = .error (.mismatch m) := by
  rcases h : r.result with (m' | f) | b <;> simp [recover, h]

theorem recover_result_fault_iff {r : Run α} {handler : Mismatch → Run α} {f : Fault} :
    (r.recover handler).result = .error (.fault f) ↔
      r.result = .error (.fault f) ∨
        ∃ m, r.result = .error (.mismatch m) ∧ (handler m).result = .error (.fault f) := by
  rcases h : r.result with (m | g) | b <;> simp [recover, h]

end Run
end Conformance
