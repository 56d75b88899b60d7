import Conformance.Pattern.Build
import Mathlib.Data.List.Forall2

/-!
# Raw values

When a raw value stands for a pattern, and for which one: a list of one element if the element does,
and a dictionary if all its keys are texts and all its values do. To look deeper changes nothing
about a pattern that was found, so all that stands where a pattern is wanted stands for one by
itself.
-/

namespace Conformance
namespace Heap

variable {h : Heap} {a : Address} {n : Nat} {p : Pattern}

/-! ### Fields -/

theorem declareFields_cons_eq_ok_iff {build : Value → Except Fault Pattern} {e : Value × Value}
    {rest : List (Value × Value)} {fields : List (String × Pattern)} :
    h.declareFields build (e :: rest) = .ok fields ↔
      ∃ name p more, e.1.string? = some name ∧ build e.2 = .ok p ∧
        h.declareFields build rest = .ok more ∧ fields = (name, p) :: more := by
  rw [declareFields]
  cases e.1.string? with
  | none => cases h.display e.1 <;> simp [bind, Except.bind]
  | some name =>
    cases build e.2 with
    | error f => simp [bind, Except.bind]
    | ok p =>
      cases h.declareFields build rest with
      | error f => simp [bind, Except.bind]
      | ok more => simp [bind, Except.bind, pure, Except.pure, eq_comm]

theorem declareFields_eq_ok_iff {build : Value → Except Fault Pattern}
    {entries : List (Value × Value)} {fields : List (String × Pattern)} :
    h.declareFields build entries = .ok fields ↔
      List.Forall₂ (fun e f => e.1.string? = some f.1 ∧ build e.2 = .ok f.2) entries fields := by
  induction entries generalizing fields with
  | nil => rw [declareFields, List.forall₂_nil_left_iff, Except.ok.injEq, eq_comm]
  | cons e rest ih =>
    rw [declareFields_cons_eq_ok_iff, List.forall₂_cons_left_iff]
    constructor
    · rintro ⟨name, p, more, hname, hp, hmore, rfl⟩
      exact ⟨(name, p), more, ⟨hname, hp⟩, ih.mp hmore, rfl⟩
    · rintro ⟨⟨name, p⟩, more, ⟨hname, hp⟩, hmore, rfl⟩
      exact ⟨name, p, more, hname, hp, ih.mpr hmore, rfl⟩

theorem exists_declareFields {build : Value → Except Fault Pattern}
    {entries : List (Value × Value)} (hkeys : ∀ e ∈ entries, ∃ s, e.1.string? = some s)
    (hbuild : ∀ e ∈ entries, ∃ p, build e.2 = .ok p) :
    ∃ fields, h.declareFields build entries = .ok fields := by
  induction entries with
  | nil => exact ⟨[], rfl⟩
  | cons e rest ih =>
    obtain ⟨⟨s, hs⟩, hkeys⟩ := List.forall_mem_cons.mp hkeys
    obtain ⟨⟨p, hp⟩, hbuild⟩ := List.forall_mem_cons.mp hbuild
    obtain ⟨more, hmore⟩ := ih hkeys hbuild
    exact ⟨_, declareFields_cons_eq_ok_iff.mpr ⟨s, p, more, hs, hp, hmore, rfl⟩⟩

theorem declareFields_mono {build build' : Value → Except Fault Pattern}
    {entries : List (Value × Value)} {fields : List (String × Pattern)}
    (hbuild : ∀ v p, build v = .ok p → build' v = .ok p)
    (hfields : h.declareFields build entries = .ok fields) :
    h.declareFields build' entries = .ok fields := by
  induction entries generalizing fields with
  | nil => exact hfields
  | cons e rest ih =>
    obtain ⟨name, p, more, hname, hp, hmore, rfl⟩ := declareFields_cons_eq_ok_iff.mp hfields
    exact declareFields_cons_eq_ok_iff.mpr ⟨name, p, more, hname, hbuild _ _ hp, ih hmore, rfl⟩

theorem exists_build_of_declareFields {build : Value → Except Fault Pattern}
    {entries : List (Value × Value)} {fields : List (String × Pattern)}
    (hfields : h.declareFields build entries = .ok fields) {e : Value × Value} (he : e ∈ entries) :
    ∃ p, build e.2 = .ok p := by
  induction entries generalizing fields with
  | nil => exact absurd he List.not_mem_nil
  | cons g rest ih =>
    obtain ⟨name, p, more, -, hp, hmore, -⟩ := declareFields_cons_eq_ok_iff.mp hfields
    rcases List.mem_cons.mp he with rfl | hrest
    · exact ⟨p, hp⟩
    · exact ih hmore hrest

/-! ### Lists and dictionaries -/

theorem toPatternAt_ref (h : Heap) (n : Nat) (a : Address) :
    h.toPatternAt (n + 1) (.ref a) = match h.cell a with
      | .pattern p _ => .ok p
      | .sequence k items =>
        if !k.isShorthand then .error (h.unknownPattern (.ref a))
        else match items with
          | [element] => do return .arrayOf (← h.toPatternAt n element)
          | _ => do .error (.badPattern (.elementCount (← h.display (.ref a))))
      | .dict k entries =>
        if !k.isShorthand then .error (h.unknownPattern (.ref a))
        else do return .object .reject (← h.declareFields (h.toPatternAt n) entries)
      | _ => .error (h.unknownPattern (.ref a)) := rfl

theorem exists_succ_of_toPatternAt {v : Value} (hp : h.toPatternAt n v = .ok p) :
    ∃ m, n = m + 1 := by
  cases n with
  | zero => cases hp
  | succ m => exact ⟨m, rfl⟩

theorem toPatternAt_element_eq_ok_iff {k : SequenceKind} {x : Value}
    (ha : h.cell a = .sequence k [x]) :
    h.toPatternAt (n + 1) (.ref a) = .ok p ↔
      k.isShorthand = true ∧ ∃ q, h.toPatternAt n x = .ok q ∧ p = .arrayOf q := by
  simp only [toPatternAt_ref, ha]
  cases k.isShorthand with
  | false => simp
  | true => cases h.toPatternAt n x <;> simp [bind, Except.bind, pure, Except.pure, eq_comm]

theorem toPatternAt_sequence_ne_ok {k : SequenceKind} {items : List Value}
    (ha : h.cell a = .sequence k items) (hitems : ∀ x, items ≠ [x]) :
    h.toPatternAt (n + 1) (.ref a) ≠ .ok p := by
  simp only [toPatternAt_ref, ha]
  cases k.isShorthand with
  | false => simp
  | true =>
    match items with
    | [] => cases h.display (.ref a) <;> simp [bind, Except.bind]
    | [x] => exact absurd rfl (hitems x)
    | _ :: _ :: _ => cases h.display (.ref a) <;> simp [bind, Except.bind]

theorem toPatternAt_dict_eq_ok_iff {k : DictKind} {entries : List (Value × Value)}
    (ha : h.cell a = .dict k entries) :
    h.toPatternAt (n + 1) (.ref a) = .ok p ↔
      k.isShorthand = true ∧ ∃ fields, h.declareFields (h.toPatternAt n) entries = .ok fields ∧
        p = .object .reject fields := by
  simp only [toPatternAt_ref, ha]
  cases k.isShorthand with
  | false => simp
  | true =>
    cases h.declareFields (h.toPatternAt n) entries <;>
      simp [bind, Except.bind, pure, Except.pure, eq_comm]

theorem toPatternAt_mono {v : Value} (hp : h.toPatternAt n v = .ok p) {m : Nat} (hm : n ≤ m) :
    h.toPatternAt m v = .ok p := by
  induction n generalizing v p m with
  | zero => cases hp
  | succ n ih =>
    obtain ⟨m, rfl⟩ := Nat.exists_eq_add_of_le' (Nat.lt_of_lt_of_le (Nat.succ_pos n) hm)
    have hnm : n ≤ m := by omega
    cases v with
    | ref a =>
      cases ha : h.cell a with
      | sequence k items =>
        by_cases hone : ∃ x, items = [x]
        · obtain ⟨x, rfl⟩ := hone
          obtain ⟨hk, q, hq, rfl⟩ := (toPatternAt_element_eq_ok_iff ha).mp hp
          exact (toPatternAt_element_eq_ok_iff ha).mpr ⟨hk, q, ih hq hnm, rfl⟩
        · have hitems : ∀ x, items ≠ [x] := fun x hx => hone ⟨x, hx⟩
          exact absurd hp (toPatternAt_sequence_ne_ok ha hitems)
      | dict k entries =>
        obtain ⟨hk, fields, hfields, rfl⟩ := (toPatternAt_dict_eq_ok_iff ha).mp hp
        have hdeeper := declareFields_mono (fun v p hv => ih (v := v) (p := p) hv hnm) hfields
        exact (toPatternAt_dict_eq_ok_iff ha).mpr ⟨hk, fields, hdeeper, rfl⟩
      | _ =>
        simpa only [toPatternAt_ref, ha] using hp
    | _ => exact hp

/-! ### The whole raw value -/

theorem toPattern_eq_toPatternAt (h : Heap) (v : Value) :
    h.toPattern v = h.toPatternAt (nestingLimit - 1 + 1) v := rfl

theorem toPattern_mono {v : Value} (hn : n ≤ nestingLimit) (hp : h.toPatternAt n v = .ok p) :
    h.toPattern v = .ok p := toPatternAt_mono hp hn

theorem toPatternAt_pattern {parts : List Provenance} (ha : h.cell a = .pattern p parts) :
    h.toPatternAt (n + 1) (.ref a) = .ok p := by
  simp only [toPatternAt_ref, ha]

theorem toPattern_pattern {parts : List Provenance} (ha : h.cell a = .pattern p parts) :
    h.toPattern (.ref a) = .ok p := by
  rw [toPattern_eq_toPatternAt, toPatternAt_pattern ha]

theorem exists_toPattern_element {k : SequenceKind} {x : Value} (ha : h.cell a = .sequence k [x])
    (hp : h.toPattern (.ref a) = .ok p) : ∃ q, h.toPattern x = .ok q ∧ p = .arrayOf q := by
  rw [toPattern_eq_toPatternAt, toPatternAt_element_eq_ok_iff ha] at hp
  obtain ⟨-, q, hq, rfl⟩ := hp
  exact ⟨q, toPattern_mono (Nat.sub_le nestingLimit 1) hq, rfl⟩

theorem exists_toPattern_fields {k : DictKind} {entries : List (Value × Value)}
    (ha : h.cell a = .dict k entries) (hp : h.toPattern (.ref a) = .ok p) :
    ∃ fields, h.declareFields h.toPattern entries = .ok fields ∧ p = .object .reject fields := by
  rw [toPattern_eq_toPatternAt, toPatternAt_dict_eq_ok_iff ha] at hp
  obtain ⟨-, fields, hfields, rfl⟩ := hp
  refine ⟨fields, declareFields_mono (fun _ _ => ?_) hfields, rfl⟩
  exact toPattern_mono (Nat.sub_le nestingLimit 1)

/-! ### Parts -/

/-- The first value stands somewhere in the second, where a pattern is wanted. -/
inductive PartOf (h : Heap) (part : Value) : Value → Prop where
  | whole : PartOf h part part
  | element {a : Address} {k : SequenceKind} {x : Value} (ha : h.cell a = .sequence k [x])
    (hx : PartOf h part x) : PartOf h part (.ref a)
  | field {a : Address} {k : DictKind} {entries : List (Value × Value)} {e : Value × Value}
    (ha : h.cell a = .dict k entries) (he : e ∈ entries) (hx : PartOf h part e.2) :
    PartOf h part (.ref a)

/-- What stands where a pattern is wanted stands for one, if the whole does. -/
theorem PartOf.exists_toPatternAt {part raw : Value} (hpart : h.PartOf part raw)
    (hp : h.toPatternAt n raw = .ok p) : ∃ q, h.toPatternAt n part = .ok q := by
  induction hpart generalizing n p with
  | whole => exact ⟨p, hp⟩
  | @element a k x ha _ ih =>
    obtain ⟨n, rfl⟩ := exists_succ_of_toPatternAt hp
    obtain ⟨-, q, hq, -⟩ := (toPatternAt_element_eq_ok_iff ha).mp hp
    obtain ⟨r, hr⟩ := ih hq
    exact ⟨r, toPatternAt_mono hr (Nat.le_succ n)⟩
  | @field a k entries e ha he _ ih =>
    obtain ⟨n, rfl⟩ := exists_succ_of_toPatternAt hp
    obtain ⟨-, fields, hfields, -⟩ := (toPatternAt_dict_eq_ok_iff ha).mp hp
    obtain ⟨q, hq⟩ := exists_build_of_declareFields hfields he
    obtain ⟨r, hr⟩ := ih hq
    exact ⟨r, toPatternAt_mono hr (Nat.le_succ n)⟩

end Heap
end Conformance
