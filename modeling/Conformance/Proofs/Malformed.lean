import Conformance.Proofs.Agreement
import Conformance.Proofs.RawPattern
import Conformance.Proofs.Stumble

/-!
# Malformed patterns

A raw value that stands for no pattern is found out before anything is matched, so the value under
test plays no role. A pattern in which all variants are the library's own is never found malformed
later: comparisons, texts and class operands fail for other causes, and a match passes on only what
its calls end in.
-/

namespace Conformance

/-! ### Nodes -/

namespace Pattern

def isNative : Pattern → Bool
  | typeTag .foreign _ | wrap .foreign _ _ | foreign _ _ => false
  | _ => true

theorem NodeOf.of_unwrapped {p r : Pattern} (hr : NodeOf r p.unwrapped) : NodeOf r p := by
  cases p with
  | wrap o w p => exact .child (List.mem_singleton_self p) hr
  | _ => exact hr

theorem NodeOf.of_part {p q r : Pattern} (hq : q ∈ p.parts) (hr : NodeOf r q) : NodeOf r p := by
  cases p with
  | object u fields =>
    obtain ⟨f, hf, rfl⟩ := List.mem_map.mp hq
    have hfield : NodeOf r f.2 := hr.of_unwrapped
    exact .child (List.mem_map_of_mem hf) hfield
  | _ => exact .child hq hr

variable {c : Context} {p : Pattern} {v : Value} {f : Fault}

theorem nodeOf_of_mem_calls {e : Value × Value} (he : e ∈ p.calls c v) :
    NodeOf (satisfies e.1) p := by
  induction p using partsInduction generalizing v with
  | step p ih =>
    cases hp : p.isPredicateFree with
    | true =>
      rw [calls_eq_flatMap hp] at he
      obtain ⟨s, hs, hcall⟩ := List.mem_flatMap.mp he
      have hpart := mem_parts_of_mem_subjects hs
      exact .of_part hpart (ih s.1 hpart hcall)
    | false =>
      cases p with
      | satisfies g =>
        rw [calls, List.mem_singleton] at he
        rw [he]
        exact .root _
      | _ => exact absurd hp Bool.noConfusion

/-! ### Where faults come from -/

theorem mem_upTo_of_split {α : Type} {stops : α → Bool} {before after : List α} {x : α}
    (hbefore : ∀ y ∈ before, stops y = false) : x ∈ upTo stops (before ++ x :: after) := by
  induction before with
  | nil =>
    rw [List.nil_append, upTo]
    split <;> exact List.mem_cons_self
  | cons y before ih =>
    obtain ⟨hy, hrest⟩ := List.forall_mem_cons.mp hbefore
    rw [List.cons_append, upTo, hy]
    exact List.mem_cons_of_mem y (ih hrest)

/-- What can end a match in a fault: its own work, a match that it begins, or the call of its
predicate. -/
inductive FaultSource (c : Context) (f : Fault) : Pattern → Value → Prop where
  | leaf {p : Pattern} {v : Value} (hp : p.isLeaf = true) (hf : p.leafFlaw? c.heap v = .error f) :
    FaultSource c f p v
  | key {p : Pattern} {v key : Value} (hf : Path.keyAccessor c.heap key = .error f) :
    FaultSource c f p v
  | subject {p : Pattern} {v : Value} {s : Pattern × Value} (hs : s ∈ p.subjects c v)
    (hf : (s.1.matcher c s.2 "").result = .error (.fault f)) : FaultSource c f p v
  | call {g v : Value} (hf : (c.call g v).result = .error (.fault f)) :
    FaultSource c f (satisfies g) v

theorem satisfies_fault {g : Value}
    (hf : ((satisfies g).matcher c v "").result = .error (.fault f)) :
    (c.call g v).result = .error (.fault f) := by
  simp only [matcher, Matcher.satisfies, Run.recover_mismatch_eq_relocate, Run.bind_eq,
    Run.andThen_result_error_iff, require_eq_flaw, Run.flaw_result_error_iff] at hf
  rcases hf with hcall | ⟨answer, -, reason, -, he⟩
  · exact Run.relocate_result_fault_iff.mp hcall
  · cases he

theorem faultSource_of_fault (hf : (p.matcher c v "").result = .error (.fault f)) :
    FaultSource c f p v := by
  induction p using formInduction with
  | leaf p hp => exact .leaf hp ((leaf_result_fault_iff hp).mp hf)
  | container p hp _ =>
    obtain ⟨b, hcomes, hb⟩ := (container_fault_iff hp).mp hf
    rcases visit_run_fault_iff.mp hb with ⟨-, hkey⟩ | ⟨q, accessor, hq, hkey, hfault⟩
    · exact .key hkey
    · obtain ⟨before, after, hsplit, hbefore⟩ := hcomes.split
      have hreached : b ∈ upTo (fun b => !(b.run c "").result.isOk) (p.visits c.heap v) := by
        rw [hsplit]
        apply mem_upTo_of_split
        intro a ha
        rw [hbefore a ha]
        rfl
      have hbegun : (q, b.part) ∈ b.subjects c.heap := by
        rw [Visit.subjects, hq, hkey]
        exact List.mem_singleton_self _
      have hs : (q, b.part) ∈ p.subjects c v := by
        rw [subjects_container hp, if_pos hcomes.opening]
        exact List.mem_flatMap.mpr ⟨b, hreached, hbegun⟩
      exact .subject hs hfault
  | wrap w p _ =>
    rw [wrap_matcher] at hf
    cases hexcused : Matcher.excuses w v with
    | true =>
      rw [hexcused] at hf
      cases hf
    | false =>
      rw [hexcused] at hf
      have hs : (p, v) ∈ (wrap .native w p).subjects c v := by
        rw [subjects, hexcused]
        exact List.mem_singleton_self _
      exact .subject hs hf
  | oneOf choices _ =>
    obtain ⟨before, q, after, rfl, hbefore, hq⟩ := oneOf_result_fault_iff.mp hf
    have hs : (q, v) ∈ (oneOf (before ++ q :: after)).subjects c v := by
      rw [subjects]
      apply List.mem_map_of_mem
      apply mem_upTo_of_split
      intro r hr
      rw [Run.diverges_iff.mpr (hbefore r hr)]
      rfl
    exact .subject hs hq
  | satisfies g => exact .call (satisfies_fault hf)

/-! ### Faults of native patterns -/

theorem leafFlaw?_faultsOnly (h : Heap) (hleaf : p.isLeaf = true) (hp : p.isNative = true)
    (v : Value) :
    FaultsOnly (fun f => f.IsComparative ∨ f.IsDocumentary ∨ f.IsOperand) (p.leafFlaw? h v) := by
  have hinstance : ∀ target, FaultsOnly (fun f => f.IsComparative ∨ f.IsDocumentary ∨ f.IsOperand)
      (leafFlaw?.ofInstance h target v) := by
    intro target
    have htarget := h.isInstanceOf_faultsOnly v target
    exact .bind (htarget.mono fun f hf => .inr (.inr hf)) fun _ => .ok _
  cases p with
  | literal e =>
    intro f hf
    rcases leafFlaw?_literal_error_iff.mp hf with hagrees | ⟨-, hrender⟩
    · have hcompared : FaultsOnly Fault.IsComparative (h.agrees v e) :=
        .ite (h.equal_faultsOnly v e) (.ok _)
      exact .inl (hcompared f hagrees)
    · exact .inr (.inl (h.renderLiteral_faultsOnly e f hrender))
  | typeTag o k =>
    cases o with
    | native => exact .ok _
    | foreign => exact absurd hp Bool.false_ne_true
  | wrap o w p =>
    cases o with
    | native => exact absurd hleaf Bool.false_ne_true
    | foreign => exact absurd hp Bool.false_ne_true
  | foreign t n => exact absurd hp Bool.false_ne_true
  | dateTag => exact hinstance _
  | regexTag => exact hinstance _
  | instanceOf target => exact hinstance target
  | any | integer | objectTag | arrayTag | functionTag => exact .ok _
  | _ => exact absurd hleaf Bool.false_ne_true

/-- A fault that none of the library's own work ends in comes from a call, and is passed on as it
is. -/
theorem exists_call_of_fault (hp : p.Every isNative)
    (hf : (p.matcher c v "").result = .error (.fault f)) (hcomparative : ¬ f.IsComparative)
    (hdocumentary : ¬ f.IsDocumentary) (hoperand : ¬ f.IsOperand) :
    ∃ e ∈ p.calls c v, (c.call e.1 e.2).result = .error (.fault f) := by
  induction p using partsInduction generalizing v with
  | step p ih =>
    cases faultSource_of_fault hf with
    | leaf hleaf hflaw =>
      rcases leafFlaw?_faultsOnly c.heap hleaf hp.root v f hflaw with h | h | h
      · exact absurd h hcomparative
      · exact absurd h hdocumentary
      · exact absurd h hoperand
    | key hkey =>
      have htextual : f.IsTextual := Path.keyAccessor_textual c.heap _ f hkey
      exact absurd (.inl htextual) hdocumentary
    | @subject _ _ s hs hfault =>
      have hpart := mem_parts_of_mem_subjects hs
      obtain ⟨e, he, hcall⟩ := ih s.1 hpart (hp.part hpart) hfault
      have hfree : p.isPredicateFree = true := by
        cases p with
        | satisfies g =>
          rw [subjects_satisfies] at hs
          exact absurd hs List.not_mem_nil
        | _ => rfl
      refine ⟨e, ?_, hcall⟩
      rw [calls_eq_flatMap hfree]
      exact List.mem_flatMap.mpr ⟨s, hs, he⟩
    | @call g _ hcall =>
      refine ⟨(g, v), ?_, hcall⟩
      rw [calls]
      exact List.mem_singleton_self _

end Pattern

theorem Fault.not_library_of_kind {f : Fault} (hf : f.kind = "PatternError") :
    ¬ f.IsComparative ∧ ¬ f.IsDocumentary ∧ ¬ f.IsOperand := by
  refine ⟨?_, ?_, ?_⟩
  · rintro (rfl | rfl) <;> simp [kind] at hf
  · rintro ((rfl | rfl) | rfl | ⟨t, rfl | rfl⟩) <;> simp [kind] at hf
  · rintro (rfl | rfl | rfl) <;> simp [kind] at hf

/-- A raw value that stands for no pattern is reported by all three ways to ask, for every value and
before anything is called, and it stands for none if any part of it does not. Where it stands for a
pattern of the library's own variants, a malformed pattern is reported only if a predicate in it
reports one. -/
theorem Context.malformed_found_before_matching (c : Context) (raw : Value) :
    (∀ f, c.heap.toPattern raw = .error f → ∀ v,
        c.check v raw = Run.fault f ∧ c.accepts v raw = Run.fault f ∧
          c.explain v raw = Run.fault f) ∧
      (∀ part f, c.heap.PartOf part raw → c.heap.toPattern part = .error f →
        ∃ g, c.heap.toPattern raw = .error g) ∧
      ∀ p, c.heap.toPattern raw = .ok p → p.Every Pattern.isNative → ∀ v f,
        f.kind = "PatternError" →
        ((c.check v raw).result = .error (.fault f) ∨ (c.accepts v raw).result = .error (.fault f) ∨
          (c.explain v raw).result = .error (.fault f)) →
        ∃ g x, Pattern.NodeOf (.satisfies g) p ∧ (g, x) ∈ p.calls c v ∧
          (c.call g x).result = .error (.fault f) := by
  refine ⟨fun f hf v => ?_, fun part f hpart hf => ?_, fun p hp hnative v f hkind hfault => ?_⟩
  · exact ⟨check_of_error hf, accepts_of_error hf, explain_of_error hf⟩
  · cases hraw : c.heap.toPattern raw with
    | error g => exact ⟨g, rfl⟩
    | ok p =>
      obtain ⟨q, hq⟩ := hpart.exists_toPatternAt hraw
      have hok : c.heap.toPattern part = .ok q := hq
      rw [hok] at hf
      cases hf
  · have hagree := (c.waysAgree v raw).fault f
    have hcheck : (c.check v raw).result = .error (.fault f) := by
      rcases hfault with h | h | h
      · exact h
      · exact (hagree.out 0 1).mpr h
      · exact (hagree.out 0 2).mpr h
    rw [check_result hp] at hcheck
    obtain ⟨hcomparative, hdocumentary, hoperand⟩ := Fault.not_library_of_kind hkind
    obtain ⟨e, he, hcall⟩ :=
      Pattern.exists_call_of_fault hnative hcheck hcomparative hdocumentary hoperand
    exact ⟨e.1, e.2, Pattern.nodeOf_of_mem_calls he, he, hcall⟩

/-- A list without elements deep in a raw value, and a predicate that says that a pattern is
malformed. -/
def lateFlaw : Heap :=
  ⟨#[.dict .plain [(.str "a", .classObject .int), (.str "b", .ref 1)],
    .sequence .list [.ref 2],
    .sequence .list [],
    .predicate (.raise .patternError "late"),
    .pattern (.arrayOf (.oneOf [.integer, .satisfies (.ref 3)])) [],
    .sequence .list [.int 1, .str "x"]]⟩

theorem lateFlaw_found :
    (lateFlaw.context false "").check (.int 5) (.ref 0) =
        Run.fault (.badPattern (.elementCount "[]")) ∧
      (∃ g, lateFlaw.toPattern (.ref 0) = .error g) ∧
      ∃ g x, Pattern.NodeOf (.satisfies g) (.arrayOf (.oneOf [.integer, .satisfies (.ref 3)])) ∧
        (g, x) ∈ (Pattern.arrayOf (.oneOf [.integer, .satisfies (.ref 3)])).calls
          (lateFlaw.context false "") (.ref 5) ∧
        ((lateFlaw.context false "").call g x).result =
          .error (.fault (.raised .patternError "late")) := by
  have hflaw := Context.malformed_found_before_matching (lateFlaw.context false "") (.ref 0)
  have hlate := Context.malformed_found_before_matching (lateFlaw.context false "") (.ref 4)
  have hpart : lateFlaw.PartOf (.ref 2) (.ref 0) := by
    have hlist : lateFlaw.PartOf (.ref 2) (.ref 1) := .element (k := .list) rfl .whole
    exact .field (e := (.str "b", .ref 1)) (k := .plain) rfl (by simp) hlist
  have hnative : (Pattern.arrayOf (.oneOf [.integer, .satisfies (.ref 3)])).Every
      Pattern.isNative := by
    decide
  have hfault : ((lateFlaw.context false "").check (.ref 5) (.ref 4)).result =
      .error (.fault (.raised .patternError "late")) := by
    decide +kernel
  refine ⟨(hflaw.1 _ rfl (.int 5)).1, hflaw.2.1 (.ref 2) _ hpart rfl, ?_⟩
  exact hlate.2.2 _ rfl hnative (.ref 5) _ rfl (.inl hfault)

end Conformance
