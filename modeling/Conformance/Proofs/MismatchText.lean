import Conformance.Proofs.Divergence
import Conformance.Proofs.Repertoire

/-!
# Texts of mismatches

What a mismatch says is put together from words of the library, words of the pattern, documents of
values and accessors of keys. Only the words of the pattern stand there as they are. So where these
hold no control character, no mismatch holds one, whatever the value is.
-/

namespace Conformance

open Text.Repertoire

/-! ### Reasons -/

theorem Category.name_spelled (k : Category) : unicode.Spells k.name := by
  cases k <;> decide

namespace Heap

variable (h : Heap)

theorem renderValue_spelled (v : Value) : unicode.Spells (h.renderValue v) := by
  rw [renderValue.eq_def]
  split
  · decide
  · split
    · rename_i text htext
      exact h.document_spelled .failure _ text htext
    · exact (h.category _).name_spelled

theorem renderLiteral_spelled {e : Value} (he : ∀ s ∈ e.string?.toList, unicode.Spells s) :
    Returns unicode.Spells (h.renderLiteral e) := by
  rw [renderLiteral]
  split
  · rename_i s hs
    exact .ok (he s (Option.mem_toList.mpr hs))
  · intro text htext
    exact .of_ascii (h.document_spelled .literal e text htext)

end Heap

namespace Reason

theorem expected_spelled {wanted found : String} (hwanted : unicode.Spells wanted)
    (hfound : unicode.Spells found) : unicode.Spells (expected wanted found).text :=
  .append (.append (.append (.of_ascii (by decide)) hwanted)
    (.of_ascii (by decide))) hfound

theorem missingKey_spelled {name : String} (hname : unicode.Spells name) :
    unicode.Spells (missingKey name).text :=
  .append (.append (.of_ascii (by decide)) hname) (.of_ascii (by decide))

theorem expectedInstance_spelled {target : Value}
    (htarget : ∀ s ∈ target.className?.toList, unicode.Spells s) :
    unicode.Spells (expectedInstance target.instanceWords).text := by
  have hunnamed : unicode.Spells "particular constructor" := by decide
  refine .append (.of_ascii (by decide)) ?_
  rw [Value.instanceWords]
  split
  · rename_i name hname
    split
    · exact hunnamed
    · exact htarget name (Option.mem_toList.mpr hname)
  · exact hunnamed

/-- The reason, if there is one, holds no control character. -/
def Spelled (flaw? : Option Reason) : Prop := ∀ reason, flaw? = some reason →
  unicode.Spells reason.text

theorem Spelled.unless {p : Prop} [Decidable p] {reason : Reason}
    (hreason : unicode.Spells reason.text) : Spelled (if p then none else some reason) := by
  intro found hfound
  split at hfound
  · cases hfound
  · cases hfound
    exact hreason

end Reason

def Mismatch.Spelled (m : Mismatch) : Prop :=
  unicode.Spells m.reason.text ∧ unicode.Spells m.path

theorem Mismatch.Spelled.message {m : Mismatch} (h : m.Spelled) : unicode.Spells m.message := by
  refine .append (.append (.of_ascii (by decide)) h.1) ?_
  split
  · decide
  · exact .append (.of_ascii (by decide)) h.2

/-! ### Flaws -/

namespace Pattern

/-- The texts that mismatches take from the variant itself: a literal text, the names of fields, and
the name of a class. -/
def ownWords : Pattern → List String
  | literal e => e.string?.toList
  | object _ fields => fields.map (·.1)
  | instanceOf target => target.className?.toList
  | _ => []

def hasPlainWords (p : Pattern) : Bool := p.ownWords.all fun s => decide (unicode.Spells s)

theorem hasPlainWords_iff {p : Pattern} :
    p.hasPlainWords = true ↔ ∀ s ∈ p.ownWords, unicode.Spells s := by
  simp only [hasPlainWords, List.all_eq_true, decide_eq_true_eq]

section Flaws

variable {h : Heap} {p : Pattern} {v : Value}

theorem ofInstance_spelled {target : Value}
    (htarget : ∀ s ∈ target.className?.toList, unicode.Spells s) :
    Returns Reason.Spelled (leafFlaw?.ofInstance h target v) := by
  intro flaw? hflaw
  obtain ⟨belongs, -, rfl⟩ := ofInstance_ok_iff.mp hflaw
  exact .unless (Reason.expectedInstance_spelled htarget)

theorem leafFlaw?_spelled (hp : p.hasPlainWords = true) :
    Returns Reason.Spelled (p.leafFlaw? h v) := by
  have hwords := hasPlainWords_iff.mp hp
  have hcategory : ∀ k, Reason.Spelled (leafFlaw?.ofCategory h k v) := fun k =>
    .unless (Reason.expected_spelled k.name_spelled (h.category v).name_spelled)
  have hinteger : unicode.Spells "Integer" := by decide
  cases p with
  | any => exact .ok fun reason hreason => by cases hreason
  | literal e =>
    intro flaw? hflaw
    rcases leafFlaw?_literal_ok_iff.mp hflaw with ⟨-, rfl⟩ | ⟨wanted, -, hwanted, rfl⟩
    · intro reason hreason
      cases hreason
    · intro reason hreason
      cases hreason
      exact Reason.expected_spelled (h.renderLiteral_spelled hwords wanted hwanted)
        (h.renderValue_spelled v)
  | typeTag o k =>
    cases o with
    | native =>
      refine .ok (.unless (Reason.expected_spelled k.category.name_spelled ?_))
      split
      · exact h.renderValue_spelled v
      · exact (h.category v).name_spelled
    | foreign => exact .error _
  | integer =>
    refine .ok ?_
    split
    · exact .unless (Reason.expected_spelled hinteger (h.renderValue_spelled v))
    · intro reason hreason
      cases hreason
      exact Reason.expected_spelled hinteger (h.category v).name_spelled
  | objectTag => exact .ok (hcategory .object)
  | functionTag => exact .ok (hcategory .function)
  | arrayTag =>
    exact .ok (.unless (Reason.expected_spelled (by decide) (h.renderValue_spelled v)))
  | dateTag => exact ofInstance_spelled (by decide)
  | regexTag => exact ofInstance_spelled (by decide)
  | instanceOf target => exact ofInstance_spelled hwords
  | _ => exact .error _

theorem openingFlaw?_spelled : Reason.Spelled (p.openingFlaw? h v) := by
  have hplain : unicode.Spells (h.plainFlaw v).text := by
    rw [Heap.plainFlaw]
    split
    · decide
    · exact Reason.expected_spelled (by decide) (h.category v).name_spelled
  cases p with
  | arrayOf q =>
    exact .unless (Reason.expected_spelled (by decide) (h.renderValue_spelled v))
  | _ => exact .unless hplain

theorem closingFlaw?_spelled (hp : p.hasPlainWords = true) :
    Reason.Spelled (p.closingFlaw? h v) := by
  intro reason hreason
  cases p with
  | object u fields =>
    obtain ⟨name, hname, rfl⟩ := Option.map_eq_some_iff.mp hreason
    obtain ⟨f, hf, rfl⟩ := Option.map_eq_some_iff.mp hname
    have hmem : f.1 ∈ (object u fields).ownWords :=
      List.mem_map_of_mem (List.mem_of_find?_eq_some hf)
    exact Reason.missingKey_spelled (hasPlainWords_iff.mp hp f.1 hmem)
  | _ => cases hreason

end Flaws

/-! ### Mismatches -/

section Mismatches

variable {c : Context}

theorem visit_run_spelled {b : Visit} {path : String} {m : Mismatch}
    (hpath : unicode.Spells path)
    (hpart : ∀ q, b.demand = .conform q → ∀ extended, unicode.Spells extended →
      (q.matcher c b.part extended).result = .error (.mismatch m) → m.Spelled)
    (hm : (b.run c path).result = .error (.mismatch m)) : m.Spelled := by
  rw [Visit.run] at hm
  split at hm
  · rename_i q hq
    obtain ⟨f, -, hf⟩ | ⟨extended, hjoin, hrun⟩ := Run.lift_andThen_result_error_iff.mp hm
    · cases hf
    · exact hpart q hq extended (Path.join_spelled hpath b.key extended hjoin) hrun
  · cases hm
  · obtain ⟨f, -, hf⟩ | ⟨extended, hjoin, hrun⟩ := Run.lift_andThen_result_error_iff.mp hm
    · cases hf
    · cases hrun
      have hreason : unicode.Spells Reason.unknownKey.text := by decide
      exact ⟨hreason, Path.join_spelled hpath b.key extended hjoin⟩

theorem matcher_spelled {p : Pattern} {v : Value} {path : String} {m : Mismatch}
    (hfree : p.Every isPredicateFree) (hwords : p.Every hasPlainWords)
    (hpath : unicode.Spells path)
    (hm : (p.matcher c v path).result = .error (.mismatch m)) : m.Spelled := by
  induction p using formInduction generalizing v path m with
  | leaf p hleaf =>
    obtain ⟨reason, hreason, rfl⟩ := (leaf_result_mismatch_iff hleaf).mp hm
    exact ⟨leafFlaw?_spelled hwords.root _ hreason reason rfl, hpath⟩
  | container p hcontainer ih =>
    rcases (container_result_error_iff hcontainer).mp hm with
      ⟨reason, hreason, he⟩ | ⟨-, ⟨before, b, after, hsplit, -, hb⟩ | ⟨-, reason, hreason, he⟩⟩
    · cases he
      exact ⟨openingFlaw?_spelled reason hreason, hpath⟩
    · have hmem : b ∈ p.visits c.heap v := by
        rw [hsplit]
        exact List.mem_append_right before (List.mem_cons_self)
      refine visit_run_spelled hpath (fun q hq extended hextended hrun => ?_) hb
      have hpart := mem_parts_of_mem_visits hmem hq
      exact ih q hpart (hfree.part hpart) (hwords.part hpart) hextended hrun
    · cases he
      exact ⟨closingFlaw?_spelled hwords.root reason hreason, hpath⟩
  | wrap w p ih =>
    rw [wrap_matcher] at hm
    split at hm
    · cases hm
    · have hpart : p ∈ (Pattern.wrap .native w p).parts := List.mem_singleton_self p
      exact ih (hfree.part hpart) (hwords.part hpart) hpath hm
  | oneOf choices ih =>
    obtain ⟨-, rfl⟩ := oneOf_result_mismatch_iff.mp hm
    have hreason : unicode.Spells Reason.noChoice.text := by decide
    exact ⟨hreason, hpath⟩
  | satisfies f => exact absurd hfree.root Bool.false_ne_true

end Mismatches

end Pattern

/-- No control character of a value gets into the failure of a check. Where no predicate is asked
and the words of the pattern hold none, the reason, the path and the message consist of characters
from U+0020 on, whatever texts and keys the value holds. -/
theorem Context.mismatch_holds_no_control_character (c : Context) (v raw : Value) (p : Pattern)
    (m : Mismatch) (hp : c.heap.toPattern raw = .ok p) (hfree : p.Every Pattern.isPredicateFree)
    (hwords : p.Every Pattern.hasPlainWords)
    (hm : (c.check v raw).result = .error (.mismatch m)) :
    ∀ text ∈ [m.reason.text, m.path, m.message], ∀ ch ∈ text.toList, 0x20 ≤ ch.toNat := by
  rw [check_result hp] at hm
  have hroot : unicode.Spells "" := by decide
  have hspelled := Pattern.matcher_spelled hfree hwords hroot hm
  intro text htext ch hch
  have hall : ∀ text ∈ [m.reason.text, m.path, m.message], unicode.Spells text :=
    List.forall_mem_cons.mpr ⟨hspelled.1, List.forall_mem_cons.mpr ⟨hspelled.2,
      List.forall_mem_singleton.mpr hspelled.message⟩⟩
  exact of_decide_eq_true (hall text htext ch hch)

/-- A list under a key with a line break, which holds a text with a line break, a dictionary under
an escape character, and a boxed text that ends in a line break. -/
def controlCharacters : Heap :=
  ⟨#[.dict .plain [(.str "\u001b", .boxed (.str "b\n"))],
    .sequence .list [.str "x\ny", .ref 0],
    .dict .plain [(.str "a\n", .ref 1)],
    .pattern (.objectWithValues (.literal (.str "ok"))) []]⟩

theorem controlCharacters_escaped :
    let m : Mismatch :=
      ⟨.expected "ok" "[\"x\\ny\", \x7b\"\\u001b\": \"b\\n\"\x7d]", "[\"a\\n\"]"⟩
    ((controlCharacters.context false "").check (.ref 2) (.ref 3)).result = .error (.mismatch m) ∧
      ∀ text ∈ [m.reason.text, m.path, m.message], ∀ ch ∈ text.toList, 0x20 ≤ ch.toNat := by
  intro m
  have hm : ((controlCharacters.context false "").check (.ref 2) (.ref 3)).result =
      .error (.mismatch m) := by
    decide
  exact ⟨hm, Context.mismatch_holds_no_control_character _ _ (.ref 3) _ m rfl
    (by decide) (by decide) hm⟩

end Conformance
