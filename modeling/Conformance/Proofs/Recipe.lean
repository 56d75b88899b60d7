import Conformance.Proofs.FieldPairs
import Conformance.Proofs.PatternTree
import Conformance.Proofs.RawPattern

/-!
# Recipes

The ways to build a pattern: a raw value is looked at, or a variant is applied to raw operands. A
raw value is read step by step, and how deep it is looked into matters only if that is not deep
enough.
-/

namespace Conformance

/-! ### Recipes -/

namespace Pattern

/-- Is the pattern built from nothing, or from an operand that is taken as it is? -/
def isBare : Pattern → Bool
  | any | literal _ | integer | objectTag | arrayTag | functionTag | dateTag | regexTag
  | instanceOf _ | object _ [] | foreign _ _ => true
  | _ => false

def isAtom : Pattern → Bool
  | arrayOf _ | object _ _ | objectWithValues _ | wrap _ _ _ | oneOf _ => false
  | _ => true

theorem isAtom_toPattern (c : Class) : c.toPattern.isAtom = true := by
  cases c <;> rfl

end Pattern

/-- A way to build a pattern: from a raw value, or as a variant with operands. -/
inductive Recipe where
  | raw (v : Value)
  | bare (p : Pattern) (hp : p.isBare = true)
  | typeTag (origin : Origin) (name : Value)
  | arrayOf (element : Value)
  | object (unknown : UnknownKeys) (fields : Value)
  | objectWithValues (values : Value)
  | wrap (origin : Origin) (wrapper : Wrapper) (inner : Value)
  | oneOf (choices : List Value)
  | satisfies (predicate : Value)

def Recipe.build (h : Heap) : Recipe → Except Fault Pattern
  | raw v => h.toPattern v
  | bare p _ => .ok p
  | typeTag origin name => h.tagPattern origin name
  | arrayOf element => h.arrayPattern element
  | object unknown fields => h.objectPattern unknown fields
  | objectWithValues values => h.valuesPattern values
  | wrap origin wrapper inner => h.wrapPattern origin wrapper inner
  | oneOf choices => h.choicePattern choices
  | satisfies predicate => h.predicatePattern predicate

namespace Recipe

/-- The only raw operand, if the variant has one that stands for a pattern. -/
def operand? : Recipe → Option Value
  | raw v | arrayOf v | objectWithValues v | wrap _ _ v => some v
  | _ => none

/-- The pattern that results from the one that the operand stands for. -/
def around : Recipe → Pattern → Pattern
  | arrayOf _, p => .arrayOf p
  | objectWithValues _, p => .objectWithValues p
  | wrap o w _, p => .wrap o w p
  | _, p => p

variable {h : Heap} {r : Recipe}

theorem nodeOf_around (r : Recipe) (p : Pattern) : Pattern.NodeOf p (r.around p) := by
  cases r with
  | arrayOf v | objectWithValues v | wrap o w v =>
    exact .child (List.mem_singleton_self p) (.root p)
  | _ => exact .root p

theorem build_of_operand? {v : Value} (hv : r.operand? = some v) :
    r.build h = h.toPattern v >>= fun p => .ok (r.around p) := by
  cases r with
  | raw w =>
    cases hv
    exact (bind_pure (h.toPattern v)).symm
  | arrayOf w | objectWithValues w | wrap o t w =>
    cases hv
    rfl
  | _ => cases hv

end Recipe

namespace Heap

variable {h : Heap}

/-! ### One step into a raw value -/

section Step

variable {a : Address} {n : Nat}

theorem toPatternAt_element {k : SequenceKind} {x : Value} (ha : h.cell a = .sequence k [x])
    (hk : k.isShorthand = true) :
    h.toPatternAt (n + 1) (.ref a) = h.toPatternAt n x >>= fun p => .ok (.arrayOf p) := by
  simp only [toPatternAt_ref, ha, hk]
  rfl

theorem toPatternAt_list {k : SequenceKind} {items : List Value} (ha : h.cell a = .sequence k items)
    (hk : k.isShorthand = true) (hitems : ∀ x, items ≠ [x]) :
    h.toPatternAt (n + 1) (.ref a) =
      h.display (.ref a) >>= fun shown => .error (.badPattern (.elementCount shown)) := by
  simp only [toPatternAt_ref, ha, hk]
  cases items with
  | nil => rfl
  | cons x rest =>
    cases rest with
    | nil => exact absurd rfl (hitems x)
    | cons => rfl

theorem toPatternAt_dict {k : DictKind} {entries : List (Value × Value)}
    (ha : h.cell a = .dict k entries) (hk : k.isShorthand = true) :
    h.toPatternAt (n + 1) (.ref a) =
      h.declareFields (h.toPatternAt n) entries >>= fun fields => .ok (.object .reject fields) := by
  simp only [toPatternAt_ref, ha, hk]
  rfl

end Step

theorem declareFields_key {build : Value → Except Fault Pattern} {e : Value × Value}
    {rest : List (Value × Value)} (hkey : e.1.string? = none) :
    h.declareFields build (e :: rest) =
      h.display e.1 >>= fun shown => .error (.badPattern (.fieldNameNotText shown)) := by
  rw [declareFields, hkey]

theorem declareFields_field {build : Value → Except Fault Pattern} {e : Value × Value}
    {rest : List (Value × Value)} {name : String} (hkey : e.1.string? = some name) :
    h.declareFields build (e :: rest) = build e.2 >>= fun p =>
      h.declareFields build rest >>= fun fields => .ok ((name, p) :: fields) := by
  rw [declareFields, hkey]
  rfl

/-- What a raw value is read as, whatever the depth. -/
inductive RawForm (h : Heap) : Value → Prop where
  | atom {v : Value} {p : Pattern} (hp : p.isAtom = true)
    (hv : ∀ n, h.toPatternAt (n + 1) v = .ok p) : RawForm h v
  | stored {a : Address} {p : Pattern} {parts : List Provenance} (ha : h.cell a = .pattern p parts)
    (hv : ∀ n, h.toPatternAt (n + 1) (.ref a) = .ok p) : RawForm h (.ref a)
  | unknown {v : Value} (hv : ∀ n, h.toPatternAt (n + 1) v = .error (h.unknownPattern v)) :
    RawForm h v
  | element {a : Address} {k : SequenceKind} {x : Value} (ha : h.cell a = .sequence k [x])
    (hk : k.isShorthand = true) : RawForm h (.ref a)
  | list {a : Address} {k : SequenceKind} {items : List Value} (ha : h.cell a = .sequence k items)
    (hk : k.isShorthand = true) (hitems : ∀ x, items ≠ [x]) : RawForm h (.ref a)
  | fields {a : Address} {k : DictKind} {entries : List (Value × Value)}
    (ha : h.cell a = .dict k entries) (hk : k.isShorthand = true) : RawForm h (.ref a)

theorem rawForm (h : Heap) (v : Value) : h.RawForm v := by
  cases v with
  | ref a =>
    cases ha : h.cell a with
    | sequence k items =>
      cases hk : k.isShorthand with
      | true =>
        match items with
        | [x] => exact .element ha hk
        | [] | _ :: _ :: _ => exact .list ha hk (by simp)
      | false =>
        refine .unknown fun n => ?_
        simp only [toPatternAt_ref, ha, hk, Bool.not_false, if_true]
    | dict k entries =>
      cases hk : k.isShorthand with
      | true => exact .fields ha hk
      | false =>
        refine .unknown fun n => ?_
        simp only [toPatternAt_ref, ha, hk, Bool.not_false, if_true]
    | pattern p parts => exact .stored ha fun n => toPatternAt_pattern ha
    | byteArray content | inst c | predicate p =>
      refine .unknown fun n => ?_
      simp only [toPatternAt_ref, ha]
  | classObject c => exact .atom (Pattern.isAtom_toPattern c) fun n => rfl
  | null | undefined | str s | bool b | int n | float x | boxed b =>
    exact .atom rfl fun n => rfl
  | _ => exact .unknown fun n => rfl

/-! ### Depths -/

/-- Fields that were declared are declared by looking less deep, unless that is not deep enough. -/
theorem declareFields_of_ok {build build' : Value → Except Fault Pattern}
    (hbuild : ∀ v p, build v = .ok p → build' v = .ok p ∨ build' v = .error .nestingLimit)
    {entries : List (Value × Value)} {fields : List (String × Pattern)}
    (hfields : h.declareFields build entries = .ok fields) :
    h.declareFields build' entries = .ok fields ∨
      h.declareFields build' entries = .error .nestingLimit := by
  induction entries generalizing fields with
  | nil => exact .inl hfields
  | cons e rest ih =>
    obtain ⟨name, p, more, hname, hp, hmore, rfl⟩ := declareFields_cons_eq_ok_iff.mp hfields
    rw [declareFields_field hname]
    rcases hbuild _ _ hp with hp | hp
    · rcases ih hmore with hmore | hmore
      · rw [hp, hmore]
        exact .inl rfl
      · rw [hp, hmore]
        exact .inr rfl
    · rw [hp]
      exact .inr rfl

/-- A pattern that was found is found at any depth that is deep enough. -/
theorem toPatternAt_of_ok {n m : Nat} {v : Value} {p : Pattern} (hp : h.toPatternAt n v = .ok p) :
    h.toPatternAt m v = .ok p ∨ h.toPatternAt m v = .error .nestingLimit := by
  induction m generalizing n v p with
  | zero => exact .inr rfl
  | succ m ih =>
    rcases Nat.le_total n (m + 1) with hle | hle
    · exact .inl (toPatternAt_mono hp hle)
    obtain ⟨n, rfl⟩ := exists_succ_of_toPatternAt hp
    cases h.rawForm v with
    | atom _ hv | stored _ hv => exact .inl ((hv m).trans ((hv n).symm.trans hp))
    | unknown hv => cases (hv n).symm.trans hp
    | element ha hk =>
      obtain ⟨-, q, hq, rfl⟩ := (toPatternAt_element_eq_ok_iff ha).mp hp
      rw [toPatternAt_element ha hk]
      rcases ih hq with hq | hq <;> rw [hq]
      · exact .inl rfl
      · exact .inr rfl
    | list ha hk hitems => exact absurd hp (toPatternAt_sequence_ne_ok ha hitems)
    | fields ha hk =>
      obtain ⟨-, fields, hfields, rfl⟩ := (toPatternAt_dict_eq_ok_iff ha).mp hp
      rw [toPatternAt_dict ha hk]
      rcases declareFields_of_ok (fun v p hv => ih (v := v) (p := p) hv) hfields with hm | hm <;>
        rw [hm]
      · exact .inl rfl
      · exact .inr rfl

/-! ### Tuples of fields -/

theorem fieldEntries_tuple {a : Address} {k : SequenceKind} {items : List Value}
    (ha : h.cell a = .sequence k items) (hk : k.family = .tuple) :
    h.fieldEntries (.ref a) = h.collectPairs h.sizedPair 0 [] items := by
  cases k with
  | tuple | point => simp only [fieldEntries, ha]
  | _ => cases hk

/-- The field has the name of the entry and the pattern that its value stands for. -/
def DeclaredAs (h : Heap) (e : Value × Value) (f : String × Pattern) : Prop :=
  e.1.string? = some f.1 ∧ h.toPattern e.2 = .ok f.2

theorem declareFields_toPattern_eq_ok_iff {es : List (Value × Value)}
    {fields : List (String × Pattern)} :
    h.declareFields h.toPattern es = .ok fields ↔ List.Forall₂ h.DeclaredAs es fields :=
  declareFields_eq_ok_iff

end Heap

/-! ### Recipes with several operands -/

namespace Recipe

variable {h : Heap}

theorem object_build_eq_ok_iff {u : UnknownKeys} {v : Value} {p : Pattern} :
    (object u v).build h = .ok p ↔ ∃ es fields, h.fieldEntries v = .ok es ∧
      p = .object u fields ∧ List.Forall₂ h.DeclaredAs es fields := by
  rw [build, Heap.objectPattern, bind_eq_ok_iff]
  constructor
  · rintro ⟨es, hes, hp⟩
    obtain ⟨fields, hfields, hp⟩ := bind_eq_ok_iff.mp hp
    cases hp
    exact ⟨es, fields, hes, rfl, Heap.declareFields_toPattern_eq_ok_iff.mp hfields⟩
  · rintro ⟨es, fields, hes, rfl, hfields⟩
    exact ⟨es, hes, bind_eq_ok_iff.mpr
      ⟨fields, Heap.declareFields_toPattern_eq_ok_iff.mpr hfields, rfl⟩⟩

theorem oneOf_build_eq_ok_iff {xs : List Value} {p : Pattern} :
    (oneOf xs).build h = .ok p ↔ xs ≠ [] ∧ ∃ ps, p = .oneOf ps ∧
      List.Forall₂ (fun x q => h.toPattern x = .ok q) xs ps := by
  rw [build, Heap.choicePattern]
  cases xs with
  | nil => simp
  | cons x xs =>
    rw [List.isEmpty_cons, if_neg Bool.false_ne_true, bind_eq_ok_iff]
    constructor
    · rintro ⟨ps, hps, hp⟩
      cases hp
      exact ⟨List.cons_ne_nil x xs, ps, rfl, mapM_eq_ok_iff.mp hps⟩
    · rintro ⟨-, ps, rfl, hps⟩
      exact ⟨ps, mapM_eq_ok_iff.mpr hps, rfl⟩

end Recipe

end Conformance
