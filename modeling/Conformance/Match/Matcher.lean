import Conformance.Heap.Document
import Conformance.Match.Run
import Conformance.Path
import Conformance.Pattern.Build

/-!
# Matchers

A matcher takes a value and the path that leads to it, and succeeds or fails with the first
divergence. There is one matcher for each variant of pattern, and `Pattern.matcher` puts them
together by recursion on the pattern. Arrays are walked by index and objects in insertion order. How
a predicate is called is a parameter.
-/

namespace Conformance

abbrev Matcher := Value → String → Run Unit

structure Context where
  heap : Heap
  /-- Are failed checks noted? -/
  notesMismatches : Bool
  /-- The version that reports carry. -/
  coreVersion : String
  /-- Calls a predicate with one argument. -/
  call : Value → Value → Run Value

/-! ### Class operands -/

/-- Whether the value is an instance of what the operand of a class pattern stands for: a class, one
of two classes, or one of the members of a tuple, tried from left to right. -/
def Heap.isInstanceOfAt (h : Heap) (v : Value) : Nat → Value → Except Fault Bool
  | 0, _ => .error .nestingLimit
  | depth + 1, target => match target with
    | .classObject c => .ok (h.isInstance v c)
    | .union c d => .ok (h.isInstance v c || h.isInstance v d)
    | .listAlias _ => .error .parameterizedClass
    | .ref a => match h.cell a with
      | .sequence .tuple members | .sequence .point members =>
        members.anyM (h.isInstanceOfAt v depth)
      | _ => .error .notClass
    | _ => .error .notClass

def Heap.isInstanceOf (h : Heap) (v target : Value) : Except Fault Bool :=
  h.isInstanceOfAt v nestingLimit target

def Value.className? : Value → Option String
  | classObject c => some c.name
  | listAlias _ => some "list"
  | function f => some f.name
  | _ => none

/-- The words for an expected instance. An operand without a name, or with an empty one, is called
a particular constructor. -/
def Value.instanceWords (target : Value) : String :=
  match target.className? with
  | some name => if name = "" then "particular constructor" else name
  | none => "particular constructor"

/-- One declared field of an object: whether it must be present, and what its value must match. -/
structure FieldMatcher where
  name : String
  required : Bool
  matcher : Matcher

namespace Matcher

/-! ### Leaves -/

def any : Matcher := fun _ _ => .ok ()

def literal (h : Heap) (expected : Value) : Matcher := fun v path => do
  let same ← Run.lift (if h.category v = h.category expected then h.equal v expected else .ok false)
  if same then return
  let wanted ← Run.lift (h.renderLiteral expected)
  Run.mismatch (.expected wanted (h.renderValue v)) path

/-- Matches a value of one category. Where null was expected, the failure shows the value. -/
def typeTag (h : Heap) (k : TypeKind) : Matcher := fun v path =>
  let found := if k = .null then h.renderValue v else (h.category v).name
  Run.require (h.category v = k.category) (.expected k.name found) path

/-- Matches a value of one category, for the categories that no type tag stands for. -/
def ofCategory (h : Heap) (c : Category) : Matcher := fun v path =>
  Run.require (h.category v = c) (.expected c.name (h.category v).name) path

/-- Is the value an integer, or a double without a fractional part? -/
def isWhole : Value → Bool
  | .int _ => true
  | .float x => x.isWhole
  | _ => false

def integer (h : Heap) : Matcher := fun v path =>
  if h.category v = .number then
    Run.require (isWhole v) (.expected "Integer" (h.renderValue v)) path
  else Run.mismatch (.expected "Integer" (h.category v).name) path

def instanceOf (h : Heap) (target : Value) : Matcher := fun v path => do
  let belongs ← Run.lift (h.isInstanceOf v target)
  Run.require belongs (.expectedInstance target.instanceWords) path

/-! ### Arrays -/

def array (h : Heap) : Matcher := fun v path =>
  Run.require (h.isArrayLike v) (.expected "array" (h.renderValue v)) path

def arrayOf (h : Heap) (element : Matcher) : Matcher := fun v path => do
  array h v path
  Run.eachElement
    (fun item index => do element item (← Run.lift (Path.join h path (.int index))))
    (h.elements v)

/-! ### Objects -/

/-- The entries of a plain object. An array fails here as an object that is not plain. -/
def plainEntries (h : Heap) (v : Value) (path : String) : Run (List (Value × Value)) :=
  if h.category v = .object ∨ h.category v = .array then
    match h.plainEntries? v with
    | some entries => .ok entries
    | none => Run.mismatch .notPlain path
  else Run.mismatch (.expected "object" (h.category v).name) path

/-- Matches a plain object whose values all match, in insertion order. -/
def values (h : Heap) (element : Matcher) : Matcher := fun v path => do
  let entries ← plainEntries h v path
  Run.each (fun e => do element e.2 (← Run.lift (Path.join h path e.1))) entries

def field? (fields : List FieldMatcher) (key : Value) : Option FieldMatcher :=
  key.text?.bind fun name => fields.find? (·.name = name)

/-- Matches one entry of an object against its field. A key without a field is passed over or
rejected. -/
def entry (h : Heap) (unknown : UnknownKeys) (fields : List FieldMatcher) (path : String)
    (e : Value × Value) : Run Unit :=
  match field? fields e.1, unknown with
  | some f, _ => do f.matcher e.2 (← Run.lift (Path.join h path e.1))
  | none, .allow => .ok ()
  | none, .reject => do Run.mismatch .unknownKey (← Run.lift (Path.join h path e.1))

/-- The first required field, in declaration order, that no entry has. -/
def missing? (fields : List FieldMatcher) (entries : List (Value × Value)) : Option String :=
  (fields.find? fun f => f.required && !entries.any fun e => e.1.text? = some f.name).map (·.name)

/-- Matches a plain object with declared fields: first its entries in insertion order, then the
presence of the required fields. -/
def object (h : Heap) (unknown : UnknownKeys) (fields : List FieldMatcher) : Matcher :=
  fun v path => do
    let entries ← plainEntries h v path
    Run.each (entry h unknown fields path) entries
    match missing? fields entries with
    | some name => Run.mismatch (.missingKey name) path
    | none => return

/-! ### Combinators -/

def excuses : Wrapper → Value → Bool
  | _, .undefined => true
  | .maybe, .null => true
  | _, _ => false

def wrap (w : Wrapper) (inner : Matcher) : Matcher := fun v path =>
  if excuses w v then .ok () else inner v path

def oneOf : List Matcher → Matcher
  | [], _, path => Run.mismatch .noChoice path
  | m :: rest, v, path => (m v path).recover fun _ => oneOf rest v path

/-- Matches if the predicate returns a value that counts as true. A mismatch that the predicate
declares is moved to the path. -/
def satisfies (c : Context) (predicate : Value) : Matcher := fun v path => do
  let answer ← (c.call predicate v).recover fun m => Run.mismatch m.reason (Path.concat path m.path)
  Run.require (c.heap.isTruthy answer) .rejected path

/-- Fails on every value: the variant is not known. -/
def unknown (p : Pattern) : Matcher := fun _ _ => Run.fault (.badPattern (.unknownType p.typeName))

end Matcher

/-! ### Patterns -/

mutual

def Pattern.matcher (c : Context) : Pattern → Matcher
  | .any => Matcher.any
  | .literal v => Matcher.literal c.heap v
  | .typeTag .native k => Matcher.typeTag c.heap k
  | .integer => Matcher.integer c.heap
  | .objectTag => Matcher.ofCategory c.heap .object
  | .arrayTag => Matcher.array c.heap
  | .functionTag => Matcher.ofCategory c.heap .function
  | .dateTag => Matcher.instanceOf c.heap (.classObject .datetime)
  | .regexTag => Matcher.instanceOf c.heap (.classObject .regex)
  | .instanceOf target => Matcher.instanceOf c.heap target
  | .arrayOf p => Matcher.arrayOf c.heap (p.matcher c)
  | .object unknown fields => Matcher.object c.heap unknown (Pattern.fieldMatchers c fields)
  | .objectWithValues p => Matcher.values c.heap (p.matcher c)
  | .wrap .native w p => Matcher.wrap w (p.matcher c)
  | .oneOf choices => Matcher.oneOf (Pattern.choiceMatchers c choices)
  | .satisfies predicate => Matcher.satisfies c predicate
  | p => Matcher.unknown p
termination_by structural p => p

/-- The matchers of declared fields. A wrapped field may be absent; one wrapper is removed, so a
value that is present gets no excuse from it. -/
def Pattern.fieldMatchers (c : Context) : List (String × Pattern) → List FieldMatcher
  | [] => []
  | (name, .wrap _ _ p) :: rest => ⟨name, false, p.matcher c⟩ :: Pattern.fieldMatchers c rest
  | (name, p) :: rest => ⟨name, true, p.matcher c⟩ :: Pattern.fieldMatchers c rest
termination_by structural fields => fields

def Pattern.choiceMatchers (c : Context) : List Pattern → List Matcher
  | [] => []
  | p :: rest => p.matcher c :: Pattern.choiceMatchers c rest
termination_by structural choices => choices

end

end Conformance
