import Conformance.Value.Basic
import Conformance.Value.Category

/-!
# Patterns

A pattern is a finite tree that describes the shape of values. It never changes once it is built.
Sub-patterns are patterns; the operands of literals, class patterns and predicates are values.
-/

namespace Conformance

/-- What an object pattern does with keys that it does not declare. -/
inductive UnknownKeys where
  | reject | allow
deriving DecidableEq, Repr

inductive Wrapper where
  /-- Excuses an undefined value. -/
  | optional
  /-- Excuses an undefined value and null. -/
  | maybe
deriving DecidableEq, Repr

/-- Whether a variant is one of the library's own or a specialisation that the matcher does not
know. -/
inductive Origin where
  | native | foreign
deriving DecidableEq, Repr

/-- The types of patterns that describe nothing. -/
inductive ForeignType where
  /-- The type that all patterns derive from. -/
  | general
  /-- A type that somebody else derived from it. -/
  | derived
deriving DecidableEq, Repr

/-- A description of the shape of values. -/
inductive Pattern where
  | any
  /-- A value of the same category that compares equal. -/
  | literal (value : Value)
  /-- A value of one category. -/
  | typeTag (origin : Origin) (kind : TypeKind)
  | integer
  | objectTag
  | arrayTag
  | functionTag
  | dateTag
  | regexTag
  /-- An instance of the class, or of one of the classes, that `target` stands for. -/
  | instanceOf (target : Value)
  /-- An array of elements of one shape. -/
  | arrayOf (element : Pattern)
  /-- A plain object with the declared fields. -/
  | object (unknown : UnknownKeys) (fields : List (String × Pattern))
  /-- A plain object whose values have one shape. -/
  | objectWithValues (values : Pattern)
  | wrap (origin : Origin) (wrapper : Wrapper) (inner : Pattern)
  /-- At least one of the choices. -/
  | oneOf (choices : List Pattern)
  /-- A value that a predicate accepts. -/
  | satisfies (predicate : Value)
  /-- A pattern of a type that the matcher does not know, told apart by a tag. -/
  | foreign (type : ForeignType) (tag : Nat)

namespace Pattern

/-- The word by which log records name the variant. -/
def kind : Pattern → String
  | any => "any"
  | literal _ => "literal"
  | typeTag _ _ => "type"
  | integer => "integer"
  | objectTag => "object"
  | arrayTag => "array"
  | functionTag => "function"
  | dateTag => "date"
  | regexTag => "regexp"
  | instanceOf _ => "class"
  | arrayOf _ => "array_of"
  | object .reject _ => "object_shape"
  | object .allow _ => "object_including"
  | objectWithValues _ => "object_with_values"
  | wrap _ .optional _ => "optional"
  | wrap _ .maybe _ => "maybe"
  | oneOf _ => "one_of"
  | satisfies _ => "where"
  | foreign _ _ => "pattern"

def typeName : Pattern → String
  | any => "AnyPattern"
  | literal _ => "Literal"
  | typeTag .native _ => "TypeTag"
  | typeTag .foreign _ => "SubTag"
  | integer => "IntegerPattern"
  | objectTag => "ObjectTag"
  | arrayTag => "ArrayTag"
  | functionTag => "FunctionTag"
  | dateTag => "DateTag"
  | regexTag => "RegExpTag"
  | instanceOf _ => "ClassRef"
  | arrayOf _ => "ArrayOf"
  | object .reject _ => "ObjectShape"
  | object .allow _ => "ObjectIncluding"
  | objectWithValues _ => "ObjectWithValues"
  | wrap .native .optional _ => "Optional"
  | wrap .native .maybe _ => "Maybe"
  | wrap .foreign .optional _ => "SubOptional"
  | wrap .foreign .maybe _ => "SubMaybe"
  | oneOf _ => "OneOf"
  | satisfies _ => "Where"
  | foreign .general _ => "Pattern"
  | foreign .derived _ => "Custom"

def fieldNames : Pattern → List String
  | literal _ => ["value"]
  | typeTag _ _ => ["name"]
  | instanceOf _ => ["cls"]
  | arrayOf _ => ["element"]
  | object _ _ => ["fields"]
  | objectWithValues _ => ["values"]
  | wrap _ _ _ => ["inner"]
  | oneOf _ => ["choices"]
  | satisfies _ => ["predicate"]
  | _ => []

end Pattern
end Conformance
