/-!
# Categories

The primitive category of a value, as failures name it, and the six categories that a type tag may
ask for.
-/

namespace Conformance

inductive Category where
  | undefined | null | boolean | number | string | array | function | object
deriving DecidableEq, Repr

def Category.name : Category → String
  | undefined => "undefined"
  | null => "null"
  | boolean => "boolean"
  | number => "number"
  | string => "string"
  | array => "array"
  | function => "function"
  | object => "object"

inductive TypeKind where
  | string | number | boolean | function | undefined | null
deriving DecidableEq, Repr

namespace TypeKind

def all : List TypeKind := [string, number, boolean, function, undefined, null]

def category : TypeKind → Category
  | string => .string
  | number => .number
  | boolean => .boolean
  | function => .function
  | undefined => .undefined
  | null => .null

def name (k : TypeKind) : String := k.category.name

def ofName? (name : String) : Option TypeKind := all.find? (·.name = name)

theorem ofName?_name (k : TypeKind) : ofName? k.name = some k := by cases k <;> rfl

theorem category_injective {j k : TypeKind} (h : j.category = k.category) : j = k := by
  cases j <;> cases k <;> simp_all [category]

end TypeKind
end Conformance
