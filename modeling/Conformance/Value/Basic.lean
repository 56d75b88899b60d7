import Conformance.Calendar
import Conformance.Number.Exact
import Conformance.Value.Class

/-!
# Values

A value is either complete in itself or a reference to an object with parts, which a heap holds.
Values that are complete in themselves have no identity beyond their content; a number that is not a
number keeps a tag for it. So two occurrences of a value are the same object exactly when they are
equal as terms.
-/

namespace Conformance

abbrev Address := Nat

inductive Boxed where
  | str (s : String)
  | int (n : Int)
  | float (x : Double)
deriving DecidableEq

inductive BytesKind where
  | bytes | memoryview
deriving DecidableEq

inductive Function where
  /-- Takes anything and returns nothing. -/
  | noop
  /-- The length of a sized value. -/
  | length
  /-- A method bound to a list, which appends its argument and returns nothing. -/
  | method
deriving DecidableEq

/-- The name of a function. The one that takes anything was made without a name. -/
def Function.name : Function → String
  | noop => "<lambda>"
  | length => "len"
  | method => "append"

inductive Value where
  /-- Stands for a value that was never supplied. -/
  | undefined
  | null
  | bool (b : Bool)
  | int (n : Int)
  | float (x : Double)
  | str (s : String)
  | boxed (b : Boxed)
  /-- A string object whose elements are string objects of one character. -/
  | userStr (s : String)
  | range (start stop step : Int)
  | bytes (kind : BytesKind) (content : List UInt8)
  | complex (re im : Double)
  | decimal (d : Decimal)
  | datetime (m : Moment)
  | date (d : Date)
  /-- A compiled regular expression, by its text. -/
  | regex (text : String)
  | classObject (c : Class)
  /-- Either of two classes. -/
  | union (left right : Class)
  /-- A list type with an element class; it is not a class. -/
  | listAlias (element : Class)
  | function (f : Function)
  /-- An object with identity or with parts. -/
  | ref (a : Address)
deriving DecidableEq, Inhabited

namespace Value

def unionOf (c d : Class) : Value := if c = d then .classObject c else .union c d

def integer? : Value → Option Int
  | int n => some n
  | boxed (.int n) => some n
  | _ => none

/-- The integer that a value stands for where an index is wanted. -/
def index? : Value → Option Int
  | bool b => some (if b then 1 else 0)
  | v => v.integer?

def string? : Value → Option String
  | str s => some s
  | boxed (.str s) => some s
  | _ => none

/-- The text that a value compares equal to: a string, boxed or not, or a string object. -/
def text? : Value → Option String
  | userStr s => some s
  | v => v.string?

def number? : Value → Option ComplexValue
  | bool b => some (.ofReal (.ofInt (if b then 1 else 0)))
  | int n => some (.ofReal (.ofInt n))
  | float x => some (.ofReal (.ofDouble x))
  | boxed (.int n) => some (.ofReal (.ofInt n))
  | boxed (.float x) => some (.ofReal (.ofDouble x))
  | decimal d => some (.ofReal (.ofDecimal d))
  | complex re im => some ⟨.ofDouble re, .ofDouble im⟩
  | _ => none

theorem text?_str (s : String) : (str s).text? = some s := rfl

theorem number?_str (s : String) : (str s).number? = none := rfl

end Value

/-! ### Comparison with decimal numbers -/

namespace Value

def isSignaling : Value → Bool
  | decimal d => d.isSignaling
  | _ => false

/-- Is the value compared with decimal numbers as a number? A complex number is only if it is
real. -/
def isReal : Value → Bool
  | complex _ im => im.isZero
  | v => v.number?.isSome

/-- Are both values real numbers of which one refuses to be compared? -/
def refusesComparison (v w : Value) : Bool :=
  (v.isSignaling && w.isReal) || (w.isSignaling && v.isReal)

theorem refusesComparison_comm (v w : Value) :
    v.refusesComparison w = w.refusesComparison v := by
  simp only [refusesComparison, Bool.or_comm]

end Value
end Conformance
