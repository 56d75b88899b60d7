import Conformance.Heap.Display
import Conformance.Text.Escape

/-!
# Paths

A path is a chain of accessors that leads from the root of a value to a part of it. An index and a
key of digits stand between brackets; a key that is an identifier and no reserved word stands by
itself, after a point unless it comes first; every other key is quoted between brackets.
-/

namespace Conformance.Path

/-! ### Accessors of names -/

def reservedWords : List String :=
  ["False", "None", "True", "and", "as", "assert", "async", "await", "break", "class", "continue",
    "def", "del", "elif", "else", "except", "finally", "for", "from", "global", "if", "import",
    "in", "is", "lambda", "nonlocal", "not", "or", "pass", "raise", "return", "try", "while",
    "with", "yield"]

def isNumeric (name : List Char) : Bool := !name.isEmpty && name.all Char.isDigit

/-- May the character begin an identifier? Letters are those of ASCII. -/
def isHead (c : Char) : Bool := c.isAlpha || c = '_' || c = '$'

def isIdentifier : List Char → Bool
  | [] => false
  | c :: rest => isHead c && rest.all fun d => isHead d || d.isDigit

def accessorChars (name : List Char) : List Char :=
  if isNumeric name then '[' :: name ++ [']']
  else if isIdentifier name && !reservedWords.contains (String.ofList name) then name
  else '[' :: Text.Repertoire.unicode.quoteChars name ++ [']']

def accessor (name : String) : String := String.ofList (accessorChars name.toList)

theorem accessorChars_ne_nil (name : List Char) : accessorChars name ≠ [] := by
  simp only [accessorChars]
  split
  · simp
  · split
    · rename_i h
      intro hn
      simp [hn, isIdentifier] at h
    · simp

theorem accessor_ne_empty (name : String) : accessor name ≠ "" := by
  intro h
  have hl : (accessor name).toList = [] := by rw [h]; rfl
  rw [accessor, String.toList_ofList] at hl
  exact accessorChars_ne_nil _ hl

/-- The accessor of a key of any type. An integer is an index; all else goes by its text. -/
def keyAccessor (h : Heap) (key : Value) : Except Fault String :=
  match key.integer? with
  | some n => do return "[" ++ (← integerText n) ++ "]"
  | none => do return accessor (← h.text key)

theorem keyAccessor_str (h : Heap) (s : String) : keyAccessor h (.str s) = .ok (accessor s) := rfl

/-! ### Chains -/

/-- Appends one path to another. A point separates them unless the second begins with a bracket. -/
def concat (base tail : String) : String :=
  if base = "" then tail
  else if tail = "" then base
  else if tail.toList.head? = some '[' then base ++ tail
  else base ++ "." ++ tail

@[simp] theorem concat_empty_left (tail : String) : concat "" tail = tail := by
  simp [concat]

@[simp] theorem concat_empty_right (base : String) : concat base "" = base := by
  simp only [concat]
  split
  · rename_i h
    exact h.symm
  · simp

def join (h : Heap) (path : String) (key : Value) : Except Fault String := do
  return concat path (← keyAccessor h key)

end Conformance.Path
