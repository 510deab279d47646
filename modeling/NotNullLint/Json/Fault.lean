import NotNullLint.Text.Basic
import NotNullLint.Shape.Mismatch

/-!
# Faults in JSON text

What can be wrong with a text, and where. A spot is given by what remains to be read there;
lines and columns are computed from it once, when the fault is shown. Columns count bytes.
-/

namespace NotNullLint
namespace Json

/-- A place in a text: the characters that follow, and how many bytes of the first of them lie
before the place. -/
structure Spot where
  rest : List Char
  bytes : Nat := 0
  deriving DecidableEq, Repr

namespace Spot

/-- The place `n` bytes further on. -/
def advance : Nat → List Char → Spot
  | 0, s => ⟨s, 0⟩
  | _, [] => ⟨[], 0⟩
  | n + 1, c :: r =>
    if c.utf8Size ≤ n + 1 then advance (n + 1 - c.utf8Size) r else ⟨c :: r, n + 1⟩
termination_by _ s => s

/-- The place after the next byte, or the end of the text. -/
def next (s : List Char) : Spot := advance 1 s

/-- Line and column of a spot in a text, the line counted from one and the column in bytes. -/
def position (text : List Char) (s : Spot) : Nat × Nat :=
  let seen := text.take (text.length - s.rest.length)
  (seen.count '\n' + 1, Text.byteCount (seen.reverse.takeWhile (· != '\n')) + s.bytes)

end Spot

/-- What is wrong with a text. -/
inductive Cause where
  | endInValue
  | endInText
  | endInArray
  | endInObject
  | noColon
  | noItemSeparator
  | noMemberSeparator
  | noLiteral
  | noValue
  | badEscape
  | badNumber
  | tooLarge
  | controlCharacter
  | nameNotText
  | loneSurrogate
  | missingSurrogate
  | trailingComma
  | trailingText
  | shape (m : Mismatch)
  deriving DecidableEq, Repr

/-- The text of a cause. -/
def Cause.message : Cause → String
  | endInValue => "EOF while parsing a value"
  | endInText => "EOF while parsing a string"
  | endInArray => "EOF while parsing a list"
  | endInObject => "EOF while parsing an object"
  | noColon => "expected `:`"
  | noItemSeparator => "expected `,` or `]`"
  | noMemberSeparator => "expected `,` or `\x7d`"
  | noLiteral => "expected ident"
  | noValue => "expected value"
  | badEscape => "invalid escape"
  | badNumber => "invalid number"
  | tooLarge => "number out of range"
  | controlCharacter => "control character (\\u0000-\\u001F) found while parsing a string"
  | nameNotText => "key must be a string"
  | loneSurrogate => "lone leading surrogate in hex escape"
  | missingSurrogate => "unexpected end of hex escape"
  | trailingComma => "trailing comma"
  | trailingText => "trailing characters"
  | shape m => m.message

/-- A cause with its spot. A mismatch floats until the part of the text that it concerns has been
closed; it then gets the spot behind the end of that part. -/
structure Fault where
  cause : Cause
  spot : Spot
  floats : Bool := false
  deriving DecidableEq, Repr

namespace Fault

/-- A fault at the place where `rest` is still to be read. -/
def before (cause : Cause) (rest : List Char) : Fault := { cause, spot := ⟨rest, 0⟩ }

/-- A fault seen in the next byte. -/
def near (cause : Cause) (rest : List Char) : Fault := { cause, spot := Spot.next rest }

/-- A mismatch noticed where `rest` is still to be read. -/
def floating (m : Mismatch) (rest : List Char) : Fault :=
  { cause := .shape m, spot := ⟨rest, 0⟩, floats := true }

/-- Gives a floating fault its place, `close` being what the end of the part leaves to be read. -/
def settle (close : List Char → List Char) (f : Fault) : Fault :=
  if f.floats then { f with spot := ⟨close f.spot.rest, 0⟩, floats := false } else f

@[simp] theorem cause_settle (close : List Char → List Char) (f : Fault) :
    (f.settle close).cause = f.cause := by
  unfold settle
  split <;> rfl

/-- The text of a fault in a text. -/
def message (text : List Char) (f : Fault) : String :=
  let (line, column) := f.spot.position text
  f.cause.message ++ " at line " ++ toString line ++ " column " ++ toString column

end Fault

/-- A value and what remains to be read after it. -/
abbrev Ahead (α : Type) := α × List Char

end Json
end NotNullLint
