import NotNullLint.Text.Basic

/-!
# Patterns for values

What a directive may give as the value of a field: a number, or a pattern for texts. A pattern is
read from left to right; it is well formed if every group and every set of characters that it opens
is closed, and if every repetition has something to repeat. A value holds no closing brace, since
that ends the condition, and so an opening one outside of a set is never right.
-/

namespace NotNullLint
namespace Log
namespace ValuePattern

/-! ### What is open -/

/-- Where the next character of a pattern stands. -/
inductive Place where
  /-- Where an item begins and there is nothing to repeat. -/
  | start
  /-- Behind an item, which may be repeated. -/
  | behindItem
  | groupStart
  /-- Behind the question mark at the start of a group. -/
  | groupMark
  /-- In front of the name of a group, and in it. -/
  | beforeName
  | name (begun : Bool)
  /-- At the start of a set, which a circumflex turns round if none did before. -/
  | setStart (turned : Bool)
  | escape
  /-- Among the digits of a code point. -/
  | digits (left value : Nat)
  deriving DecidableEq, Repr, Inhabited

/-- A pattern of which a part has been read. -/
structure Draft where
  /-- The number of open groups. -/
  groups : Nat := 0
  /-- The number of open sets, each within the one before. -/
  sets : Nat := 0
  place : Place := .start
  /-- The code point with which a range may begin in a set. -/
  low : Option Nat := none
  /-- A hyphen stands behind the beginning of a range. -/
  ranged : Bool := false
  deriving DecidableEq, Repr, Inhabited

namespace Draft

/-- Nothing is open. -/
def isComplete (d : Draft) : Bool :=
  d.groups == 0 && d.sets == 0 && (d.place == .start || d.place == .behindItem)

/-- The draft with a character that stands for itself. A range does not run backwards. -/
def literal (d : Draft) (n : Nat) : Option Draft :=
  if d.ranged then
    if d.low.all (· ≤ n) then some { d with place := .behindItem, low := none, ranged := false }
    else none
  else some { d with place := .behindItem, low := if d.sets = 0 then none else some n }

/-- The draft without the set that was opened last. -/
def closeSet (d : Draft) : Draft :=
  { d with sets := d.sets - 1, place := .behindItem, low := none, ranged := false }

/-- The draft with one more set. -/
def openSet (d : Draft) : Draft :=
  { d with sets := d.sets + 1, place := .setStart false, low := none, ranged := false }

/-- The draft after a character of a set. -/
def nextInSet (d : Draft) (c : Char) : Option Draft :=
  if c == '\\' then some { d with place := .escape }
  else if c == ']' then some d.closeSet
  else if c == '[' && !d.ranged then some d.openSet
  else if c == '-' && d.ranged then some { d with low := none, ranged := false }
  else if c == '-' && d.low.isSome then some { d with ranged := true }
  else d.literal c.toNat

/-- The draft after the first character of a set: a hyphen or a closing bracket stands for itself
there. -/
def nextInNewSet (d : Draft) (turned : Bool) (c : Char) : Option Draft :=
  if c == '^' && !turned then some { d with place := .setStart true }
  else if c == '-' then some { d with place := .behindItem }
  else if c == ']' then d.literal c.toNat
  else { d with place := .behindItem }.nextInSet c

/-- The draft after a character outside of sets. -/
def nextOutside (d : Draft) (c : Char) : Option Draft :=
  match c with
  | '\\' => some { d with place := .escape }
  | '(' => some { d with groups := d.groups + 1, place := .groupStart }
  | ')' =>
    if d.groups = 0 then none else some { d with groups := d.groups - 1, place := .behindItem }
  | '|' => some { d with place := .start }
  | '[' => some d.openSet
  | '?' | '*' | '+' => if d.place = .behindItem then some d else none
  | '\x7b' => none
  | c => d.literal c.toNat

/-! ### Escapes -/

/-- The code point that a character behind a backslash stands for. -/
def escaped? : Char → Option Nat
  | 'a' => some 0x7
  | 't' => some 0x9
  | 'n' => some 0xA
  | 'v' => some 0xB
  | 'f' => some 0xC
  | 'r' => some 0xD
  | c => if 0x80 ≤ c.toNat ∨ c.isAlphanum ∨ c = '<' ∨ c = '>' then none else some c.toNat

/-- The number of digits of a code point behind a letter. -/
def digitCount? : Char → Option Nat
  | 'x' => some 2
  | 'u' => some 4
  | 'U' => some 8
  | _ => none

/-- The draft after the character behind a backslash. Two letters stand for the ends of a text. -/
def nextEscaped (d : Draft) (c : Char) : Option Draft :=
  match digitCount? c with
  | some n => some { d with place := .digits n 0 }
  | none =>
    if (c == 'A' || c == 'z') && d.sets == 0 then some { d with place := .behindItem }
    else (escaped? c).bind d.literal

/-- The draft after a digit of a code point. -/
def nextDigit (d : Draft) (left value : Nat) (c : Char) : Option Draft :=
  match Text.hexDigit? c with
  | none => none
  | some n =>
    let m := 16 * value + n
    if 1 < left then some { d with place := .digits (left - 1) m }
    else if m.isValidChar then d.literal m
    else none

/-! ### Reading -/

/-- The draft after a character of the name of a group. -/
def nextInName (d : Draft) (begun : Bool) (c : Char) : Option Draft :=
  if c == '>' then if begun then some { d with place := .start } else none
  else if c == '_' || c.isAlpha || (begun && (c.isDigit || c == '.' || c == '[' || c == ']')) then
    some { d with place := .name true }
  else none

/-- The draft after a character. -/
def next (d : Draft) (c : Char) : Option Draft :=
  match d.place with
  | .start | .behindItem => if d.sets = 0 then d.nextOutside c else d.nextInSet c
  | .groupStart =>
    if c == '?' then some { d with place := .groupMark }
    else { d with place := .start }.nextOutside c
  | .groupMark =>
    if c == ':' then some { d with place := .start }
    else if c == 'P' then some { d with place := .beforeName }
    else if c == '<' then some { d with place := .name false }
    else none
  | .beforeName => if c == '<' then some { d with place := .name false } else none
  | .name begun => d.nextInName begun c
  | .setStart turned => d.nextInNewSet turned c
  | .escape => d.nextEscaped c
  | .digits left value => d.nextDigit left value c

/-- The draft after a text. -/
def after (d : Draft) (s : List Char) : Option Draft := s.foldlM next d

@[simp] theorem after_nil (d : Draft) : d.after [] = some d := rfl

theorem after_append (d : Draft) (s t : List Char) :
    d.after (s ++ t) = (d.after s).bind (·.after t) := by
  simp [after, List.foldlM_append]

end Draft

/-- The text is a well-formed pattern. -/
def isPattern (s : List Char) : Bool := (({} : Draft).after s).any Draft.isComplete

/-! ### Numbers -/

/-- Digits, of which there is at least one, with at most one point among them. -/
def isDecimal (s : List Char) : Bool :=
  s.any Char.isDigit && s.all (fun c => c.isDigit || c == '.') && s.count '.' ≤ 1

/-- Digits, perhaps with a sign before them. -/
def isExponent (s : List Char) : Bool :=
  let digits := match s with
    | '+' :: r | '-' :: r => r
    | _ => s
  !digits.isEmpty && digits.all Char.isDigit

/-- A number without its sign, or a word for what is no finite number. -/
def isMagnitude (s : List Char) : Bool :=
  ["inf", "infinity", "nan"].any (Text.sameLetters · (String.ofList s))
    || (isDecimal (s.takeWhile (·.toLower != 'e'))
        && match s.dropWhile (·.toLower != 'e') with
          | [] => true
          | _ :: e => isExponent e)

/-- The text can be the value of a field. A number is well formed as a pattern too, unless it begins
with a sign for repetition. -/
def isValue (s : List Char) : Bool :=
  isPattern s || match s with
    | '+' :: r => isMagnitude r
    | _ => false

end ValuePattern
end Log
end NotNullLint
