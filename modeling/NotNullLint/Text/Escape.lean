/-!
# Escape sequences

Sequences of characters that tell a terminal something, and that it does not show. A control
sequence begins with an escape character and a bracket and ends with a final character; a command
begins with an escape character and a closing bracket and ends with a bell or a terminator; every
other sequence is an escape character with the character after it.
-/

namespace NotNullLint
namespace Text

/-- Where a text stands between and within escape sequences. -/
inductive Escape where
  | outside
  /-- After the escape character. -/
  | begun
  | control
  /-- In a command; an escape character before tells that its terminator may follow. -/
  | command (escaped : Bool)
  deriving DecidableEq, Repr, Inhabited

namespace Escape

/-- The escape character. -/
def mark : Char := '\x1b'

/-- A character that ends a control sequence. -/
def isFinal (c : Char) : Bool := 0x40 ≤ c.toNat && c.toNat ≤ 0x7E

/-- The state after a character. -/
def next : Escape → Char → Escape
  | outside, c => if c = mark then begun else outside
  | begun, c => if c = '[' then control else if c = ']' then command false else outside
  | control, c => if isFinal c then outside else control
  | command escaped, c =>
    if c = '\x07' ∨ (c = '\\' ∧ escaped = true) then outside else command (c == mark)

/-- A character belongs to an escape sequence. -/
def hides : Escape → Char → Bool
  | outside, c => c == mark
  | _, _ => true

/-- The state after a text. -/
def after (e : Escape) (s : List Char) : Escape := s.foldl next e

@[simp] theorem after_nil (e : Escape) : e.after [] = e := rfl

@[simp] theorem after_cons (e : Escape) (c : Char) (s : List Char) :
    e.after (c :: s) = (e.next c).after s := rfl

theorem after_append (e : Escape) (s t : List Char) : e.after (s ++ t) = (e.after s).after t := by
  simp [after]

theorem hides_outside (c : Char) : outside.hides c = (c == mark) := rfl

end Escape
end Text
end NotNullLint
