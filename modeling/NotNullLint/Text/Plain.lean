import NotNullLint.Text.Escape

/-!
# Plain text

What remains of a text when everything is taken out that tells a terminal something: control
characters other than white space, and sequences that an escape character begins. A sequence may
carry a control string or a device string, of which nothing remains either.
-/

namespace NotNullLint
namespace Text

/-- Where a text stands with respect to sequences that are taken out. -/
inductive Sequence where
  | none
  /-- After the escape character. -/
  | begun
  /-- After an escape character and intermediate characters. -/
  | intermediate
  /-- In a control sequence, which a final character ends. -/
  | control
  /-- In an operating system command, which a bell ends. -/
  | command
  /-- In the head of a device string, before and after its parameters have begun. -/
  | deviceStart
  | deviceParameters
  | deviceIntermediate
  /-- In a string, which a terminator ends. -/
  | content
  deriving DecidableEq, Repr, Inhabited

namespace Sequence

/-- White space that is printed. -/
def isPrintedSpace (c : Char) : Bool := c == '\t' || c == '\n' || c == '\x0c' || c == '\r'

/-- A control character. -/
def isControl (c : Char) : Bool := c.toNat < 0x20

/-- A character that cancels a sequence. -/
def cancels (c : Char) : Bool := c == '\x18' || c == '\x1a'

/-- The code points of the intermediate characters of a sequence. -/
def isIntermediate (c : Char) : Bool := 0x20 ≤ c.toNat && c.toNat ≤ 0x2F

/-- The code points of the parameters of a sequence, with a mark that is private to a terminal. -/
def isParameter (c : Char) : Bool := 0x30 ≤ c.toNat && c.toNat ≤ 0x3F

/-- A mark before the parameters that is private to a terminal. -/
def isPrivate (c : Char) : Bool := 0x3C ≤ c.toNat && c.toNat ≤ 0x3F

/-- The encoding of the character holds the terminator of strings. -/
def terminates (c : Char) : Bool := (String.singleton c).toUTF8.data.contains 0x9C

/-- The state after the character that follows an escape character. -/
def ofIntroducer (c : Char) : Sequence :=
  if c = '[' then control
  else if c = ']' then command
  else if c = 'P' then deviceStart
  else if c = 'X' ∨ c = '^' ∨ c = '_' then content
  else if isIntermediate c then intermediate
  else if isControl c ∨ 0x7F ≤ c.toNat then begun
  else none

/-- The state after a character in the head of a device string. -/
def nextOfDevice (q : Sequence) (c : Char) : Sequence :=
  if isIntermediate c then deviceIntermediate
  else if isParameter c then
    if q = deviceIntermediate ∨ (q = deviceParameters ∧ isPrivate c) then content
    else deviceParameters
  else if Escape.isFinal c then content
  else q

/-- The state after a character. -/
def next (q : Sequence) (c : Char) : Sequence :=
  if c = Escape.mark then begun
  else if cancels c then none
  else match q with
    | none => none
    | begun => ofIntroducer c
    | intermediate => if isParameter c ∨ Escape.isFinal c then none else intermediate
    | control => if Escape.isFinal c then none else control
    | command => if c = '\x07' then none else command
    | deviceStart | deviceParameters | deviceIntermediate => q.nextOfDevice c
    | content => if terminates c then none else content

/-- The character is printed outside of sequences. -/
def isPrinted (c : Char) : Bool := isPrintedSpace c || (!isControl c && c != '\x7f')

/-- White space within a sequence is carried out in its midst, if the sequence is no string. -/
def prints (q : Sequence) (c : Char) : Bool :=
  match q with
  | none => isPrinted c
  | begun | intermediate | control => isPrintedSpace c
  | _ => false

end Sequence

/-- What is printed of a text. Once something is printed all that follows is, up to the next
character that never is; a character beyond ASCII among it ends the sequence. -/
def printed (printing : Bool) (q : Sequence) : List Char → List Char
  | [] => []
  | c :: r =>
    if printing && Sequence.isPrinted c || q.prints c then
      c :: printed true (if c.toNat < 0x80 then q else .none) r
    else printed false (q.next c) r

/-- The text without anything that tells a terminal something. -/
def plain (s : String) : String := String.ofList (printed false .none s.toList)

end Text
end NotNullLint
