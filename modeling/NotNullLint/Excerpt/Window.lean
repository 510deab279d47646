import NotNullLint.Text.Basic

/-!
# Windows on a source text

The stretch of a text that shows a span: the lines that the span touches with some lines before and
after it. Lines end in a line feed, a carriage return, or both. The window is found in one pass over
the bytes.
-/

namespace NotNullLint
namespace Excerpt

/-- A stretch of text, in bytes. -/
structure Span where
  offset : Nat
  length : Nat
  deriving DecidableEq, Repr, Inhabited

namespace Span

/-- The offset after the span. -/
def stop (s : Span) : Nat := s.offset + s.length

/-- The offset of the last byte, which for an empty span is the one before it. -/
def last (s : Span) : Nat := s.stop - 1

/-- The offset of the last byte, which for an empty span is the one at it. -/
def lastInside (s : Span) : Nat := s.offset + (s.length - 1)

end Span

/-! ### A pass over the bytes -/

/-- What a pass comes upon: a byte, or a line end with so many bytes before its last. -/
inductive Mark where
  | byte
  | lineEnd (before : Nat)
  deriving DecidableEq, Repr

/-- The bytes and line ends of a text. -/
def marks : List UInt8 → List Mark
  | [] => []
  | 13 :: 10 :: r => .lineEnd 1 :: marks r
  | b :: r => (if b = 13 ∨ b = 10 then .lineEnd 0 else .byte) :: marks r

/-- What is shown: a span, with numbers of lines before and after it. -/
structure View where
  span : Span
  before : Nat := 0
  after : Nat := 0
  deriving DecidableEq, Repr

/-- How far a pass has come. -/
structure Pass where
  offset : Nat := 0
  /-- Lines before the first that is shown. -/
  line : Nat := 0
  /-- Bytes before the span on its line. -/
  column : Nat := 0
  /-- Where the lines begin that are shown before the span's own line. -/
  starts : List Nat := []
  lineStart : Nat := 0
  /-- The span has ended. -/
  past : Bool := false
  /-- The line on which the span ends has ended. -/
  pastLine : Bool := false
  /-- Lines that have ended after that one. -/
  linesAfter : Nat := 0
  stopped : Bool := false
  deriving Repr, Inhabited

namespace View

/-- A line that ends before the span. -/
def keepLine (v : View) (p : Pass) : Pass :=
  let starts := p.starts ++ [p.lineStart]
  if v.before < starts.length then
    { p with column := 0, line := p.line + 1, starts := starts.tail }
  else { p with column := 0, starts }

/-- A line that ends after the span. -/
def countLine (v : View) (p : Pass) : Pass :=
  let p := { p with column := 0 }
  let p := if p.pastLine then { p with linesAfter := p.linesAfter + 1 }
    else { p with pastLine := true }
  if v.after ≤ p.linesAfter then { p with stopped := true } else p

/-- The end of a line. -/
def endLine (v : View) (p : Pass) : Pass :=
  if p.offset < v.span.offset then v.keepLine p
  else if v.span.lastInside ≤ p.offset ∧ p.past = true then v.countLine p
  else p

/-- Whether the span has ended, and with it the window. -/
def notice (v : View) (p : Pass) : Pass :=
  if p.stopped = true then p
  else if v.span.last ≤ p.offset then { p with past := true, stopped := p.linesAfter ≥ v.after }
  else p

/-- One step of a pass. -/
def step (v : View) (p : Pass) (m : Mark) : Pass :=
  if p.stopped = true then p
  else
    let p := match m with
      | .byte => if p.offset < v.span.offset then { p with column := p.column + 1 } else p
      | .lineEnd before =>
        let p := v.endLine { p with offset := p.offset + before }
        { p with lineStart := p.offset + 1 }
    let p := v.notice p
    { p with offset := p.offset + 1 }

end View

/-! ### Windows -/

/-- A stretch of a text and where it begins. -/
structure Window where
  start : Nat
  stop : Nat
  /-- Lines before the window. -/
  line : Nat
  /-- Bytes before the window on its first line. -/
  column : Nat
  deriving DecidableEq, Repr

/-- The window of a view, if the span lies within the text. -/
def View.window? (v : View) (content : ByteArray) : Option Window :=
  let p := (marks content.toList).foldl v.step {}
  if v.span.last ≤ p.offset then
    some {
      start := p.starts.head?.getD (if v.before = 0 then v.span.offset else 0)
      stop := p.offset
      line := p.line
      column := if v.before = 0 then p.column else 0 }
  else none

/-! ### Lines -/

/-- A line of a text: its number, the offset of its first byte, its bytes with those that end it,
and what it says. -/
structure Line where
  number : Nat
  offset : Nat
  length : Nat
  text : List Char
  deriving DecidableEq, Repr, Inhabited

/-- What the lines of a text say, each with the number of bytes that end it. Here a carriage return
alone is a character like others. -/
def splitLines : List Char → List (List Char × Nat)
  | [] => []
  | '\r' :: '\n' :: r => ([], 2) :: splitLines r
  | '\n' :: r => ([], 1) :: splitLines r
  | c :: r =>
    match splitLines r with
    | (t, e) :: ls => (c :: t, e) :: ls
    | [] => [([c], 0)]

/-- The line ends in nothing but a carriage return. -/
def endsInReturn (l : List Char × Nat) : Bool := l.2 = 0 && l.1.getLast? == some '\r'

/-- Lines with their numbers and offsets. A carriage return at the very end does not count. -/
def numberLines (before offset : Nat) : List (List Char × Nat) → List Line
  | [] => []
  | l :: ls =>
    let length := Text.byteCount l.1 + l.2
    ⟨if endsInReturn l then before else before + 1, offset, length, l.1⟩
      :: numberLines (before + 1) (offset + length) ls

/-- The lines of a window on a text. -/
def Window.lines (w : Window) (content : ByteArray) : List Line :=
  let shown := (String.fromUTF8? (content.extract w.start w.stop)).getD ""
  numberLines w.line w.start (splitLines shown.toList)

end Excerpt
end NotNullLint
