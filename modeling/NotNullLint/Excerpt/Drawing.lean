import NotNullLint.Excerpt.Cell
import NotNullLint.Excerpt.Window
import NotNullLint.Text.Basic

/-!
# Drawn excerpts

A window on a source text in a box, its lines numbered, with a labelled span. A span on one line is
underlined and its label hangs from the middle of the line; a span over several lines is marked by
an arrow at either end, in a gutter left of the text, and its label follows the second arrow.
-/

namespace NotNullLint
namespace Excerpt

/-- A labelled span in a named text. -/
structure Label where
  span : Span
  text : String
  deriving DecidableEq, Repr, Inhabited

/-- So many times the same character. -/
def repeated (n : Nat) (c : Char) : String := String.ofList (List.replicate n c)

/-! ### Spans and lines -/

namespace Line

/-- The offset after the line. -/
def stop (l : Line) : Nat := l.offset + l.length

/-- The span begins on the line, given that it shows on it. -/
def hasStart (l : Line) (s : Span) : Bool := l.offset ≤ s.offset

/-- The span ends on the line. -/
def hasStop (l : Line) (s : Span) : Bool := l.offset ≤ s.stop && s.stop ≤ l.stop

/-- The line holds all of the span. -/
def holds (l : Line) (s : Span) : Bool := l.offset ≤ s.offset && s.stop ≤ l.stop

/-- The offset after the span, an empty one being taken to have one byte. -/
def shownStop (s : Span) : Nat := s.offset + max s.length 1

/-- The first byte of the span is on the line. -/
def showsStart (l : Line) (s : Span) : Bool := l.offset ≤ s.offset && s.offset < l.stop

/-- The last byte of the span is on the line. -/
def showsStop (l : Line) (s : Span) : Bool :=
  l.offset < shownStop s && shownStop s ≤ l.stop

/-- The span shows on the line. -/
def shows (l : Line) (s : Span) : Bool :=
  l.showsStart s || (s.offset < l.offset && l.stop < shownStop s) || l.showsStop s

/-- The span shows on the line and on others. -/
def showsPart (l : Line) (s : Span) : Bool := l.shows s && !(l.showsStart s && l.showsStop s)

/-- The span covers the line and goes on. -/
def isCovered (l : Line) (s : Span) : Bool := s.offset < l.offset && l.stop < s.stop

end Line

/-! ### Columns -/

/-- Columns between the places where a tab leads. -/
def tabWidth : Nat := 4

/-- How far text has been set: the column, and whether an escape sequence is open, which takes no
columns and ends in `m`. -/
structure Pen where
  column : Nat := 0
  escaped : Bool := false
  deriving Repr

namespace Pen

/-- Columns that a character takes. -/
def advance (p : Pen) (c : Char) : Nat :=
  if p.escaped || c == '\x1b' then 0
  else if c == '\t' then tabWidth - p.column % tabWidth
  else cells c

/-- The pen after a character. -/
def next (p : Pen) (c : Char) : Pen where
  column := p.column + p.advance c
  escaped := if p.escaped then c != 'm' else c == '\x1b'

/-- How a character is set: a tab as blanks. -/
def set (p : Pen) (c : Char) : List Char :=
  if c == '\t' then List.replicate (p.advance c) ' ' else [c]

/-- How characters are set. -/
def setAll (p : Pen) : List Char → List Char
  | [] => []
  | c :: r => p.set c ++ (p.next c).setAll r

end Pen

/-- Columns that a text takes. -/
def columns (s : List Char) : Nat := (s.foldl Pen.next {}).column

/-- The characters among the first `n` bytes; one that is cut counts if `whole` asks for it. Also
tells whether the text has fewer bytes. -/
def takeBytes (whole : Bool) : Nat → List Char → List Char × Bool
  | 0, _ => ([], false)
  | _ + 1, [] => ([], true)
  | n + 1, c :: r =>
    if c.utf8Size ≤ n + 1 then
      let p := takeBytes whole (n + 1 - c.utf8Size) r
      (c :: p.1, p.2)
    else if whole then ([c], false) else ([], false)
termination_by _ s => s.length

/-- The column of an offset on a line. All that ends a line is one column. -/
def Line.columnOf (l : Line) (isStop : Bool) (offset : Nat) : Nat :=
  let p := takeBytes isStop (offset - l.offset) l.text
  columns p.1 + if p.2 then 1 else 0

/-! ### The box -/

/-- What the lines of a box have in common: the width of line numbers, and whether there is a
gutter. -/
structure Layout where
  numberWidth : Nat
  gutter : Bool
  deriving DecidableEq, Repr

namespace Layout

/-- What stands left of a line of text. -/
def numbered (b : Layout) (n : Nat) : String :=
  " " ++ Text.padLeft b.numberWidth (toString n) ++ " │ "

/-- What stands left of a line with a mark. -/
def unnumbered (b : Layout) : String := " " ++ repeated b.numberWidth ' ' ++ " · "

/-- The gutter beside a line of text. -/
def gutterOf (b : Layout) (l : Line) (s : Span) : String :=
  if !b.gutter then ""
  else if !l.showsPart s then "    "
  else if l.hasStart s then "╭─▶ "
  else if l.hasStop s then "├─▶ "
  else if l.isCovered s then "│   "
  else "    "

/-- The gutter beside a mark below a line. -/
def gutterBelow (b : Layout) (l : Line) (s : Span) : String :=
  if !b.gutter then ""
  else if !l.showsPart s then "    "
  else if !l.holds s && l.hasStop s then "╰───"
  else "│   "

/-- The lines of a label below each other; only the first of several has a hook. -/
def hang (label : String) (alone first others : String) : List String :=
  match (label.toList.splitOn '\n').map String.ofList with
  | [] => []
  | [t] => [alone ++ t]
  | t :: ts => (first ++ t) :: ts.map fun t => others ++ t

/-- The marks below a line that holds the span. -/
def underline (b : Layout) (l : Line) (label : Label) : List String :=
  let s := label.span
  let start := l.columnOf false s.offset
  let stop := if s.length = 0 then start + 1 else max (l.columnOf true s.stop) (start + 1)
  let middle := (start + stop) / 2
  let left := b.unnumbered ++ b.gutterBelow l s
  (left ++ repeated start ' ' ++ repeated (middle - start) '─'
      ++ (if s.length = 0 then "▲" else "┬") ++ repeated (stop - middle - 1) '─')
    :: (hang label.text "╰── " "╰─┤ " "  │ ").map fun t => left ++ repeated middle ' ' ++ t

/-- The label below the line on which a span over several lines ends. -/
def closing (b : Layout) (label : Label) : List String :=
  (hang label.text "╰──── " "╰──┤ " "   │ ").map fun t => b.unnumbered ++ t

/-- What is drawn below a line. -/
def below (b : Layout) (l : Line) (label : Label) : List String :=
  if !l.shows label.span then []
  else if l.holds label.span then b.underline l label
  else if l.hasStop label.span && !l.hasStart label.span then b.closing label
  else []

/-- A line of text and what is drawn below it. -/
def draw (b : Layout) (label : Label) (l : Line) : List String :=
  (b.numbered l.number ++ b.gutterOf l label.span
      ++ String.ofList (({} : Pen).setAll l.text))
    :: b.below l label

end Layout

/-- The layout for lines with a span. -/
def Layout.ofLines (ls : List Line) (s : Span) : Layout where
  numberWidth := (toString ((ls.getLast?.map Line.number).getD 0)).length
  gutter := ls.any fun l => !l.holds s && l.showsPart s

/-- A box around the lines of a window, headed by the name of the text and a place in it. -/
def box (name : String) (place : Window) (ls : List Line) (label : Label) : List String :=
  let b := Layout.ofLines ls label.span
  let left := repeated (b.numberWidth + 2) ' '
  (left ++ "╭─[" ++ name ++ ":" ++ toString (place.line + 1) ++ ":" ++ toString (place.column + 1)
      ++ "]")
    :: ls.flatMap (b.draw label) ++ [left ++ "╰────"]

/-- The line that stands in place of a box for a span outside the text. -/
def outside (label : Label) : String :=
  "  [Failed to read contents for label \x60" ++ label.text ++ "\x60 (offset: "
    ++ toString label.span.offset ++ ", length: " ++ toString label.span.length
    ++ "): OutOfBounds]"

/-- The excerpt of a text that shows a labelled span, with one line before and after it. -/
def draw (name : String) (source : String) (label : Label) : List String :=
  let content := source.toUTF8
  let around : View := { span := label.span, before := 1, after := 1 }
  let exact : View := { span := label.span }
  match around.window? content, exact.window? content with
  | some w, some place => box name place (w.lines content) label
  | _, _ => [outside label]

end Excerpt
end NotNullLint
