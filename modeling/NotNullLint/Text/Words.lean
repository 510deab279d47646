import NotNullLint.Text.Basic
import NotNullLint.Text.Letters
import NotNullLint.Text.LineBreak.Rules
import NotNullLint.Text.Width

/-!
# Words

The words of a line of text. A line is cut where the line breaking rules allow it and after hyphens
between letters or digits, and a word that is too wide is cut wherever it must be. A word is a
stretch without such a place, with the blanks after it. Escape sequences belong to the character
after them.
-/

namespace NotNullLint
namespace Text

/-- A stretch of text that is not broken, and the number of blanks after it. -/
structure Word where
  text : List Char
  blanks : Nat := 0
  deriving DecidableEq, Repr, Inhabited

namespace Word

/-- Columns that a word fills, its blanks included. -/
def fullWidth (w : Word) : Nat := width w.text + w.blanks

/-- The text of a word with its blanks. -/
def spelled (w : Word) : List Char := w.text ++ List.replicate w.blanks ' '

end Word

/-! ### Cutting by the rules -/

/-- A character that is shown, with the escape sequences before it. -/
structure Glyph where
  text : List Char
  char : Char
  deriving DecidableEq, Repr, Inhabited

/-- The glyphs of a text that goes on in a state, and the escape sequences at its end. -/
def glyphs (e : Escape) : List Char → List Glyph × List Char
  | [] => ([], [])
  | c :: r =>
    let p := glyphs (e.next c) r
    if e.hides c then
      match p.1 with
      | [] => ([], c :: p.2)
      | g :: gs => ({ g with text := c :: g.text } :: gs, p.2)
    else (⟨[c], c⟩ :: p.1, p.2)

theorem glyphs_flatten (e : Escape) (s : List Char) :
    (glyphs e s).1.flatMap Glyph.text ++ (glyphs e s).2 = s := by
  induction s generalizing e with
  | nil => rfl
  | cons c r ih =>
    have h := ih (e.next c)
    simp only [glyphs]
    split
    · split <;> simp_all
    · simpa using h

/-- A hyphen, hard or soft; whether a line is broken after it is not for the rules to say. -/
def isHyphen (c : Char) : Bool := c == '-' || c == '\u00ad'

/-- A line may be cut before a character of a class. -/
def cutsBefore (left : Option LineBreak.Left) (k : LineBreak.Class) : Bool :=
  left.any fun l => l.breaks k && !isHyphen l.char

/-- The text before a place with one more character. -/
def pushTo (left : Option LineBreak.Left) (c : Char) (k : LineBreak.Class) : LineBreak.Left :=
  match left with
  | none => .start c k
  | some l => l.push c k

/-- The pieces of a line between the places where it may be cut, the first one apart. -/
def cut (left : Option LineBreak.Left) : List Glyph → List Char × List (List Char)
  | [] => ([], [])
  | g :: gs =>
    let k := LineBreak.Class.ofChar g.char
    let p := cut (some (pushTo left g.char k)) gs
    if cutsBefore left k then ([], (g.text ++ p.1) :: p.2) else (g.text ++ p.1, p.2)

theorem cut_flatten (left : Option LineBreak.Left) (gs : List Glyph) :
    (cut left gs).1 ++ (cut left gs).2.flatten = gs.flatMap Glyph.text := by
  induction gs generalizing left with
  | nil => rfl
  | cons g gs ih =>
    have h := ih (some (pushTo left g.char (LineBreak.Class.ofChar g.char)))
    simp only [cut]
    split <;> simp [← h]

/-- The pieces with the last two of them put together. -/
def joinLast : List (List Char) → List (List Char)
  | [] => []
  | [p] => [p]
  | [p, q] => [p ++ q]
  | p :: ps => p :: joinLast ps

theorem joinLast_flatten (ps : List (List Char)) : (joinLast ps).flatten = ps.flatten := by
  fun_induction joinLast ps <;> simp_all

/-- The pieces with a text after the last one. -/
def appendLast (t : List Char) : List (List Char) → List (List Char)
  | [] => [t]
  | [p] => [p ++ t]
  | p :: ps => p :: appendLast t ps

theorem appendLast_flatten (t : List Char) (ps : List (List Char)) :
    (appendLast t ps).flatten = ps.flatten ++ t := by
  fun_induction appendLast t ps <;> simp_all

/-- The pieces of a line. A line that ends in a hyphen keeps it with the last two of them. -/
def pieces (line : List Char) : List (List Char) :=
  let p := glyphs .outside line
  let q := cut none p.1
  appendLast p.2
    (if p.1.getLast?.any fun g => isHyphen g.char then joinLast (q.1 :: q.2) else q.1 :: q.2)

/-- Nothing of a line is lost. -/
theorem pieces_flatten (line : List Char) : (pieces line).flatten = line := by
  have h := cut_flatten none (glyphs .outside line).1
  simp only [pieces, appendLast_flatten]
  split <;> simp [joinLast_flatten, h, glyphs_flatten]

/-! ### Cutting further -/

/-- A piece as a word. -/
def wordOf (piece : List Char) : Word where
  text := dropEndWhile (· == ' ') piece
  blanks := piece.length - (dropEndWhile (· == ' ') piece).length

/-- The parts of a word, each up to a hyphen between letters or digits, the first one apart. -/
def atHyphens (before : Option Char) : List Char → List Char × List (List Char)
  | [] => ([], [])
  | c :: r =>
    let p := atHyphens (some c) r
    if c == '-' && before.any isLetterOrDigit && r.head?.any isLetterOrDigit then ([c], p.1 :: p.2)
    else (c :: p.1, p.2)

/-- The parts of a word of which each fits into a width, the first one apart; `used` is what is
already filled, and `e` the state in which the text goes on. -/
def atWidth (limit used : Nat) (e : Escape) : List Char → List Char × List (List Char)
  | [] => ([], [])
  | c :: r =>
    if e.hides c then
      let p := atWidth limit used (e.next c) r
      (c :: p.1, p.2)
    else if 0 < used ∧ limit < used + charWidth c then
      let p := atWidth limit (charWidth c) (e.next c) r
      ([], (c :: p.1) :: p.2)
    else
      let p := atWidth limit (used + charWidth c) (e.next c) r
      (c :: p.1, p.2)

/-- Texts as words without blanks, but for the last. -/
def wordsOf (blanks : Nat) : List (List Char) → List Word
  | [] => []
  | [t] => [⟨t, blanks⟩]
  | t :: ts => ⟨t, 0⟩ :: wordsOf blanks ts

/-- A word cut by `f`, its blanks after the last part. -/
def Word.divide (f : List Char → List Char × List (List Char)) (w : Word) : List Word :=
  wordsOf w.blanks ((f w.text).1 :: (f w.text).2)

/-- The words of a line, none of them wider than `limit` unless it is a single character. -/
def words (limit : Nat) (line : List Char) : List Word :=
  let found := if line.isEmpty then [] else pieces line
  (found.flatMap fun s => (wordOf s).divide (atHyphens none)).flatMap fun w =>
    if limit < width w.text then w.divide (atWidth limit 0 .outside) else [w]

end Text
end NotNullLint
