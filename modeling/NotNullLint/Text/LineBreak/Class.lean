import NotNullLint.Text.LineBreak.Ranges

/-!
# Line breaking classes

What a character means for the breaking of lines. Characters of no class of their own count as
letters, and so do all of the scripts in which only a dictionary could tell words apart.
-/

namespace NotNullLint
namespace Text
namespace LineBreak

/-- What a character means for the breaking of lines. -/
inductive Class where
  | lineEnd
  | space
  | zeroSpace
  | joiner
  | wordJoiner
  | glue
  | mark
  | breakAfter
  | breakBefore
  | hyphen
  | dash
  | opening
  | wideOpening
  | closing
  | bracket
  | quotation
  | exclamation
  | separator
  | slash
  | leader
  | nonstarter
  | placeholder
  | letter
  | hebrew
  | digit
  | beforeNumber
  | afterNumber
  | ideograph
  | reservedPicture
  | figure
  | skinTone
  | flagHalf
  | leadJamo
  | vowelJamo
  | tailJamo
  /-- A syllable of Hangul that ends in its vowel. -/
  | openSyllable
  | closedSyllable
  deriving DecidableEq, Repr, Inhabited

namespace Class

/-- The code points of the classes. Of two classes with a code point the first has it. -/
def table : List (Class × List (Nat × Nat)) :=
  [(space, [(0x20, 0x20)]), (lineEnd, [(0xA, 0xD), (0x85, 0x85), (0x2028, 0x2029)]),
   (hyphen, [(0x2D, 0x2D)]), (slash, [(0x2F, 0x2F)]), (bracket, [(0x29, 0x29), (0x5D, 0x5D)]),
   (zeroSpace, [(0x200B, 0x200B)]), (joiner, [(0x200D, 0x200D)]),
   (wordJoiner, [(0x2060, 0x2060), (0xFEFF, 0xFEFF)]), (dash, [(0x2014, 0x2014), (0x2E3A, 0x2E3B)]),
   (placeholder, [(0xFFFC, 0xFFFC)]), (skinTone, [(0x1F3FB, 0x1F3FF)]),
   (flagHalf, [(0x1F1E6, 0x1F1FF)]), (leadJamo, [(0x1100, 0x115F), (0xA960, 0xA97C)]),
   (vowelJamo, [(0x1160, 0x11A7), (0xD7B0, 0xD7C6)]),
   (tailJamo, [(0x11A8, 0x11FF), (0xD7CB, 0xD7FB)]), (glue, glues), (mark, marks),
   (breakAfter, breakAfterChars), (breakBefore, breakBeforeChars), (opening, openings),
   (wideOpening, wideOpenings), (closing, closingMarks), (quotation, quotations),
   (exclamation, exclamations), (separator, separators), (leader, leaders),
   (nonstarter, nonstarters), (hebrew, hebrewLetters), (digit, digits),
   (beforeNumber, numberSignsBefore), (afterNumber, numberSignsAfter), (figure, figures),
   (reservedPicture, reservedPictures), (ideograph, ideographs)]

/-- The class of a syllable of Hangul: each vowel has 27 syllables with a final after its own. -/
def ofSyllable (n : Nat) : Class := if (n - 0xAC00) % 28 = 0 then openSyllable else closedSyllable

/-- The class of a character. -/
def ofChar (c : Char) : Class :=
  if inRanges c [(0xAC00, 0xD7A3)] then ofSyllable c.toNat
  else match table.find? fun entry => inRanges c entry.2 with
    | some entry => entry.1
    | none => letter

/-- A letter. -/
def isLetter (k : Class) : Bool := k == letter || k == hebrew

/-- A letter or a digit. -/
def isAlphanumeric (k : Class) : Bool := k.isLetter || k == digit

/-- A sign that belongs to a number. -/
def isNumberSign (k : Class) : Bool := k == beforeNumber || k == afterNumber

/-- An ideograph or a picture. -/
def isIdeographic (k : Class) : Bool :=
  k == ideograph || k == reservedPicture || k == figure || k == skinTone

/-- A syllable of Hangul, or a part of one. -/
def isHangul (k : Class) : Bool :=
  k == leadJamo || k == vowelJamo || k == tailJamo || k == openSyllable || k == closedSyllable

/-- A mark that opens a pair. -/
def isOpening (k : Class) : Bool := k == opening || k == wideOpening

/-- A mark that closes a pair. -/
def isClosing (k : Class) : Bool := k == closing || k == bracket

/-- A mark that stays with what is before it, blanks or not. -/
def staysBehind (k : Class) : Bool :=
  k.isClosing || k == exclamation || k == separator || k == slash

end Class
end LineBreak
end Text
end NotNullLint
