import NotNullLint.Text.LineBreak.Class

/-!
# Line breaking rules

Where a line may be broken: after blanks, between ideographs, and at marks that allow it, but not
where a rule holds two characters together. What the rules need to know of the text before a place
is gathered character by character.
-/

namespace NotNullLint
namespace Text
namespace LineBreak

/-! ### Pairs that hold together -/

/-- The parts of a number hold together. -/
def holdsNumber (p k : Class) : Bool :=
  ((p.isClosing || p == .digit) && k.isNumberSign)
    || (p.isNumberSign && (k.isOpening || k == .digit))
    || ((p == .hyphen || p == .separator || p == .slash || p == .digit) && k == .digit)

/-- The parts of a word hold together. -/
def holdsWord (p k : Class) : Bool :=
  (p.isAlphanumeric && k.isAlphanumeric)
    || (p.isLetter && k.isNumberSign) || (p.isNumberSign && k.isLetter)
    || (p == .separator && k.isLetter) || (p == .slash && k == .hebrew)
    || (p.isAlphanumeric && k == .opening) || (p == .bracket && k.isAlphanumeric)

/-- A picture or a syllable holds together with a sign beside it, and a figure with its skin. -/
def holdsPicture (p k : Class) : Bool :=
  (p == .beforeNumber && (k.isIdeographic || k.isHangul))
    || ((p.isIdeographic || p.isHangul) && k == .afterNumber)
    || ((p == .figure || p == .reservedPicture) && k == .skinTone)

/-- The parts of a syllable hold together. -/
def holdsSyllable (p k : Class) : Bool :=
  (p == .leadJamo
      && (k == .leadJamo || k == .vowelJamo || k == .openSyllable || k == .closedSyllable))
    || ((p == .vowelJamo || p == .openSyllable) && (k == .vowelJamo || k == .tailJamo))
    || ((p == .tailJamo || p == .closedSyllable) && k == .tailJamo)

/-- Two neighbours hold together. -/
def holds (p k : Class) : Bool :=
  k == .leader || holdsNumber p k || holdsWord p k || holdsPicture p k || holdsSyllable p k

/-! ### The text before a place -/

/-- What the rules need to know of the text before a place. -/
structure Left where
  /-- The last character. -/
  char : Char
  /-- The class of the last character, a mark counting as the character that it belongs to. -/
  kind : Class
  /-- The class of the last character that is no space. -/
  base : Class
  /-- A joiner stands last. -/
  joins : Bool
  /-- A hyphen that follows a letter of Hebrew stands last. -/
  afterHebrew : Bool := false
  /-- The first half of a flag stands last. -/
  halfFlag : Bool
  deriving Repr

namespace Left

/-- A mark that belongs to no character counts as a letter. -/
def alone (k : Class) : Class := if k = .mark ∨ k = .joiner then .letter else k

/-- The text that consists of one character. -/
def start (c : Char) (k : Class) : Left where
  char := c
  kind := alone k
  base := alone k
  joins := k == .joiner
  halfFlag := k == .flagHalf

/-- A character belongs to the one before it. -/
def attaches (l : Left) (k : Class) : Bool :=
  (k == .mark || k == .joiner) && l.kind != .lineEnd && l.kind != .space && l.kind != .zeroSpace

/-- The text with one more character. -/
def push (l : Left) (c : Char) (k : Class) : Left :=
  if l.attaches k then { l with char := c, joins := k == .joiner }
  else
    { char := c
      kind := alone k
      base := if k = .space then l.base else alone k
      joins := k == .joiner
      afterHebrew := l.kind == .hebrew && (k == .hyphen || k == .breakAfter)
      halfFlag := k == .flagHalf && !l.halfFlag }

/-- The line may be broken before a character of a class that belongs to none before it. -/
def breaksBefore (l : Left) (k : Class) : Bool :=
  if k == .wordJoiner || l.kind == .wordJoiner || l.kind == .glue then false
  else if k == .glue && l.kind != .space && l.kind != .breakAfter && l.kind != .hyphen then false
  else if k.staysBehind || l.base.isOpening then false
  else if l.base == .quotation && k.isOpening then false
  else if l.base.isClosing && k == .nonstarter then false
  else if l.base == .dash && k == .dash then false
  else if l.kind == .space then true
  else if k == .quotation || l.kind == .quotation then false
  else if k == .placeholder || l.kind == .placeholder then true
  else if k == .breakAfter || k == .hyphen || k == .nonstarter then false
  else if l.kind == .breakBefore || l.afterHebrew then false
  else if k == .flagHalf && l.halfFlag then false
  else !holds l.kind k

/-- The line may be broken before a character. -/
def breaks (l : Left) (k : Class) : Bool :=
  if l.kind == .lineEnd then true
  else if k == .lineEnd || k == .space || k == .zeroSpace then false
  else if l.base == .zeroSpace then true
  else if l.joins || l.attaches k then false
  else l.breaksBefore (alone k)

end Left
end LineBreak
end Text
end NotNullLint
