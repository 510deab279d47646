import NotNullLint.Text.Marks
import NotNullLint.Text.Unassigned

/-!
# Invisible characters

Characters that cannot be told from a text in which they stand alone: controls, formats, private
characters, separators, marks, and what is not assigned.
-/

namespace NotNullLint
namespace Text

/-- Controls, formats, private characters, separators, and blanks other than the space. -/
def shapeless : List (Nat × Nat) :=
  [(0x0, 0x1F), (0x7F, 0xA0), (0xAD, 0xAD), (0x600, 0x605), (0x61C, 0x61C), (0x6DD, 0x6DD),
   (0x70F, 0x70F), (0x890, 0x891), (0x8E2, 0x8E2), (0x1680, 0x1680), (0x180E, 0x180E),
   (0x2000, 0x200F), (0x2028, 0x202F), (0x205F, 0x2064), (0x2066, 0x206F), (0x3000, 0x3000),
   (0xE000, 0xF8FF), (0xFEFF, 0xFEFF), (0xFFF9, 0xFFFB), (0x110BD, 0x110BD), (0x110CD, 0x110CD),
   (0x13430, 0x1343F), (0x1BCA0, 0x1BCA3), (0x1D173, 0x1D17A), (0xE0001, 0xE0001),
   (0xE0020, 0xE007F), (0xF0000, 0xFFFFD), (0x100000, 0x10FFFD)]

/-- A character that shows nothing when it stands alone. -/
def isInvisible (c : Char) : Bool :=
  inRanges c shapeless || isMark c || isIgnorable c || isUnassigned c

end Text
end NotNullLint
