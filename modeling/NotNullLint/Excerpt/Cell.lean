import NotNullLint.Text.Width

/-!
# Cells

Columns that a character takes in a drawn excerpt. They are counted after Unicode 15.1, before
some symbols became wide and some vowel signs became marks.
-/

namespace NotNullLint
namespace Excerpt

/-- Characters that take one column here. -/
def singleCell : List (Nat × Nat) :=
  [(0x897, 0x897), (0x1715, 0x1715), (0x1734, 0x1734), (0x1ACF, 0x1ADD), (0x1AE0, 0x1AEB),
   (0x1B44, 0x1B44), (0x1BAA, 0x1BAA), (0x1BF2, 0x1BF3), (0x2630, 0x2637), (0x268A, 0x268F),
   (0x31E4, 0x31E5), (0x4DC0, 0x4DFF), (0xA953, 0xA953), (0xA9C0, 0xA9C0), (0x10D69, 0x10D6D),
   (0x10EFA, 0x10EFC), (0x111C0, 0x111C0), (0x11235, 0x11235), (0x1134D, 0x1134D),
   (0x113B8, 0x113B8), (0x113BB, 0x113C0), (0x113C2, 0x113C2), (0x113C5, 0x113C5),
   (0x113C7, 0x113C9), (0x113CE, 0x113D2), (0x113E1, 0x113E2), (0x116B6, 0x116B6),
   (0x1193D, 0x1193D), (0x11B60, 0x11B60), (0x11B62, 0x11B64), (0x11B66, 0x11B66),
   (0x11F41, 0x11F41), (0x11F5A, 0x11F5A), (0x1611E, 0x16129), (0x1612D, 0x1612F),
   (0x16FF2, 0x16FF6), (0x187F8, 0x187FF), (0x18CFF, 0x18CFF), (0x18D09, 0x18D1E),
   (0x18D80, 0x18DF2), (0x1D166, 0x1D166), (0x1D16D, 0x1D16D), (0x1D300, 0x1D356),
   (0x1D360, 0x1D376), (0x1E5EE, 0x1E5EF), (0x1E6E3, 0x1E6E3), (0x1E6E6, 0x1E6E6),
   (0x1E6EE, 0x1E6EF), (0x1E6F5, 0x1E6F5), (0x1F6D8, 0x1F6D8), (0x1FA89, 0x1FA8A),
   (0x1FA8E, 0x1FA8F), (0x1FABE, 0x1FABE), (0x1FAC6, 0x1FAC6), (0x1FAC8, 0x1FAC8),
   (0x1FACD, 0x1FACD), (0x1FADC, 0x1FADC), (0x1FADF, 0x1FADF), (0x1FAE9, 0x1FAEA),
   (0x1FAEF, 0x1FAEF)]

/-- Columns that a character takes in an excerpt. -/
def cells (c : Char) : Nat :=
  let n := c.toNat
  if Text.inRanges c singleCell then 1
  else if n = 0xFF9E ∨ n = 0xFF9F ∨ n = 0x1171E ∨ n = 0x11A3A then 0
  else if n = 0x16FF0 ∨ n = 0x16FF1 then 2
  else Text.charWidth c

end Excerpt
end NotNullLint
