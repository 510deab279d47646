/-!
# Text as a list of characters

The few operations on character lists that the rest of the library needs: the suffixes of a
list, replacing a piece of text everywhere, finding a piece inside another, comparing without
regard to the case of ASCII letters, and padding to a width.
-/

namespace NotNullLint
namespace Text

/-- All suffixes of a list, longest first, the empty one last. -/
def suffixes {α : Type} : List α → List (List α)
  | [] => [[]]
  | c :: r => (c :: r) :: suffixes r

theorem mem_suffixes {α : Type} {s t : List α} : t ∈ suffixes s ↔ t <:+ s := by
  induction s with
  | nil => simp [suffixes]
  | cons c r ih => simp [suffixes, ih, List.suffix_cons_iff]

/-- The text `needle` occurs somewhere in `hay`. -/
def occursIn (needle hay : List Char) : Bool := (suffixes hay).any needle.isPrefixOf

theorem occursIn_iff {needle hay : List Char} : occursIn needle hay = true ↔ needle <:+: hay := by
  simp only [occursIn, List.any_eq_true, mem_suffixes, List.isPrefixOf_iff_prefix]
  exact ⟨fun ⟨_, hs, hp⟩ => hp.isInfix.trans hs.isInfix,
    fun ⟨a, b, h⟩ => ⟨needle ++ b, ⟨a, by simpa using h⟩, List.prefix_append _ _⟩⟩

/-- Puts `new` for `old` from left to right; `skip` characters belong to a piece that is already
replaced. -/
def replaceFrom (old new : List Char) : Nat → List Char → List Char
  | _, [] => []
  | skip + 1, _ :: r => replaceFrom old new skip r
  | 0, c :: r =>
    if old.isPrefixOf (c :: r) then new ++ replaceFrom old new (old.length - 1) r
    else c :: replaceFrom old new 0 r

/-- Replaces every occurrence of `old`, a text that is not empty, scanning from left to right
and never reading what was put in. -/
def replaceAll (old new text : List Char) : List Char := replaceFrom old new 0 text

@[simp] theorem replaceAll_nil (old new : List Char) : replaceAll old new [] = [] := rfl

/-- `replaceAll` on strings. -/
def replace (text old new : String) : String :=
  String.ofList (replaceAll old.toList new.toList text.toList)

/-- The text with its ASCII capitals made small. -/
def lowered (s : List Char) : List Char := s.map Char.toLower

/-- Equality up to the case of ASCII letters. -/
def sameLetters (a b : String) : Bool := lowered a.toList == lowered b.toList

@[simp] theorem sameLetters_self (a : String) : sameLetters a a = true := by simp [sameLetters]

theorem sameLetters_comm (a b : String) : sameLetters a b = sameLetters b a := by
  unfold sameLetters
  exact BEq.comm

/-- The value of a hexadecimal digit. -/
def hexDigit? (c : Char) : Option Nat :=
  if c.isDigit then some (c.toNat - '0'.toNat)
  else if 'a' ≤ c ∧ c ≤ 'f' then some (c.toNat - 'a'.toNat + 10)
  else if 'A' ≤ c ∧ c ≤ 'F' then some (c.toNat - 'A'.toNat + 10)
  else none

/-- Drops the longest suffix whose elements satisfy `p`. -/
def dropEndWhile {α : Type} (p : α → Bool) (s : List α) : List α := (s.reverse.dropWhile p).reverse

/-- Fills a text with blanks on the right up to `width` characters. -/
def padRight (width : Nat) (s : String) : String :=
  s ++ String.ofList (List.replicate (width - s.length) ' ')

/-- Fills a text with blanks on the left up to `width` characters. -/
def padLeft (width : Nat) (s : String) : String :=
  String.ofList (List.replicate (width - s.length) ' ') ++ s

/-- The number of bytes of a text in UTF-8. -/
def byteCount (s : List Char) : Nat := s.foldl (fun n c => n + c.utf8Size) 0

end Text
end NotNullLint
