import NotNullLint.Text.Invisible

/-!
# Quoted text

Text shown between double quotes, with everything escaped that would not be seen as itself.
-/

namespace NotNullLint
namespace Text

/-- The escape of a code point, in small hexadecimal digits. -/
def codePointEscape (c : Char) : List Char :=
  '\\' :: 'u' :: '\x7b' :: (Nat.toDigits 16 c.toNat ++ ['\x7d'])

/-- The escape of a code point below 0x100, in two small hexadecimal digits. -/
def byteEscape (c : Char) : List Char :=
  ['\\', 'x', Nat.digitChar (c.toNat / 16), Nat.digitChar (c.toNat % 16)]

/-- How a character shows between quotes; an apostrophe is escaped only on request. -/
def escape (apostrophe : Bool) (c : Char) : List Char :=
  if c = '"' ∨ c = '\\' then ['\\', c]
  else if c = '\'' ∧ apostrophe = true then ['\\', c]
  else if c = '\n' then ['\\', 'n']
  else if c = '\r' then ['\\', 'r']
  else if c = '\t' then ['\\', 't']
  else if c = '\x00' then ['\\', '0']
  else if isInvisible c then codePointEscape c
  else [c]

/-- A text between double quotes. -/
def quoted (s : String) : String :=
  String.ofList ('"' :: s.toList.flatMap (escape false) ++ ['"'])

/-- The spelling of a path between double quotes. -/
def quotedPath (s : String) : String :=
  String.ofList ('"' :: s.toList.flatMap (escape true) ++ ['"'])

end Text
end NotNullLint
