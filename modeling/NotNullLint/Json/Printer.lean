import NotNullLint.Json.Basic

/-!
# Writing JSON

Two forms of a tree: on one line without blanks, and with one member or item on each line,
indented by two blanks. Texts are quoted with the least escaping that JSON asks for.
-/

namespace NotNullLint
namespace Json

/-- How a character stands between quotes. -/
def escape (c : Char) : List Char :=
  if c = '"' then ['\\', '"']
  else if c = '\\' then ['\\', '\\']
  else if c = '\x08' then ['\\', 'b']
  else if c = '\x0c' then ['\\', 'f']
  else if c = '\n' then ['\\', 'n']
  else if c = '\r' then ['\\', 'r']
  else if c = '\t' then ['\\', 't']
  else if c.toNat < 0x20 then
    ['\\', 'u', '0', '0', Nat.digitChar (c.toNat / 16), Nat.digitChar (c.toNat % 16)]
  else [c]

/-- A text between quotes. -/
def quote (s : String) : List Char := '"' :: (s.toList.flatMap escape ++ ['"'])

end Json

/-- The digits of a natural number. -/
def Numeral.natText (n : Nat) : List Char := Nat.toDigits 10 n

/-- The text of a number. -/
def Numeral.print (n : Numeral) : List Char :=
  (if n.negative then ['-'] else []) ++ natText n.whole
    ++ (if n.fraction = [] then [] else '.' :: n.fraction.map fun d => Nat.digitChar d.val)
    ++ match n.exponent with
      | none => []
      | some e => 'e' :: ((if e < 0 then ['-'] else []) ++ natText e.natAbs)

namespace Json

/-- The literal of a truth value. -/
def flagText : Bool → List Char
  | true => ['t', 'r', 'u', 'e']
  | false => ['f', 'a', 'l', 's', 'e']

/-- The literal of nothing. -/
def nullText : List Char := ['n', 'u', 'l', 'l']

mutual

/-- A tree on one line. -/
def print : Json → List Char
  | .null => nullText
  | .flag b => flagText b
  | .number n => n.print
  | .text s => quote s
  | .array items => '[' :: printItems items
  | .object members => '\x7b' :: printMembers members

/-- The items of an array and its end. -/
def printItems : List Json → List Char
  | [] => [']']
  | [v] => v.print ++ [']']
  | v :: rest => v.print ++ ',' :: printItems rest

/-- The members of an object and its end. -/
def printMembers : List (String × Json) → List Char
  | [] => ['\x7d']
  | [(n, v)] => quote n ++ ':' :: (v.print ++ ['\x7d'])
  | (n, v) :: rest => quote n ++ ':' :: (v.print ++ ',' :: printMembers rest)

end

/-- A new line indented to a depth. -/
def newline (depth : Nat) : List Char := '\n' :: List.replicate (2 * depth) ' '

mutual

/-- A tree over several lines, its inner lines indented to `depth + 1`. -/
def pretty (depth : Nat) : Json → List Char
  | .null => nullText
  | .flag b => flagText b
  | .number n => n.print
  | .text s => quote s
  | .array [] => ['[', ']']
  | .array (v :: rest) => '[' :: prettyItems depth (v :: rest)
  | .object [] => ['\x7b', '\x7d']
  | .object (m :: rest) => '\x7b' :: prettyMembers depth (m :: rest)

/-- The items of an array that is not empty, each on a line, and its end. -/
def prettyItems (depth : Nat) : List Json → List Char
  | [] => newline depth ++ [']']
  | [v] => newline (depth + 1) ++ v.pretty (depth + 1) ++ newline depth ++ [']']
  | v :: rest => newline (depth + 1) ++ v.pretty (depth + 1) ++ ',' :: prettyItems depth rest

/-- The members of an object that is not empty, each on a line, and its end. -/
def prettyMembers (depth : Nat) : List (String × Json) → List Char
  | [] => newline depth ++ ['\x7d']
  | [(n, v)] =>
    newline (depth + 1) ++ quote n ++ ':' :: ' ' :: (v.pretty (depth + 1) ++ newline depth
      ++ ['\x7d'])
  | (n, v) :: rest =>
    newline (depth + 1) ++ quote n ++ ':' :: ' ' :: (v.pretty (depth + 1) ++ ','
      :: prettyMembers depth rest)

end

/-- The text of a tree on one line. -/
def toText (v : Json) : String := String.ofList v.print

/-- The text of a tree over several lines. -/
def toPrettyText (v : Json) : String := String.ofList (v.pretty 0)

end Json
end NotNullLint
