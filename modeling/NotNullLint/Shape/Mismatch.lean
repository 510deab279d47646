import NotNullLint.Shape.Basic

/-!
# Mismatches of a document and a shape

What can be wrong with a well-formed document, independent of its format. The wording is in
one place, `Mismatch.message`.
-/

namespace NotNullLint

/-- What was found in a document where something else was expected. Numbers with a fraction
come as the text that their format gives them. -/
inductive Kind where
  | null
  | flag (b : Bool)
  | integer (n : Int)
  | float (shown : String)
  | text (quoted : String)
  | sequence
  | map
  deriving DecidableEq, Repr

/-- The words for what was found. -/
def Kind.words : Kind → String
  | null => "null"
  | flag true => "boolean `true`"
  | flag false => "boolean `false`"
  | integer n => "integer `" ++ toString n ++ "`"
  | float shown => "floating point `" ++ shown ++ "`"
  | text quoted => "string " ++ quoted
  | sequence => "sequence"
  | map => "map"

/-- What stands in a message for the expected shape. -/
def Shape.words : Shape → String
  | .text what => what
  | .flag => "a boolean"
  | .count => "usize"
  | .maybe inner => inner.words
  | .list _ => "a sequence"
  | .choice _ => "variant identifier"
  | .record name _ => "struct " ++ name
  | .table _ => "a map"

/-- What stands in a message for a record written as an array. -/
def Members.words (name : String) (members : Members) : String :=
  "struct " ++ name ++ " with " ++ toString members.size
    ++ (if members.size = 1 then " element" else " elements")

/-- Why a document does not have a shape. -/
inductive Mismatch where
  | type (found : Kind) (expected : String)
  | value (found : Kind) (expected : String)
  | length (found : Nat) (expected : String)
  | unknownName (found : String) (names : List String)
  | missing (member : String)
  | repeated (member : String)
  | other (words : String)
  deriving DecidableEq, Repr

namespace Mismatch

/-- Names between backquotes, with the words that join them. -/
def oneOf (names : List String) : String :=
  match names.map fun n => "`" ++ n ++ "`" with
  | [a] => a
  | [a, b] => a ++ " or " ++ b
  | quoted => "one of " ++ String.intercalate ", " quoted

/-- The text of a mismatch. -/
def message : Mismatch → String
  | type found expected => "invalid type: " ++ found.words ++ ", expected " ++ expected
  | value found expected => "invalid value: " ++ found.words ++ ", expected " ++ expected
  | length found expected => "invalid length " ++ toString found ++ ", expected " ++ expected
  | unknownName found names =>
    "unknown variant `" ++ found ++ "`, expected " ++ oneOf names
  | missing member => "missing field `" ++ member ++ "`"
  | repeated member => "duplicate field `" ++ member ++ "`"
  | other words => words

end Mismatch
end NotNullLint
