import NotNullLint.Violation

/-!
# Diagnostics

The description of a diagnostic that a rule can report, and the findings made from it.
-/

namespace NotNullLint

/-- A diagnostic that a rule can report. -/
structure Descriptor where
  code : String
  name : String
  title : String
  /-- The message, with numbered places in braces for arguments. -/
  template : String
  description : String
  category : String
  defaultSeverity : Severity
  enabledByDefault : Bool
  deriving DecidableEq, Repr, Inhabited

namespace Descriptor

/-- The place of an argument in a template. -/
def placeholder (i : Nat) : List Char := '\x7b' :: (Nat.toDigits 10 i ++ ['\x7d'])

/-- Puts the arguments in, one after the other, the first one having the number `i`. -/
def fill (i : Nat) : List String → List Char → List Char
  | [], text => text
  | arg :: args, text => fill (i + 1) args (Text.replaceAll (placeholder i) arg.toList text)

/-- The message for the given arguments. -/
def message (d : Descriptor) (args : List String) : String :=
  String.ofList (fill 0 args d.template.toList)

/-- A finding of this diagnostic. -/
def violation (d : Descriptor) (location : Location) (args : List String) : Violation where
  code := d.code
  rule := d.name
  severity := d.defaultSeverity
  location := location
  message := d.message args

/-- The key names the diagnostic, by its code in any case or by its name. -/
def matchesKey (d : Descriptor) (key : String) : Bool :=
  Text.sameLetters d.code key || d.name == key

end Descriptor
end NotNullLint
