import NotNullLint.CommandLine.Slot
import NotNullLint.Text.Plain

/-!
# Mistakes on the command line
-/

namespace NotNullLint
namespace CommandLine

/-- Why a command line cannot be followed. -/
inductive Mistake where
  | unknownArgument (text : String)
  | unknownCommand (text : String)
  | missingValue (s : Slot)
  | invalidValue (s : Slot) (value : String)
  | unneededValue (s : Slot) (value : String)
  | repeated (s : Slot)
  | missingCommand
  deriving DecidableEq, Repr

/-- What is printed of a text, between apostrophes. -/
def cited (s : String) : String := "'" ++ Text.plain s ++ "'"

/-- The text of a mistake. -/
def Mistake.message : Mistake → String
  | unknownArgument text => "unexpected argument " ++ cited text ++ " found"
  | unknownCommand text => "unrecognized subcommand " ++ cited text
  | missingValue s => "a value is required for " ++ cited s.written ++ " but none was supplied"
  | invalidValue s value => "invalid value " ++ cited value ++ " for " ++ cited s.written
  | unneededValue s value =>
    "unexpected value " ++ cited value ++ " for " ++ cited s.written
      ++ " found; no more were expected"
  | repeated s => "the argument " ++ cited s.written ++ " cannot be used multiple times"
  | missingCommand => cited programName ++ " requires a subcommand but one was not provided"

end CommandLine
end NotNullLint
