import NotNullLint.Files.Basic
import NotNullLint.Log
import NotNullLint.Text.Basic

/-!
# How a run of the program ends

What a run prints and leaves behind, and how a failure is told together with what caused it.
-/

namespace NotNullLint
namespace CommandLine

/-- What a run of the program comes to. -/
structure Ending where
  exitCode : Nat := 0
  output : String := ""
  errors : String := ""
  events : List Log.Event := []
  files : Files

/-- Why a run fails, with its causes from the nearest on. -/
structure Failure where
  summary : String
  causes : List String := []
  deriving DecidableEq, Repr, Inhabited

namespace Failure

/-- A cause after a mark, its further lines indented as far. -/
def causeText (mark : String) (cause : String) : String :=
  let margin := String.ofList (List.replicate mark.length ' ')
  String.intercalate ("\n" ++ margin) (((mark ++ cause).toList.splitOn '\n').map String.ofList)

/-- The mark of the cause with a number. -/
def mark (i : Nat) : String := Text.padLeft 5 (toString i) ++ ": "

/-- The causes on lines; they are numbered if there are several. -/
def causeLines : List String → List String
  | [] => []
  | [c] => [causeText "    " c]
  | cs => cs.zipIdx.map fun (c, i) => causeText (mark i) c

/-- The text of a failure. -/
def text (e : Failure) : String :=
  "Error: " ++ e.summary ++ "\n"
    ++ if e.causes.isEmpty then ""
      else "\nCaused by:\n" ++ String.join ((causeLines e.causes).map (· ++ "\n"))

/-- The end of a run that fails. -/
def ending (e : Failure) (events : List Log.Event) (files : Files) : Ending where
  exitCode := 1
  errors := e.text
  events := events
  files := files

end Failure

/-- The exit code for a command line that cannot be followed. -/
def usageExitCode : Nat := 2

end CommandLine
end NotNullLint
