import NotNullLint.Text.Quoted

/-!
# Log events

What a run has to tell besides its result. Every event has a level and comes from a part of the
program; which of them are shown is decided by a filter. A message is written without characters
that could steer a terminal.
-/

namespace NotNullLint
namespace Log

/-- How much attention an event asks for, the most urgent level first. -/
inductive Level where
  | error
  | warn
  | info
  | debug
  | trace
  deriving DecidableEq, Repr, Inhabited

/-- The place of a level, the most urgent one being the first. -/
def Level.rank : Level → Nat
  | error => 1
  | warn => 2
  | info => 3
  | debug => 4
  | trace => 5

/-- The name of a level. -/
def Level.name : Level → String
  | error => "ERROR"
  | warn => "WARN"
  | info => "INFO"
  | debug => "DEBUG"
  | trace => "TRACE"

/-- The parts of the program that tell something. -/
inductive Source where
  | analysis
  | convention
  | check
  | output
  | resolution
  deriving DecidableEq, Repr, Inhabited

/-- The name by which a filter refers to a part. -/
def Source.target : Source → String
  | analysis => "ipy_lint_core::analyzer"
  | convention => "ipy_lint_rules::not_null_convention"
  | check => "ipy_lint::commands::check"
  | output => "ipy_lint::commands::output"
  | resolution => "ipy_lint::config_resolver"

/-- Something that is told. -/
structure Event where
  level : Level
  source : Source
  message : String
  deriving DecidableEq, Repr, Inhabited

/-! ### Events as text -/

/-- A controlling character that is not passed on to a terminal. -/
def isWithheld (c : Char) : Bool :=
  c == '\x07' || c == '\x08' || c == '\x0c' || c == '\x1b' || c == '\x7f'

/-- How a character of a message is written: those that could steer a terminal by their number. -/
def spelled (c : Char) : List Char :=
  if isWithheld c then Text.byteEscape c
  else if 0x80 ≤ c.toNat ∧ c.toNat ≤ 0x9F then Text.codePointEscape c
  else [c]

/-- The message of an event as it is written. -/
def Event.text (e : Event) : String := String.ofList (e.message.toList.flatMap spelled)

end Log
end NotNullLint
