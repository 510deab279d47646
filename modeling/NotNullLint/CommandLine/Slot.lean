import NotNullLint.Report.Text

/-!
# What can be given on the command line

The commands, and the slots that each of them has: options with and without a value, and a path.
-/

namespace NotNullLint
namespace CommandLine

/-- The name of the program. -/
def programName : String := "ipy-lint"

/-- The version of the program. -/
def version : String := "0.2.0"

/-! ### Commands -/

/-- What the program can be asked to do. -/
inductive Command where
  | check
  | listRules
  | init
  deriving DecidableEq, Repr, Inhabited

namespace Command

/-- All commands. -/
def all : List Command := [check, listRules, init]

/-- The word for a command. -/
def name : Command → String
  | check => "check"
  | listRules => "list-rules"
  | init => "init"

/-- What a command does. -/
def about : Command → String
  | check => "Run lint checks over symbol model files"
  | listRules => "List available rules"
  | init => "Initialize configuration file"

/-- The command that a word stands for. -/
def ofName? (s : String) : Option Command := all.find? fun c => c.name = s

theorem ofName?_name (c : Command) : ofName? c.name = some c := by cases c <;> decide

end Command

/-! ### Slots -/

/-- What can be given besides a command. -/
inductive Slot where
  | path
  | format
  | verbose
  | config
  | rules
  | exclude
  | strict
  | force
  | help
  | version
  deriving DecidableEq, Repr, Inhabited

namespace Slot

/-- The word of an option; the path has none. -/
def long? : Slot → Option String
  | path => none
  | format => some "format"
  | verbose => some "verbose"
  | config => some "config"
  | rules => some "rules"
  | exclude => some "exclude"
  | strict => some "strict"
  | force => some "force"
  | help => some "help"
  | version => some "version"

/-- The letter of an option. -/
def short? : Slot → Option Char
  | format => some 'f'
  | verbose => some 'v'
  | config => some 'c'
  | exclude => some 'e'
  | help => some 'h'
  | version => some 'V'
  | _ => none

/-- The name of the value that a slot takes, if it takes one. -/
def valueName? : Slot → Option String
  | path => some "PATH"
  | format => some "FORMAT"
  | config => some "CONFIG"
  | rules => some "RULES"
  | exclude => some "EXCLUDE"
  | _ => none

/-- The slot takes a value. -/
def takesValue (s : Slot) : Bool := s.valueName?.isSome

/-- The slot can be given several times. -/
def repeats (s : Slot) : Bool := s == exclude

/-- How a slot is written. -/
def written (s : Slot) : String :=
  match s.long?, s.valueName? with
  | some l, some v => "--" ++ l ++ " <" ++ v ++ ">"
  | some l, none => "--" ++ l
  | none, some v => "[" ++ v ++ "]"
  | none, none => ""

/-- What a slot is for. -/
def about : Slot → String
  | path =>
    "Directory containing *.symbols.json files (default: \x60[analyzer] root\x60 from the config, "
      ++ "else the current directory)"
  | format => "Output format"
  | verbose => "Enable verbose output"
  | config => "Path to configuration file"
  | rules => "Only report specific rules (comma-separated codes or names)"
  | exclude => "Exclude patterns (can be specified multiple times)"
  | strict => "Fail on malformed symbol model files instead of skipping them"
  | force => "Overwrite existing config"
  | help => "Print help"
  | version => "Print version"

end Slot

/-- The options of a command, or of the program itself, in the order in which they are listed. -/
def optionsOf : Option Command → List Slot
  | none => [.verbose, .config, .help, .version]
  | some .check => [.format, .verbose, .config, .rules, .exclude, .strict, .help]
  | some .listRules => [.verbose, .config, .help]
  | some .init => [.force, .verbose, .config, .help]

/-- The command takes a path. -/
def takesPath (c : Option Command) : Bool := c == some .check

end CommandLine
end NotNullLint
