import NotNullLint.CommandLine.Slot

/-!
# Help

The help texts of the program and of its commands. Where there is more to say about an option than
fits on its line, there is a full form besides the short one.
-/

namespace NotNullLint

/-- What a form of a report is good for. -/
def Format.about : Format → String
  | text => "Human-readable text output"
  | json => "JSON output"
  | compact => "One-line-per-violation compact format"
  | rich => "Source snippets rendered with miette, when sources are readable"

namespace CommandLine

/-- What help is given about. -/
inductive Topic where
  | program
  | command (c : Command)
  /-- Help itself. -/
  | help
  deriving DecidableEq, Repr, Inhabited

namespace Topic

/-- The word that asks for help. -/
def helpName : String := "help"

/-- What the request for help does. -/
def helpAbout : String := "Print this message or the help of the given subcommand(s)"

/-- The first line of a help text. -/
def about : Topic → String
  | program => "CLI tool for checking NotNull conventions in IronPython symbol models"
  | command c => c.about
  | help => helpAbout

/-- How a topic is used. -/
def usage : Topic → String
  | program => "[OPTIONS] <COMMAND>"
  | command .check => Command.check.name ++ " [OPTIONS] " ++ Slot.path.written
  | command c => c.name ++ " [OPTIONS]"
  | help => helpName ++ " [COMMAND]..."

/-- What can be given without a word for it, with what it is for. -/
def arguments : Topic → List (String × String)
  | program => []
  | command c => if takesPath (some c) then [(Slot.path.written, Slot.path.about)] else []
  | help => [("[COMMAND]...", "Print help for the subcommand(s)")]

/-- The commands with what they do. -/
def commands : Topic → List (String × String)
  | program => (Command.all.map fun c => (c.name, c.about)) ++ [(helpName, helpAbout)]
  | _ => []

/-- The options of a topic. -/
def options : Topic → List Slot
  | program => optionsOf none
  | command c => optionsOf (some c)
  | help => []

/-- There is a full form: some option has values to choose from. -/
def hasMore (t : Topic) : Bool := t.options.contains .format

end Topic

/-! ### Rows -/

/-- An option with its letter in front. -/
def flags (s : Slot) : String :=
  match s.short? with
  | some c => "-" ++ c.toString ++ ", " ++ s.written
  | none => "    " ++ s.written

/-- What an option is for, on a line. -/
def shortAbout (t : Topic) (s : Slot) : String :=
  match s with
  | .format =>
    s.about ++ " [default: " ++ Format.text.name ++ "] [possible values: "
      ++ String.intercalate ", " (Format.all.map Format.name) ++ "]"
  | .help => s.about ++ if t.hasMore then " (see more with '--help')" else ""
  | _ => s.about

/-- What an option is for, at length. -/
def fullAbout (s : Slot) : List String :=
  let margin := "          "
  match s with
  | .format =>
    let widest := (Format.all.map fun f => f.name.length).foldl max 0
    [margin ++ s.about, "", margin ++ "Possible values:"]
      ++ (Format.all.map fun f =>
        margin ++ "- " ++ Text.padRight (widest + 1) (f.name ++ ":") ++ " " ++ f.about)
      ++ [margin, margin ++ "[default: " ++ Format.text.name ++ "]"]
  | .help => [margin ++ s.about ++ " (see a summary with '-h')"]
  | _ => [margin ++ s.about]

/-- Rows of two columns. -/
def table (rows : List (String × String)) : List String :=
  let widest := (rows.map fun r => r.1.length).foldl max 0
  rows.map fun r => "  " ++ Text.padRight widest r.1 ++ "  " ++ r.2

/-- Blocks of lines with an empty line between any two. -/
def blocks : List (List String) → List String
  | [] => []
  | [b] => b
  | b :: bs => b ++ "" :: blocks bs

/-- A headed part of a help text, unless it is empty. -/
def part (title : String) : List String → List String
  | [] => []
  | lines => "" :: (title ++ ":") :: lines

/-! ### Texts -/

/-- The lines of a help text in short form. -/
def shortParts (t : Topic) : List String :=
  part "Arguments" (table t.arguments)
    ++ part "Commands" (table t.commands)
    ++ part "Options" (table (t.options.map fun s => (flags s, shortAbout t s)))

/-- The lines of a help text in full form. -/
def fullParts (t : Topic) : List String :=
  part "Arguments" (blocks (t.arguments.map fun a => ["  " ++ a.1, "          " ++ a.2]))
    ++ part "Options" (blocks (t.options.map fun s => ("  " ++ flags s) :: fullAbout s))

/-- The help text about a topic. -/
def helpText (t : Topic) (full : Bool) : String :=
  let lines := [t.about, "", "Usage: " ++ programName ++ " " ++ t.usage]
    ++ if full && t.hasMore then fullParts t else shortParts t
  String.join (lines.map (· ++ "\n"))

/-- The text that tells the version. -/
def versionText : String := programName ++ " " ++ version ++ "\n"

end CommandLine
end NotNullLint
