import NotNullLint.Json.Printer
import NotNullLint.Report
import NotNullLint.Report.Rich
import NotNullLint.Shape.Shaped

/-!
# Reports as text

The four forms of a report: coloured paragraphs, a JSON document, a line for each finding, and
paragraphs with source text. The first and the last of them close with a coloured summary.
-/

namespace NotNullLint

/-- The form of a report. -/
inductive Format where
  | text
  | json
  | compact
  | rich
  deriving DecidableEq, Repr, Inhabited

namespace Format

/-- All forms. -/
def all : List Format := [text, json, compact, rich]

theorem mem_all (f : Format) : f ∈ all := by cases f <;> decide

/-- The word for a form. -/
def name : Format → String
  | text => "text"
  | json => "json"
  | compact => "compact"
  | rich => "rich"

/-- The form that a word stands for. -/
def ofName? (s : String) : Option Format := all.find? fun f => f.name = s

theorem ofName?_name (f : Format) : ofName? f.name = some f := by cases f <;> decide

end Format

/-- The colours of a terminal that are used. -/
inductive Colour where
  | red
  | green
  | yellow
  | blue
  deriving DecidableEq, Repr

namespace Colour

/-- The number of a colour. -/
def number : Colour → Nat
  | red => 31
  | green => 32
  | yellow => 33
  | blue => 34

/-- The sequence after which text has a colour. -/
def start (c : Colour) : String := "\x1b[" ++ toString c.number ++ "m"

/-- The sequence after which text has no colour. -/
def stop : String := "\x1b[0m"

/-- A text in a colour. -/
def paint (c : Colour) (s : String) : String := c.start ++ s ++ stop

/-- The colour of a severity. -/
def ofSeverity : Severity → Colour
  | .error => red
  | .warning => yellow
  | .info => blue

/-- The colour of a summary. -/
def ofTally (t : Tally) : Colour :=
  if 0 < t.errors then red else if 0 < t.warnings then yellow else green

end Colour

/-- The paragraph for a finding in colour. -/
def Violation.colouredText (v : Violation) : String :=
  v.heading ++ "\n  " ++ (Colour.ofSeverity v.severity).paint v.severity.name ++ ": " ++ v.message
    ++ "\n\n"

namespace Report

/-- The line that closes a report in colour. -/
def closing (r : Report) : String := (Colour.ofTally r.tally).paint r.summary ++ "\n"

/-- A report as coloured paragraphs. -/
def toText (r : Report) : String :=
  String.join (r.violations.map Violation.colouredText) ++ r.closing

/-- A report as a JSON document. -/
def toJsonText (r : Report) : String := (Shaped.toJson r).toPrettyText

/-- A report as lines. -/
def toLines (r : Report) : String := String.join (r.violations.map fun v => v.line ++ "\n")

/-- A report with source texts. -/
def toRichText (r : Report) (source? : Violation → Option String) : String :=
  String.join (r.violations.map fun v => v.paragraph (source? v)) ++ r.closing

/-- A report in a form; `source?` finds the source text of a finding. -/
def render (r : Report) (source? : Violation → Option String) : Format → String
  | .text => r.toText
  | .json => r.toJsonText ++ "\n"
  | .compact => r.toLines
  | .rich => r.toRichText source?

/-- What there is to tell about a report that is shown in a form. -/
def renderEvents (r : Report) (source? : Violation → Option String) : Format → List Log.Event
  | .rich => r.violations.flatMap fun v => v.sourceEvents (source? v)
  | _ => []

end Report
end NotNullLint
