import NotNullLint.Excerpt.Drawing
import NotNullLint.Files.Lookup
import NotNullLint.Log
import NotNullLint.Text.Wrap
import NotNullLint.Violation

/-!
# Findings with their source

A finding as a paragraph with the message, the stretch of source text that it is about, and a hint.
A finding whose source file cannot be read is shown without it.
-/

namespace NotNullLint

/-- Columns of the widest line of a message. -/
def Diagnostic.messageWidth : Nat := 78

/-- Columns of the widest line of a hint. -/
def Diagnostic.helpWidth : Nat := 76

/-- The lines that show a note on a named source text. -/
def Diagnostic.lines (d : Diagnostic) (name source : String) : List String :=
  Text.fill messageWidth "  × " "  │ " d.message
    ++ Excerpt.draw name source ⟨⟨d.offset.toNat, d.length.toNat⟩, d.label⟩
    ++ Text.fill helpWidth "  help: " "        " d.help

namespace Violation

/-- The source text that a finding is about: its file below the root, or else as it is named. -/
def source? (f : Files) (here : Place) (root : Path) (v : Violation) : Option String :=
  match f.read here (root.join v.location.file) with
  | .ok text => some text
  | .error _ => (f.read here v.location.file).toOption

/-- The paragraph for a finding, with its source if there is one. -/
def paragraph (v : Violation) : Option String → String
  | some source =>
    String.join ((v.diagnostic.lines v.location.file.text source).map (· ++ "\n")) ++ "\n"
  | none => v.format ++ "\n"

/-- What there is to tell about a finding without a source. -/
def sourceEvents (v : Violation) : Option String → List Log.Event
  | some _ => []
  | none => [⟨.debug, .output,
      "Source not found for " ++ v.location.file.text ++ ", falling back to text"⟩]

end Violation
end NotNullLint
