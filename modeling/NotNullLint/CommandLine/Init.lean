import NotNullLint.CommandLine.Ending
import NotNullLint.Files.Lookup

/-!
# Writing a first configuration
-/

namespace NotNullLint

/-- A configuration that says what holds without one. -/
def Config.template : String :=
  "# ipy-lint configuration

# Severity at or above which \x60ipy-lint check\x60 exits non-zero.
# IPY diagnostics are warnings by default, so the default run never fails.
# fail_on = \"warning\"

[analyzer]
# Directory holding the symbol model files, relative to this file.
# Used when \x60ipy-lint check\x60 is run without a path.
# root = \"./obj/symbols\"

# Symbol model files to analyze
include = [\"**/*.symbols.json\"]

# Glob patterns to exclude from analysis
exclude = [
    \"**/target/**\",
    \"**/bin/**\",
]

# Rule configurations, keyed by code or name.
# Each rule can be enabled/disabled and have its severity overridden.

[rules.IPY01]  # missing-not-null
enabled = true
# severity = \"error\"

[rules.IPY02]  # redundant-not-null
enabled = true
"

namespace CommandLine

/-- The name of the file that is written. -/
def configName : String := "ipy-lint.toml"

/-- What is printed when the file has been written. -/
def initText : String :=
  "Created " ++ configName ++ "\n\nNext steps:\n  1. Edit " ++ configName
    ++ " to configure rules\n  2. Run: ipy-lint check <dir-with-symbol-models>\n"

/-- Writes a first configuration in the working directory; what stands there already is only
overwritten by force. -/
def init (f : Files) (here : Place) (force : Bool) : Ending :=
  if f.leadsSomewhere here ⟨configName⟩ && !force then
    Failure.ending
      { summary := "Configuration file already exists at " ++ configName
          ++ ". Use --force to overwrite." } [] f
  else
    match f.write here configName Config.template with
    | .error e => Failure.ending { summary := e.message } [] f
    | .ok g => { output := initText, files := g }

end CommandLine
end NotNullLint
