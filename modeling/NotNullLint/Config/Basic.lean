import NotNullLint.Config.RuleTable
import NotNullLint.Path

/-!
# Configurations

Where to look for models, which diagnostics to report and how, and when a run fails.
-/

namespace NotNullLint

/-- Where to look for models. -/
structure Scope where
  root : Path := ⟨"."⟩
  /-- Patterns below the root that select models. -/
  includes : List String := ["**/*.symbols.json"]
  /-- Patterns that exclude what is selected. -/
  excludes : List String := []
  deriving DecidableEq, Repr, Inhabited

/-- A configuration. -/
structure Config where
  failOn : Option Severity := none
  scope : Scope := {}
  rules : RuleTable := .empty

namespace Config

/-- A run fails from this severity on. -/
def threshold (c : Config) : Severity := c.failOn.getD .error

/-- The diagnostic is reported. -/
def isEnabled (c : Config) (d : Descriptor) : Bool := c.rules.isEnabled d

/-- The severity that the diagnostic is reported with. -/
def severity (c : Config) (d : Descriptor) : Severity := c.rules.severity d

/-- The configuration with what a key names disabled. -/
def disable (c : Config) (key : String) : Config := { c with rules := c.rules.disable key }

end Config
end NotNullLint
