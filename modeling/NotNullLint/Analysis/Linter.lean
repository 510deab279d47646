import NotNullLint.Config.Basic
import NotNullLint.Report
import NotNullLint.Rule.Basic

/-!
# Checking one model

A linter is a list of rules and a configuration. A rule runs if some diagnostic of it is enabled;
it is then shown every member of the model that it admits, in the order of declaration. What the
rules report passes the configuration, which drops disabled diagnostics and sets severities, and
is sorted. The order in which reports come in therefore only matters among findings that tie.
-/

namespace NotNullLint

/-- Rules and what a configuration makes of their reports. -/
structure Linter where
  rules : List Rule
  config : Config := {}

namespace Linter

/-- All diagnostics that the rules advertise. -/
def descriptors (l : Linter) : List Descriptor := l.rules.flatMap Rule.descriptors

/-- The rule runs: one of its diagnostics is enabled. -/
def runs (l : Linter) (r : Rule) : Bool := r.descriptors.any l.config.isEnabled

/-- The rules that run. -/
def active (l : Linter) : List Rule := l.rules.filter l.runs

/-- Which rule is shown which member, in order. -/
def shown (l : Linter) (m : Model) : List (Rule × Member) :=
  l.active.flatMap fun r => (r.eligible m).map fun x => (r, x)

/-- What a rule is told about the model at a path. -/
def context (path : Path) (m : Model) : Context := ⟨path, m.assembly⟩

/-- What the rules say about the model, in order. -/
def visits (l : Linter) (path : Path) (m : Model) : List Visit :=
  (l.shown m).map fun s => s.1.visit (context path m) s.2

/-- What the rules report about the model, in order. -/
def reports (l : Linter) (path : Path) (m : Model) : List Violation :=
  (l.visits path m).flatMap Visit.reports

/-- The diagnostic with a code, if some rule advertises it. -/
def descriptor? (l : Linter) (code : String) : Option Descriptor :=
  l.descriptors.find? fun d => d.code = code

/-- What the configuration makes of a finding. -/
def settle (l : Linter) (v : Violation) : Option Violation :=
  match l.descriptor? v.code with
  | none => some v
  | some d => if l.config.isEnabled d then some { v with severity := l.config.severity d } else none

/-- The members that some rule is shown. -/
def checked (l : Linter) (m : Model) : List Member :=
  m.members.filter fun x => l.active.any (·.admits x)

/-- The report on a model for which these findings came in. -/
def conclude (l : Linter) (m : Model) (found : List Violation) : Report :=
  Report.sort
    { violations := found.filterMap l.settle
      filesChecked := 1
      methodsChecked := (l.checked m).length.toUInt64 }

/-- The report on a model. -/
def check (l : Linter) (path : Path) (m : Model) : Report := l.conclude m (l.reports path m)

/-- Some rule asks to stop after this model. -/
def cancels (l : Linter) (path : Path) (m : Model) : Bool :=
  (l.visits path m).any Visit.cancels

/-- What there is to tell about one rule. -/
def ruleEvents (l : Linter) (path : Path) (m : Model) (r : Rule) : List Log.Event :=
  if l.runs r then
    let eligible := r.eligible m
    ⟨.debug, .analysis, "Running " ++ r.name ++ " on " ++ toString eligible.length ++ " of "
      ++ toString m.methodCount ++ " method(s) in " ++ path.text⟩
      :: eligible.flatMap fun x => (r.visit (context path m) x).notes
  else [⟨.debug, .analysis, "Skipping disabled rule: " ++ r.name⟩]

/-- What there is to tell while a model is checked. -/
def events (l : Linter) (path : Path) (m : Model) : List Log.Event :=
  l.rules.flatMap (l.ruleEvents path m)

/-- What there is to tell before anything is checked: the keys that name no diagnostic. -/
def warnings (l : Linter) : List Log.Event :=
  (l.config.rules.unknownKeys l.descriptors).map fun key =>
    ⟨.warn, .analysis, "Ignoring configuration for unknown rule: " ++ key⟩

end Linter
end NotNullLint
