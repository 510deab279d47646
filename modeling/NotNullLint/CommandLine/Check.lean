import NotNullLint.Analysis.Run
import NotNullLint.CommandLine.Ending
import NotNullLint.CommandLine.Reader
import NotNullLint.Config.Origin
import NotNullLint.Rule.Catalog
import NotNullLint.Text.Blank

/-!
# Checking

A check finds its configuration, narrows it to the diagnostics that were asked for, analyzes the
models below the root and prints a report. It fails if some finding reaches the threshold of the
configuration, whatever the form of the report.
-/

namespace NotNullLint

/-! ### Narrowing a configuration -/

/-- The names in a list between commas. -/
def Catalog.namesIn (list : String) : List String :=
  (list.toList.splitOn ',').map fun s => Text.trim (String.ofList s)

/-- The diagnostic is named. -/
def Descriptor.isNamed (d : Descriptor) (names : List String) : Bool := names.any d.matchesKey

namespace Config

/-- The configuration with all diagnostics disabled that are not named. -/
def restrictTo (c : Config) (names : List String) : Config :=
  (Catalog.descriptors.filter fun d => !d.isNamed names).foldl (fun c d => c.disable d.code) c

/-- The configuration narrowed to a list of names, if there is one. -/
def narrow (c : Config) : Option String → Config
  | none => c
  | some list => c.restrictTo (Catalog.namesIn list)

/-- What there is to tell about a list of names: those that name nothing, and the diagnostics that
are not named. -/
def narrowEvents : Option String → List Log.Event
  | none => []
  | some list =>
    let names := Catalog.namesIn list
    ((names.filter fun n => (Catalog.find? n).isNone).map fun n =>
        (⟨.warn, .check, "Unknown rule: " ++ n⟩ : Log.Event))
      ++ (Catalog.descriptors.filter fun d => !d.isNamed names).map fun d =>
        ⟨.debug, .check, "Filtered out rule: " ++ d.code⟩

end Config

namespace CommandLine

/-! ### Failures -/

/-- The causes of a configuration error. -/
def configCauses (e : ConfigError) : List String :=
  match e with
  | .unreadable _ cause => [e.message, cause.message]
  | .refused _ => [e.message]

/-- The causes of a run error. -/
def runCauses (e : RunError) : List String :=
  match e with
  | .pattern p => [e.message, p.message]
  | .model (.unreadable _ cause) => [e.message, cause.message]
  | .model (.malformed ..) => [e.message]

/-- The failure to load the configuration of an origin. -/
def loadFailure (o : Config.Origin) (e : ConfigError) : Failure where
  summary := "Failed to load config: " ++ (o.path?.map Path.text).getD ""
  causes := configCauses e

/-- The failure of an analysis. -/
def runFailure (e : RunError) : Failure where
  summary := "Analysis failed"
  causes := runCauses e

/-! ### A check -/

/-- What there is to tell about a configuration that is used. -/
def originEvents : Config.Origin → List Log.Event
  | .global p => [⟨.info, .check, "Using global config: " ++ p.text⟩]
  | _ => []

/-- The analyzer of a check with the configuration that its origin gave. -/
def analyzerFor (here : Place) (o : Config.Origin) (c : Config) (q : CheckOptions) : Analyzer :=
  let c := c.narrow q.rules
  { linter := { rules := Catalog.rules, config := c }
    search := Analyzer.searchOf here c (some (c.rootFor o q.path)) [] q.excludes
    strict := q.strict }

/-- What there is to tell about an analysis that begins. -/
def beginEvents (a : Analyzer) : List Log.Event :=
  a.linter.warnings ++ [⟨.info, .check,
    "Analyzing " ++ Text.quotedPath a.search.root.text ++ " with "
      ++ toString a.linter.rules.length ++ " rules"⟩]

/-- The exit code for a report. -/
def verdict (r : Report) (threshold : Severity) : Nat := if r.hasAtLeast threshold then 1 else 0

/-- Prints the report of a check and passes judgement on it. -/
def concludeCheck (f : Files) (here : Place) (a : Analyzer) (form : Format) (r : Report) :
    Ending :=
  let source? := Violation.source? f here a.search.root
  { exitCode := verdict r a.linter.config.threshold
    output := r.render source? form
    events := r.renderEvents source? form
    files := f }

/-- Checks with a configuration from an origin. -/
def check (f : Files) (here : Place) (o : Config.Origin) (q : CheckOptions) : Ending :=
  match Config.ofOrigin f here o with
  | .error e => (loadFailure o e).ending (originEvents o) f
  | .ok c =>
    let a := analyzerFor here o c q
    let run := a.run f here
    let events := originEvents o ++ Config.narrowEvents q.rules ++ beginEvents a ++ run.events
    match run.result with
    | .error e => (runFailure e).ending events f
    | .ok r =>
      let ending := concludeCheck f here a q.format r
      { ending with events := events ++ ending.events }

end CommandLine
end NotNullLint
