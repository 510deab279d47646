import NotNullLint.Analysis.Discovery
import NotNullLint.Analysis.Linter
import NotNullLint.Text.Quoted

/-!
# Checking the models below a root

The selected files are checked one after the other. A file that is no model is skipped, or ends a
strict run; a file that cannot be read ends every run. Once some rule has asked to stop, no
further file is touched.
-/

namespace NotNullLint

/-- Why a file yields no model. -/
inductive LoadError where
  | unreadable (path : Path) (cause : FileError)
  | malformed (path : Path) (what : String)
  deriving DecidableEq, Repr

/-- The text of a load error. -/
def LoadError.message : LoadError → String
  | unreadable path cause =>
    "Failed to read symbol model " ++ path.text ++ ": " ++ cause.message
  | malformed path what => "Invalid symbol model in " ++ path.text ++ ": " ++ what

/-- The model in the file that a path leads to. -/
def Model.load (f : Files) (here : Place) (path : Path) : Except LoadError Model :=
  match f.read here path with
  | .error cause => .error (.unreadable path cause)
  | .ok text =>
    match Shaped.ofText text with
    | .ok m => .ok m
    | .error what => .error (.malformed path what)

/-- Why a run fails. -/
inductive RunError where
  | pattern (e : Glob.PatternError)
  | model (e : LoadError)
  deriving DecidableEq, Repr

/-- The text of a run error. -/
def RunError.message : RunError → String
  | pattern e => "Invalid glob pattern: " ++ e.message
  | model e => e.message

/-- How a run ends: with a report or an error, and whether a rule has asked to stop. -/
structure Outcome where
  result : Except RunError Report
  cancelled : Bool := false
  events : List Log.Event := []

namespace Outcome

/-- The outcome after more was told before. -/
def after (events : List Log.Event) (o : Outcome) : Outcome :=
  { o with events := events ++ o.events }

end Outcome

/-- A linter and where it looks for models. -/
structure Analyzer where
  linter : Linter
  search : Search
  /-- A file that is no model ends the run. -/
  strict : Bool := false

namespace Analyzer

/-- What is excluded if nothing is said about it. -/
def defaultExcludes : List String := ["**/target/**", "**/bin/**"]

/-- The search of a configuration, with what a caller gives besides: a root and includes in place
of the configured ones, and more excludes. -/
def searchOf (here : Place) (c : Config) (root : Option Path := none)
    (includes excludes : List String := []) : Search :=
  let all := excludes ++ c.scope.excludes
  { root := here.path.join (root.getD c.scope.root)
    includes := if includes.isEmpty then c.scope.includes else includes
    excludes := if all.isEmpty then defaultExcludes else all }

/-- Adds the reports on the models in the files to `sum`; `load` reads a model. -/
def checkAll (a : Analyzer) (load : Path → Except LoadError Model) (cancelled : Bool)
    (sum : Report) : List Path → Outcome
  | [] => { result := .ok sum, cancelled }
  | p :: ps =>
    if cancelled then
      { result := .ok sum
        cancelled
        events := [⟨.warn, .analysis,
          "Analysis cancelled after " ++ toString sum.filesChecked ++ " file(s)"⟩] }
    else
      let loading : Log.Event := ⟨.debug, .analysis, "Loading: " ++ p.text⟩
      match load p with
      | .ok m =>
        (checkAll a load (a.linter.cancels p m) (sum ++ a.linter.check p m) ps).after
          (loading :: a.linter.events p m)
      | .error (.malformed path what) =>
        let skipping : Log.Event :=
          ⟨.warn, .analysis, "Skipping malformed symbol model: " ++ what⟩
        if a.strict then
          { result := .error (.model (.malformed path what)), cancelled
            events := [loading, skipping] }
        else (checkAll a load cancelled sum ps).after [loading, skipping]
      | .error e => { result := .error (.model e), cancelled, events := [loading] }

/-- Sorts the report of an outcome. -/
def finish (o : Outcome) : Outcome :=
  match o.result with
  | .error _ => o
  | .ok sum =>
    { o with
      result := .ok sum.sort
      events := o.events ++ [⟨.info, .analysis,
        "Analysis complete: " ++ toString sum.violations.length ++ " violations in "
          ++ toString sum.methodsChecked ++ " methods"⟩] }

/-- Checks the models that the search selects. -/
def run (a : Analyzer) (f : Files) (here : Place) (cancelled : Bool := false) : Outcome :=
  let start := ⟨.info, .analysis, "Starting analysis at " ++ Text.quotedPath a.search.root.text⟩
    :: a.search.events f
  match a.search.files f with
  | .error e => { result := .error (.pattern e), cancelled, events := start }
  | .ok ps =>
    (finish (a.checkAll (Model.load f here) cancelled {} ps)).after
      (start ++ [⟨.info, .analysis,
        "Found " ++ toString ps.length ++ " symbol model(s) to analyze"⟩])

end Analyzer
end NotNullLint
