import NotNullLint.CommandLine.Check
import NotNullLint.CommandLine.Init
import NotNullLint.CommandLine.RuleList
import NotNullLint.Log.Filter

/-!
# The program

One run of the program as a function of its arguments, of what the environment says, and of the
files that it finds.
-/

namespace NotNullLint
namespace CommandLine

/-- What the environment says. -/
structure Environment where
  /-- The folder for the global configuration. -/
  configFolder : Option Path := none
  home : Option Path := none
  /-- The log filter that is asked for. -/
  log : Option String := none
  deriving DecidableEq, Repr, Inhabited

namespace Environment

/-- The folder below the home of a user that holds the global configuration. -/
def folderBelowHome : Path := ⟨".ipy-lint"⟩

/-- The folder that holds the global configuration. -/
def globalFolder? (e : Environment) : Option Path :=
  e.configFolder.or (e.home.map fun h => h.join folderBelowHome)

end Environment

/-- The ending with only those events that a filter shows. -/
def Ending.filterEvents (g : Log.Filter) (e : Ending) : Ending :=
  { e with events := e.events.filter g.shows }

/-- The ending after more was told before. -/
def Ending.after (events : List Log.Event) (e : Ending) : Ending :=
  { e with events := events ++ e.events }

/-- What is analyzed if no path is given. -/
def defaultPath : Path := ⟨"."⟩

/-- Does what was asked for. -/
def perform (env : Environment) (f : Files) (here : Place) (q : Request) : Ending :=
  match q.task with
  | .check o =>
    let origin := Config.originOf f here (o.path.getD defaultPath) q.config env.globalFolder?
    (check f here origin o).after origin.events
  | .listRules => { output := ruleList, files := f }
  | .init force => init f here force

/-- The paths that a check looks at, as far as the files tell: those that may hold its
configuration, its root, and the source texts that its report shows. -/
def pathsOfCheck (env : Environment) (f : Files) (here : Place) (config : Option Path)
    (o : CheckOptions) : List Path :=
  let analyzed := o.path.getD defaultPath
  let folders := (Config.standpoint f here analyzed).ancestors
  let configs := config.toList ++ analyzed
    :: (folders.flatMap fun d => Config.projectNames.map fun n => d.join ⟨n⟩)
    ++ (env.globalFolder?.map fun d => d.join ⟨Config.globalName⟩).toList
  let origin := Config.originOf f here analyzed config env.globalFolder?
  match Config.ofOrigin f here origin with
  | .error _ => configs
  | .ok c =>
    let a := analyzerFor here origin c o
    let sources := match o.format, (a.run f here).result with
      | .rich, .ok r => r.violations.flatMap fun v =>
        [a.search.root.join v.location.file, v.location.file]
      | _, _ => []
    configs ++ a.search.root :: sources

/-- The paths that a request looks at, as far as the files tell. -/
def pathsOf (env : Environment) (f : Files) (here : Place) (q : Request) : List Path :=
  match q.task with
  | .check o => pathsOfCheck env f here q.config o
  | .listRules => []
  | .init _ => [⟨configName⟩]

/-- The end of a run without anything to do. -/
def interrupt (f : Files) : Interruption → Ending
  | .help t full => { output := helpText t full, files := f }
  | .version => { output := versionText, files := f }
  | .nothing => { exitCode := usageExitCode, errors := helpText .program true, files := f }
  | .mistake m =>
    { exitCode := usageExitCode, errors := "error: " ++ m.message ++ "\n", files := f }

/-- Runs the program. -/
def run (env : Environment) (f : Files) (here : Place) (args : List String) : Ending :=
  match read args with
  | .error i => interrupt f i
  | .ok q => (perform env f here q).filterEvents (Log.Filter.choose q.verbose env.log)

end CommandLine
end NotNullLint
