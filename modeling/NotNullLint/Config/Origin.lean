import NotNullLint.Config.Load
import NotNullLint.Log

/-!
# Where a configuration comes from

A file that was asked for wins. Else the project's file is taken, from the analyzed folder or the
nearest one above it that has one; else the global file; else there is none. A relative root in a
file is seen from the folder of that file.
-/

namespace NotNullLint
namespace Config

/-- Where a configuration comes from. -/
inductive Origin where
  /-- The file that was asked for. -/
  | requested (path : Path)
  | project (path : Path)
  | global (path : Path)
  /-- No file. -/
  | builtIn
  deriving DecidableEq, Repr, Inhabited

namespace Origin

/-- The file of a configuration. -/
def path? : Origin → Option Path
  | requested p => some p
  | project p => some p
  | global p => some p
  | builtIn => none

/-- The folder of the file. -/
def folder? (o : Origin) : Option Path := o.path?.bind Path.parent?

end Origin

/-! ### Finding the file -/

/-- The names of a project's file, the preferred one first. -/
def projectNames : List String := ["ipy-lint.toml", ".ipy-lint.toml"]

/-- The name of the global file. -/
def globalName : String := "config.toml"

/-- The project's file in a folder. -/
def projectFile? (f : Files) (here : Place) (folder : Path) : Option Path :=
  (projectNames.map fun n => folder.join ⟨n⟩).find? (f.leadsToFile here)

/-- What a path leads to, named from the root; a path that leads nowhere stays as it is. -/
def standpoint (f : Files) (here : Place) (p : Path) : Path :=
  match f.resolve here p with
  | .ok q => q.path
  | .error _ => p

/-- The nearest project file at or above a path. -/
def nearestProjectFile? (f : Files) (here : Place) (p : Path) : Option Path :=
  (standpoint f here p).ancestors.findSome? (projectFile? f here)

/-- The global file in the folder for it. -/
def globalFile? (f : Files) (here : Place) (folder : Option Path) : Option Path :=
  (folder.map fun d => d.join ⟨globalName⟩).filter (f.leadsToFile here)

/-- Where the configuration comes from for an analyzed path. -/
def originOf (f : Files) (here : Place) (analyzed : Path) (request globalFolder : Option Path) :
    Origin :=
  match request with
  | some p => .requested p
  | none =>
    match nearestProjectFile? f here analyzed with
    | some p => .project p
    | none =>
      match globalFile? f here globalFolder with
      | some p => .global p
      | none => .builtIn

/-- What there is to tell about the search for a configuration. -/
def Origin.events : Origin → List Log.Event
  | project p => [⟨.debug, .resolution, "Found project config: " ++ p.text⟩]
  | global p => [⟨.debug, .resolution, "Found global config: " ++ p.text⟩]
  | _ => []

/-! ### Using it -/

/-- The configuration that an origin gives. -/
def ofOrigin (f : Files) (here : Place) (o : Origin) : Except ConfigError Config :=
  match o.path? with
  | some p => Config.load f here p
  | none => .ok {}

/-- The root to analyze: a path that was given, or else the configured root. -/
def rootFor (c : Config) (o : Origin) (given : Option Path) : Path :=
  match given with
  | some p => p
  | none =>
    match o.folder? with
    | some d => d.join c.scope.root
    | none => c.scope.root

end Config
end NotNullLint
