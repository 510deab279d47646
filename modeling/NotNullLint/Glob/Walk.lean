import NotNullLint.Files.Lookup
import NotNullLint.Glob.Pattern

/-!
# What a pattern finds

A pattern is followed component by component from the root. A component without wildcards leads
to the entry of that name, also to `.` and `..`; one with wildcards leads to the entries that it
matches, in the order of their names, and to `.` and `..` only if it is written with a leading
point; `**` leads to everything below.
-/

namespace NotNullLint
namespace Glob

/-- A place and the path on which it was found. -/
structure Spot where
  path : Path
  place : Place
  deriving DecidableEq, Repr, Inhabited

namespace Spot

/-- A folder stands at the spot. -/
def isFolder (f : Files) (s : Spot) : Bool := f.node? s.place == some .folder

/-- The name that a spot was found under. -/
def name (s : Spot) : List Char := ((s.place.getLast?).getD "").toList

/-- A place below, seen from the spot. -/
def down (s : Spot) (q : Place) : Spot :=
  ⟨s.path.join ⟨String.intercalate "/" (q.drop s.place.length)⟩, q⟩

/-- The spot one literal name further. -/
def follow? (f : Files) (s : Spot) (name : String) : Option Spot :=
  match f.step s.place name with
  | .ok q => some ⟨s.path.join ⟨name⟩, q⟩
  | .error _ => none

end Spot

/-- The components of a pattern after the root. -/
def components (text : List Char) : List (List Char) :=
  let parts := (if text.head? = some '/' then text.tail else text).splitOn '/'
  if parts.getLast? = some [] then parts.dropLast else parts

/-- The special entries that a component with a leading point finds. -/
def specials (f : Files) (p : Pattern) (s : Spot) : List Spot :=
  if p.head? = some (.char '.') then
    ["..", "."].filterMap fun name =>
      if p.accepts name.toList then s.follow? f name else none
  else []

/-- The component stands for any folders on the way. -/
def isDeep (p : Pattern) : Bool := p == [.folders]

/-- The spots that the components lead to from a spot; `onlyFolders` drops all but folders. -/
def expand (f : Files) (onlyFolders : Bool) : List Pattern → Spot → List Spot
  | [], s => if onlyFolders && !s.isFolder f then [] else [s]
  | p :: ps, s =>
    match p.literal? with
    | some name =>
      match s.follow? f name with
      | some t => expand f onlyFolders ps t
      | none => []
    | none =>
      if !s.isFolder f then []
      else if isDeep p then
        match ps with
        | [] => ((f.below s.place).map s.down).filter (·.isFolder f)
        | q :: qs =>
          if isDeep q then expand f onlyFolders (q :: qs) s
          else
            ((f.below s.place).map s.down).flatMap fun t =>
              if q.accepts t.name then expand f onlyFolders qs t else []
      else
        (specials f p s).flatMap (expand f onlyFolders ps)
          ++ ((f.children s.place).map s.down).flatMap fun t =>
            if p.accepts t.name then expand f onlyFolders ps t else []

/-- What an absolute pattern finds, in order. The text has to be a pattern as a whole and in each
component. -/
def find (f : Files) (text : String) : Except PatternError (List Spot) := do
  let _ ← parse text.toList
  let ps ← (components text.toList).mapM parse
  return expand f (text.toList.getLast? = some '/') ps ⟨⟨"/"⟩, []⟩

end Glob
end NotNullLint
