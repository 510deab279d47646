import NotNullLint.Glob.Walk
import NotNullLint.Log

/-!
# Discovery

The model files below a root: what the include patterns find there, less what the exclude patterns
name, each path once and in order. Exclude patterns see paths from the root on, with a slash in
front, so where the root itself lies does not matter.
-/

namespace NotNullLint

/-- Where to look and which patterns select. -/
structure Search where
  root : Path
  includes : List String
  excludes : List String
  deriving DecidableEq, Repr, Inhabited

namespace Search

/-- A path as the exclude patterns see it. -/
def seen (s : Search) (p : Path) : List Char :=
  match p.relativeTo? s.root with
  | some q => '/' :: q.text.toList
  | none => p.text.toList

/-- The pattern stands for the whole text; a text that is no pattern stands for nothing. -/
def patternAccepts (pattern : String) (text : List Char) : Bool :=
  match Glob.parse pattern.toList with
  | .ok p => p.accepts text
  | .error _ => false

/-- The text that excludes wherever it occurs: the pattern without its double stars. -/
def fragment (pattern : String) : List Char := Text.replaceAll ['*', '*'] [] pattern.toList

/-- The pattern excludes the text. -/
def patternExcludes (text : List Char) (pattern : String) : Bool :=
  patternAccepts pattern text
    || (fragment pattern != [] && fragment pattern != ['/']
      && Text.occursIn (fragment pattern) text)

/-- The path is excluded. -/
def excluded (s : Search) (p : Path) : Bool := s.excludes.any (patternExcludes (s.seen p))

/-- An include pattern as seen from the root of all files. -/
def fromRoot (s : Search) (pattern : String) : String := s.root.text ++ "/" ++ pattern

/-- The paths that an include pattern finds. -/
def found (s : Search) (f : Files) (pattern : String) :
    Except Glob.PatternError (List Path) :=
  (Glob.find f (s.fromRoot pattern)).map fun spots => spots.map (·.path)

/-- Paths of which neighbours do not name the same; of several the first stays. -/
def dedup : List Path → List Path
  | [] => []
  | p :: ps =>
    match dedup ps with
    | [] => [p]
    | q :: qs => if p.same q then p :: qs else p :: q :: qs

/-- Paths in order, each once. -/
def arrange (ps : List Path) : List Path :=
  dedup (ps.mergeSort fun p q => (compare p q).isLE)

/-- The selected files. -/
def files (s : Search) (f : Files) : Except Glob.PatternError (List Path) := do
  let lists ← s.includes.mapM (s.found f)
  return arrange (lists.flatten.filter fun p => !s.excluded p)

/-- What there is to tell about the search: what was excluded, up to the first pattern that is
none. -/
def events (s : Search) (f : Files) : List Log.Event :=
  (go s.includes).map fun p => ⟨.debug, .analysis, "Excluding: " ++ p.text⟩
where
  /-- What was excluded. -/
  go : List String → List Path
    | [] => []
    | pattern :: rest =>
      match s.found f pattern with
      | .ok ps => ps.filter s.excluded ++ go rest
      | .error _ => []

end Search
end NotNullLint
