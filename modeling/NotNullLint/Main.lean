import NotNullLint.CommandLine.Program

/-!
# The command line

The outer layer of the program. It gathers the files that a run looks at, runs the program on them,
writes the files that have changed, and prints.
-/

namespace NotNullLint
namespace CommandLine

/-- The place of an absolute path, each `..` leading back to the folder before it. -/
def placeAt (path : String) : Place :=
  ((path.toList.splitOn '/').map String.ofList).foldl (fun (here : Place) s =>
    if s = "" ∨ s = "." then here else if s = ".." then here.dropLast else here ++ [s]) []

/-- The files with what stands at a path and below it. -/
partial def gather (f : Files) (path : String) : IO Files := do
  let place := placeAt path
  let f := f.makeFolder place.dropLast
  match ← (IO.FS.realPath path).toBaseIO with
  | .error _ => return f
  | .ok real =>
    if ← real.isDir then
      -- a link to a folder above the path leads round in a circle
      let target := placeAt real.toString
      if target != place && target.isPrefixOf place then return f
      let mut g := f.makeFolder place
      for entry in ← real.readDir do
        g ← gather g (Place.path (place ++ [entry.fileName])).text
      return g
    else
      match ← (IO.FS.readBinFile path).toBaseIO with
      | .error _ => return f
      | .ok content => return (f.put? place (.file content)).getD f

/-- The files that a request looks at. Each round may tell of more of them. -/
def gatherFor (env : Environment) (here : Place) (q : Request) : IO Files := do
  let mut f := Files.empty.makeFolder here
  for _ in List.range 3 do
    for p in pathsOf env f here q do
      f ← gather f (here.path.join p).text
  return f

/-- Writes the files that are new or have changed. -/
def store (before after : Files) : IO Unit := do
  for (place, node) in after.entries do
    match node with
    | .file content =>
      if before.node? place != some node then IO.FS.writeBinFile place.path.text content
    | .folder => pure ()

/-- What the environment says. -/
def environment : IO Environment := do
  let folder ← IO.getEnv "IPY_LINT_CONFIG_DIR"
  let home ← IO.getEnv "HOME"
  let log ← IO.getEnv "RUST_LOG"
  return { configFolder := folder.map Path.mk, home := (home.filter (· != "")).map Path.mk, log }

end CommandLine
end NotNullLint

open NotNullLint CommandLine in
/-- Runs the program on a command line. -/
def main (args : List String) : IO UInt32 := do
  let env ← environment
  let here := placeAt (← IO.currentDir).toString
  let files ← match read args with
    | .ok q => gatherFor env here q
    | .error _ => pure .empty
  let ending := run env files here args
  store files ending.files
  for e in ending.events do
    IO.eprintln (e.level.name ++ " " ++ e.text)
  IO.eprint ending.errors
  IO.print ending.output
  return ending.exitCode.toUInt32
