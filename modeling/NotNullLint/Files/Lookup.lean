import NotNullLint.Files.Basic

/-!
# Paths and what they lead to

A path is followed from the root or from the working directory, name by name. Each step starts in
a folder, so a slash at the end wants a folder as well.
-/

namespace NotNullLint

/-- Why a file operation fails. -/
inductive FileError where
  | notFound
  | notFolder
  | isFolder
  | nameTooLong
  /-- The path holds the character of code 0. -/
  | nulInName
  /-- The bytes are not UTF-8. -/
  | notText
  deriving DecidableEq, Repr, Inhabited

/-- The text of a file error. -/
def FileError.message : FileError → String
  | notFound => "No such file or directory (os error 2)"
  | notFolder => "Not a directory (os error 20)"
  | isFolder => "Is a directory (os error 21)"
  | nameTooLong => "File name too long (os error 36)"
  | nulInName => "file name contained an unexpected NUL byte"
  | notText => "stream did not contain valid UTF-8"

namespace Files

/-- The greatest number of bytes in a name. -/
def maxName : Nat := 255

/-- A path has fewer bytes than this. -/
def maxPath : Nat := 4096

/-- One step of a path. -/
def step (f : Files) (here : Place) (s : String) : Except FileError Place :=
  if f.node? here ≠ some .folder then .error .notFolder
  else if s = "" ∨ s = "." then .ok here
  else if s = ".." then .ok here.dropLast
  else if maxName < s.utf8ByteSize then .error .nameTooLong
  else if (f.node? (here ++ [s])).isSome then .ok (here ++ [s])
  else .error .notFound

/-- The place that a path leads to from the folder `here`. -/
def resolve (f : Files) (here : Place) (p : Path) : Except FileError Place :=
  if '\x00' ∈ p.text.toList then .error .nulInName
  else if p.text = "" then .error .notFound
  else if maxPath ≤ p.text.utf8ByteSize then .error .nameTooLong
  else p.pieces.foldlM f.step (if p.isAbsolute then [] else here)

/-- What a path leads to. -/
def find? (f : Files) (here : Place) (p : Path) : Option Node :=
  match f.resolve here p with
  | .ok q => f.node? q
  | .error _ => none

/-- The path leads to something. -/
def leadsSomewhere (f : Files) (here : Place) (p : Path) : Bool := (f.find? here p).isSome

/-- The path leads to a file. -/
def leadsToFile (f : Files) (here : Place) (p : Path) : Bool :=
  match f.find? here p with
  | some (.file _) => true
  | _ => false

/-- The path leads to a folder. -/
def leadsToFolder (f : Files) (here : Place) (p : Path) : Bool :=
  match f.find? here p with
  | some .folder => true
  | _ => false

/-- The bytes as text. -/
def decode (content : ByteArray) : Except FileError String :=
  match String.fromUTF8? content with
  | some s => .ok s
  | none => .error .notText

/-- The text of the file that a path leads to. -/
def read (f : Files) (here : Place) (p : Path) : Except FileError String := do
  let q ← f.resolve here p
  match f.node? q with
  | some (.file content) => decode content
  | some .folder => .error .isFolder
  | none => .error .notFound

/-- Writes the text of a file in the folder `here`. -/
def write (f : Files) (here : Place) (name text : String) : Except FileError Files :=
  match f.put? (here ++ [name]) (.file text.toUTF8) with
  | some g => .ok g
  | none => if f.HasFolder (here ++ [name]) then .error .isFolder else .error .notFound

end Files
end NotNullLint
