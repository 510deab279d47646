import NotNullLint.Toml.Scan

/-!
# TOML documents

Values by recursion on how deep they may still nest, and the lines of a document one after the
other. The wording of syntax faults is not told, so a malformed document is just no document.
-/

namespace NotNullLint
namespace Toml

/-- A value that does not nest. -/
def scalar (s : List Char) : Option (Ahead Toml) :=
  match s with
  | 't' :: 'r' :: 'u' :: 'e' :: r => some (.flag true, r)
  | 'f' :: 'a' :: 'l' :: 's' :: 'e' :: r => some (.flag false, r)
  | c :: _ =>
    if c = '"' ∨ c = '\'' then (quotedText s).map fun (t, r) => (.text t, r) else numeric s
  | [] => none

/-- The items of an array up to its closing bracket; the last one may be followed by a comma. -/
def arrayItems (read : List Char → Option (Ahead Toml)) :
    Nat → List Char → Option (Ahead (List Toml))
  | 0, _ => none
  | fuel + 1, s =>
    match skipLines s.length s with
    | ']' :: r => some ([], r)
    | t => do
      let (v, u) ← read t
      match skipLines u.length u with
      | ',' :: r =>
        let (vs, w) ← arrayItems read fuel r
        return (v :: vs, w)
      | ']' :: r => return ([v], r)
      | _ => none

/-- A key, the sign of equality and a value. -/
def keyValue (read : List Char → Option (Ahead Toml)) (s : List Char) :
    Option (Ahead (List String × Toml)) := do
  let (path, t) ← key s
  match t with
  | '=' :: r =>
    let (v, u) ← read (skipGap r)
    return ((path, v), u)
  | _ => none

/-- Adds a value under the key with these parts. -/
def addUnder (path : List String) (v : Toml) (es : Entries) : Option Entries :=
  match path.getLast? with
  | none => none
  | some last => put true last v path.dropLast es

/-- The entries of a table in braces up to the closing one, added to those before. -/
def braceEntries (read : List Char → Option (Ahead Toml)) :
    Nat → Entries → List Char → Option (Ahead Entries)
  | 0, _, _ => none
  | fuel + 1, es, s => do
    let ((path, v), t) ← keyValue read s
    let es ← addUnder path v es
    match skipGap t with
    | ',' :: r => braceEntries read fuel es r
    | '\x7d' :: r => return (es, r)
    | _ => none

/-- A value in which arrays and tables in braces nest at most `depth` deep. -/
def readValue : Nat → List Char → Option (Ahead Toml)
  | 0, s => scalar s
  | depth + 1, s =>
    match s with
    | '[' :: r =>
      (arrayItems (readValue depth) (r.length + 1) r).map fun (vs, t) => (.array vs, t)
    | '\x7b' :: r =>
      match skipGap r with
      | '\x7d' :: t => some (.table .inline [], t)
      | t =>
        (braceEntries (readValue depth) (t.length + 1) [] t).map fun (es, u) =>
          (.table .inline es, u)
    | _ => scalar s

/-- A header: whether it adds to an array, and the parts of its key. -/
def header (s : List Char) : Option (Ahead (Bool × List String)) :=
  match s with
  | '[' :: '[' :: r => do
    let (path, t) ← key r
    match t with
    | ']' :: ']' :: u => return ((true, path), u)
    | _ => none
  | '[' :: r => do
    let (path, t) ← key r
    match t with
    | ']' :: u => return ((false, path), u)
    | _ => none
  | _ => none

/-- The lines of a document, below the header with the given path. -/
def readLines : Nat → List String → Entries → List Char → Option Entries
  | 0, _, _, _ => none
  | fuel + 1, current, es, s =>
    match skipGap s with
    | [] => some es
    | t =>
      match lineEnd? t with
      | some r => readLines fuel current es r
      | none =>
        if t.head? = some '[' then do
          let ((isArray, path), r) ← header t
          let r ← lineEnd? r
          let es ← openTable isArray path es
          readLines fuel path es r
        else do
          let ((path, v), r) ← keyValue (readValue (maxDepth - 1)) t
          let r ← lineEnd? r
          let es ← within (addUnder path v) current es
          readLines fuel current es r

/-- The entries of a document, unless it is malformed; a byte order mark before it does not
count. -/
def read? (text : String) : Option Entries :=
  let s := match text.toList with
    | '\uFEFF' :: r => r
    | s => s
  readLines (s.length + 1) [] [] s

end Toml
end NotNullLint
