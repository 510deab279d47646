import NotNullLint.Json.Number
import NotNullLint.Json.Skip
import NotNullLint.Shape.Basic
import NotNullLint.Text.Quoted

/-!
# Reading JSON text by shape

A text is read from left to right against a shape, without a tree in between, so of several
faults the first in the text is reported. Members may come in any order; those that a record does
not know are skipped, those that it knows may not be repeated. A record may also be written as the
array of its values, and a choice as an object with the name and `null`.
-/

namespace NotNullLint

/-- How a number shows in a message. -/
def Number.kind : Number → Kind
  | .natural n => .integer n.toNat
  | .negative n => .integer (-(n : Int))
  | .float x => .float (Json.floatLayout.render x)

namespace Json

/-! ### Single values -/

/-- A number with its value. -/
def readNumber (s : List Char) : Except Fault (Ahead Number) :=
  match scanNumber true s with
  | .error f => .error f
  | .ok scanned =>
    match scanned.numeral.value? with
    | some n => .ok (n, scanned.rest)
    | none => .error (.before .tooLarge scanned.limit)

/-- A value of another kind than the expected one. Its own faults come first; an array or an
object is not looked into. -/
def wrongKind (expected : String) (s : List Char) : Fault :=
  let mismatch (found : Kind) (rest : List Char) : Fault :=
    .before (.shape (.type found expected)) rest
  let after (found : Kind) (r : Except Fault (List Char)) : Fault :=
    match r with
    | .error f => f
    | .ok rest => mismatch found rest
  match s with
  | [] => .before .endInValue []
  | 'n' :: r => after .null (literal ['u', 'l', 'l'] r)
  | 't' :: r => after (.flag true) (literal ['r', 'u', 'e'] r)
  | 'f' :: r => after (.flag false) (literal ['a', 'l', 's', 'e'] r)
  | '"' :: r =>
    match readText r with
    | .error f => f
    | .ok (t, rest) => mismatch (.text (Text.quoted t)) rest
  | '[' :: _ => mismatch .sequence s
  | '\x7b' :: _ => mismatch .map s
  | c :: _ =>
    if c = '-' ∨ c.isDigit then
      match readNumber s with
      | .error f => f
      | .ok (n, rest) => mismatch n.kind rest
    else .near .noValue s

/-- A text where one is expected. -/
def readString (expected : String) (s : List Char) : Except Fault (Ahead String) :=
  match skipSpace s with
  | '"' :: r => readText r
  | t => .error (wrongKind expected t)

/-- A truth value. -/
def readFlag (s : List Char) : Except Fault (Ahead Bool) :=
  match skipSpace s with
  | 't' :: r => (literal ['r', 'u', 'e'] r).map fun t => (true, t)
  | 'f' :: r => (literal ['a', 'l', 's', 'e'] r).map fun t => (false, t)
  | t => .error (wrongKind Shape.flag.words t)

/-- A number without sign of 64 bits. -/
def readCount (s : List Char) : Except Fault (Ahead UInt64) :=
  let t := skipSpace s
  match t with
  | c :: _ =>
    if c = '-' ∨ c.isDigit then
      match readNumber t with
      | .error f => .error f
      | .ok (.natural n, rest) => .ok (n, rest)
      | .ok (.negative n, rest) =>
        .error (.before (.shape (.value (Number.negative n).kind Shape.count.words)) rest)
      | .ok (.float x, rest) =>
        .error (.before (.shape (.type (Number.float x).kind Shape.count.words)) rest)
    else .error (wrongKind Shape.count.words t)
  | [] => .error (wrongKind Shape.count.words [])

/-- The name of a choice. -/
def readName (names : List String) (s : List Char) :
    Except Fault (Ahead (Fin names.length)) :=
  match readString "variant identifier" s with
  | .error f => .error f
  | .ok (name, rest) =>
    match Shape.indexOf? name names with
    | some i => .ok (i, rest)
    | none => .error (.before (.shape (.unknownName name names)) rest)

/-- The colon after a name. -/
def readColon (s : List Char) : Except Fault (List Char) :=
  match skipSpace s with
  | ':' :: r => .ok r
  | [] => .error (.before .endInObject [])
  | t => .error (.near .noColon t)

/-- The name of a choice in an object, whose opening brace has been read. -/
def readNameMember (names : List String) (s : List Char) :
    Except Fault (Ahead (Fin names.length)) :=
  match skipSpace s with
  | '"' :: r => readName names ('"' :: r)
  | '\x7d' :: r => .error (.near .noValue ('\x7d' :: r))
  | [] => .error (.before .endInObject [])
  | t => .error (.near .nameNotText t)

/-- A choice, as a name or as an object with the name and `null`. -/
def readChoice (names : List String) (s : List Char) :
    Except Fault (Ahead (Fin names.length)) :=
  match skipSpace s with
  | [] => .error (.before .endInValue [])
  | '"' :: r => readName names ('"' :: r)
  | '\x7b' :: r => do
    let (i, t) ← readNameMember names r
    let u ← readColon t
    let v ← match skipSpace u with
      | 'n' :: w => literal ['u', 'l', 'l'] w
      | w => .error (wrongKind "unit" w)
    match skipSpace v with
    | '\x7d' :: w => .ok (i, w)
    | [] => .error (.before .endInObject [])
    | w => .error (.before .noValue w)
  | t => .error (.near .noValue t)

/-! ### Arrays and objects -/

/-- What the end of an array leaves to be read, if it is reached. -/
def closeArray (s : List Char) : List Char :=
  match skipSpace s with
  | ']' :: r => r
  | ',' :: r => skipSpace r
  | t => t

/-- What the end of an object leaves to be read, if it is reached. -/
def closeObject (s : List Char) : List Char :=
  match skipSpace s with
  | '\x7d' :: r => r
  | t => t

/-- Whether another item follows; what remains starts with it, or with the end of the array. -/
def nextItem (first : Bool) (s : List Char) : Except Fault (Ahead Bool) :=
  match skipSpace s with
  | [] => .error (.before .endInArray [])
  | ']' :: r => .ok (false, ']' :: r)
  | t =>
    if first then .ok (true, t)
    else
      match t with
      | ',' :: r =>
        match skipSpace r with
        | [] => .error (.before .endInValue [])
        | ']' :: u => .error (.near .trailingComma (']' :: u))
        | u => .ok (true, u)
      | _ => .error (.near .noItemSeparator t)

/-- Whether another member follows; what remains starts with the quote of its name, or with the
end of the object. -/
def nextMember (first : Bool) (s : List Char) : Except Fault (Ahead Bool) :=
  match skipSpace s with
  | [] => .error (.before .endInObject [])
  | '\x7d' :: r => .ok (false, '\x7d' :: r)
  | t =>
    if first then
      match t with
      | '"' :: _ => .ok (true, t)
      | _ => .error (.near .nameNotText t)
    else
      match t with
      | ',' :: r =>
        match skipSpace r with
        | [] => .error (.before .endInValue [])
        | '"' :: u => .ok (true, '"' :: u)
        | '\x7d' :: u => .error (.near .trailingComma ('\x7d' :: u))
        | u => .error (.near .nameNotText u)
      | _ => .error (.near .noMemberSeparator t)

/-- The end of an array. -/
def endArray (s : List Char) : Except Fault (List Char) :=
  match skipSpace s with
  | ']' :: r => .ok r
  | ',' :: r =>
    match skipSpace r with
    | ']' :: t => .error (.near .trailingComma (']' :: t))
    | t => .error (.near .trailingText t)
  | [] => .error (.before .endInArray [])
  | t => .error (.near .trailingText t)

/-- The items of an array up to its end, which remains to be read. -/
def readItems {α : Type} (item : List Char → Except Fault (Ahead α)) :
    Nat → Bool → List Char → Except Fault (Ahead (List α))
  | 0, _, _ => .error (.before .endInArray [])
  | fuel + 1, first, s => do
    match ← nextItem first s with
    | (false, t) => return ([], t)
    | (true, t) =>
      let (v, u) ← item t
      let (vs, w) ← readItems item fuel false u
      return (v :: vs, w)

/-- Members up to the end of the object, which remains to be read; `member` reads what follows a
name. -/
def readMembers {σ : Type} (member : String → σ → List Char → Except Fault (Ahead σ)) :
    Nat → Bool → σ → List Char → Except Fault (Ahead σ)
  | 0, _, _, _ => .error (.before .endInObject [])
  | fuel + 1, first, found, s => do
    match ← nextMember first s with
    | (false, t) => return (found, t)
    | (true, t) =>
      let (name, u) ← readText t.tail
      let (found, v) ← member name found u
      readMembers member fuel false found v

/-- The value of a member that is not known. -/
def skipMember {σ : Type} (found : σ) (s : List Char) : Except Fault (Ahead σ) := do
  let t ← readColon s
  let u ← skip t
  return (found, u)

/-- Adds a member to a table; one of that name is replaced where it stands. -/
def putMember {α : Type} (name : String) (v : α) : List (String × α) → List (String × α)
  | [] => [(name, v)]
  | (n, w) :: rest => if n = name then (name, v) :: rest else (n, w) :: putMember name v rest

/-- The body of an array read by `body`, between its brackets; `s` follows the opening one. -/
def inArray {α : Type} (body : List Char → Except Fault (Ahead α)) (s : List Char) :
    Except Fault (Ahead α) :=
  match body s with
  | .error f => .error (f.settle closeArray)
  | .ok (v, t) => (endArray t).map fun u => (v, u)

/-- The body of an object read by `body`, between its braces; `s` follows the opening one. -/
def inObject {α : Type} (body : List Char → Except Fault (Ahead α)) (s : List Char) :
    Except Fault (Ahead α) :=
  match body s with
  | .error f => .error (f.settle closeObject)
  | .ok (v, t) => .ok (v, closeObject t)

mutual

/-- Reads a value of a shape. -/
def readShape : (shape : Shape) → List Char → Except Fault (Ahead shape.Val)
  | .text what, s => readString what s
  | .flag, s => readFlag s
  | .count, s => readCount s
  | .maybe inner, s =>
    match skipSpace s with
    | 'n' :: r => (literal ['u', 'l', 'l'] r).map fun t => (none, t)
    | t => (readShape inner t).map fun (v, u) => (some v, u)
  | .list inner, s =>
    match skipSpace s with
    | '[' :: r => inArray (readItems (readShape inner) (r.length + 1) true) r
    | t => .error (wrongKind (Shape.list inner).words t)
  | .choice names, s => readChoice names s
  | .record name members, s =>
    match skipSpace s with
    | '[' :: r => inArray (readValues (members.words name) members 0 true) r
    | '\x7b' :: r =>
      inObject (fun t => do
        let (found, u) ← readMembers (readMember members) (r.length + 1) true members.none t
        match members.close found with
        | .ok v => return (v, u)
        | .error m => .error (.floating (.missing m) u)) r
    | t => .error (wrongKind (Shape.record name members).words t)
  | .table inner, s =>
    match skipSpace s with
    | '\x7b' :: r =>
      inObject (readMembers (fun name found t => do
        let u ← readColon t
        let (v, w) ← readShape inner u
        return (putMember name v found, w)) (r.length + 1) true []) r
    | t => .error (wrongKind (Shape.table inner).words t)

/-- Reads what follows the name of a member of a record. -/
def readMember : (members : Members) → String → members.Found → List Char →
    Except Fault (Ahead members.Found)
  | .nil, _, found, s => skipMember found s
  | .cons name _ shape rest, key, (slot, more), s =>
    if key = name then
      match slot with
      | some _ => .error (.floating (.repeated name) s)
      | none => do
        let t ← readColon s
        let (v, u) ← readShape shape t
        return ((some v, more), u)
    else (readMember rest key more s).map fun (more, u) => ((slot, more), u)

/-- Reads the values of members in order; `expected` tells of the whole record, of which `done`
values have been read. -/
def readValues (expected : String) :
    (members : Members) → Nat → Bool → List Char → Except Fault (Ahead members.Val)
  | .nil, _, _, s => .ok ((), s)
  | .cons _ .required shape rest, done, first, s => do
    match ← nextItem first s with
    | (false, t) => .error (.floating (.length done expected) t)
    | (true, t) =>
      let (v, u) ← readShape shape t
      let (vs, w) ← readValues expected rest (done + 1) false u
      return ((v, vs), w)
  | .cons _ .optional shape rest, done, first, s => do
    match ← nextItem first s with
    | (false, t) =>
      let (vs, w) ← readValues expected rest (done + 1) first t
      return ((none, vs), w)
    | (true, t) =>
      let (v, u) ← readShape shape t
      let (vs, w) ← readValues expected rest (done + 1) false u
      return ((some v, vs), w)

end

/-- Reads a whole text of a shape. -/
def readAll (shape : Shape) (s : List Char) : Except Fault shape.Val := do
  let (v, t) ← readShape shape s
  match skipSpace t with
  | [] => return v
  | u => .error (.near .trailingText u)

/-- Reads a text of a shape, a fault being told by its message. -/
def read (shape : Shape) (text : String) : Except String shape.Val :=
  (readAll shape text.toList).mapError (·.message text.toList)

end Json
end NotNullLint
