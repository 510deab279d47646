import NotNullLint.Text.Basic

/-!
# TOML trees

Tables keep the order in which their keys were first written. Each table remembers how it came
about, since that decides whether later lines may still add to it: a table with a header of its
own or in braces is closed to dotted keys, a table that was only named on the way to another one
may still get a header.
-/

namespace NotNullLint
namespace Toml

/-- A day, a time of day, or both, with an offset from universal time in minutes; the offset `Z`
is kept apart. -/
structure Moment where
  date : Option (Nat × Nat × Nat) := none
  /-- Hour, minute, second and nanosecond. -/
  time : Option (Nat × Nat × Nat × Nat) := none
  offset : Option (Option Int) := none
  deriving DecidableEq, Repr, Inhabited

/-- How a table came about. -/
inductive Origin where
  /-- Written in braces. -/
  | inline
  /-- It has a header. -/
  | header
  /-- It lies on the way to a table with a header. -/
  | implied
  /-- It lies on the way of a dotted key. -/
  | dotted
  deriving DecidableEq, Repr, Inhabited

end Toml

/-- A TOML tree. -/
inductive Toml where
  | text (s : String)
  | integer (n : Int)
  | float (x : Float)
  | flag (b : Bool)
  | moment (m : Toml.Moment)
  | array (items : List Toml)
  | table (origin : Toml.Origin) (entries : List (String × Toml))
  /-- The tables of an array with headers, each by its entries. -/
  | tables (items : List (List (String × Toml)))
  deriving Inhabited

namespace Toml

/-- The entries of a table. -/
abbrev Entries := List (String × Toml)

/-- Puts a value where a key stands. -/
def Entries.set (key : String) (v : Toml) : Entries → Entries
  | [] => []
  | (k, w) :: rest => if k = key then (k, v) :: rest else (k, w) :: Entries.set key v rest

/-- Takes a key out. -/
def Entries.drop (key : String) (es : Entries) : Entries := es.filter fun e => e.1 != key

/-- Applies an operation to the entries of an open table, or of the last table of an array. -/
def inTable (f : Entries → Option Entries) : Toml → Option Toml
  | table origin es => (f es).map (table origin)
  | tables items =>
    match items.getLast? with
    | none => none
    | some es => (f es).map fun es => tables (items.dropLast ++ [es])
  | _ => none

/-- A dotted key may pass through this tree. -/
def passesDotted : Toml → Bool
  | table .implied _ => true
  | table .dotted _ => true
  | tables _ => true
  | _ => false

/-- A header may pass through this tree. -/
def passesHeader : Toml → Bool
  | table .inline _ => false
  | table _ _ => true
  | tables _ => true
  | _ => false

/-- A dotted key may end in this tree. -/
def takesDotted : Toml → Bool
  | table .dotted _ => true
  | _ => false

/-- Adds a value under a dotted key, which must not be taken. The flag says that the table reached
so far may take it. -/
def put (free : Bool) (key : String) (v : Toml) : List String → Entries → Option Entries
  | [], es => if free && (es.lookup key).isNone then some (es ++ [(key, v)]) else none
  | p :: ps, es =>
    match es.lookup p with
    | none => (put true key v ps []).map fun sub => es ++ [(p, table .dotted sub)]
    | some t =>
      if t.passesDotted then
        (inTable (put t.takesDotted key v ps) t).map fun t => es.set p t
      else none

/-- Opens the table of a header, or one more table of an array. An implied table keeps its entries
and moves to the end. -/
def openTable (isArray : Bool) : List String → Entries → Option Entries
  | [], _ => none
  | [key], es =>
    match es.lookup key, isArray with
    | none, false => some (es ++ [(key, table .header [])])
    | none, true => some (es ++ [(key, tables [[]])])
    | some (table .implied sub), false => some (es.drop key ++ [(key, table .header sub)])
    | some (tables items), true => some (es.set key (tables (items ++ [[]])))
    | _, _ => none
  | p :: ps, es =>
    match es.lookup p with
    | none => (openTable isArray ps []).map fun sub => es ++ [(p, table .implied sub)]
    | some t =>
      if t.passesHeader then (inTable (openTable isArray ps) t).map fun t => es.set p t else none

/-- Applies an operation to the table with a header. -/
def within (f : Entries → Option Entries) : List String → Entries → Option Entries
  | [], es => f es
  | p :: ps, es =>
    match es.lookup p with
    | none => none
    | some t => (inTable (within f ps) t).map fun t => es.set p t

end Toml
end NotNullLint
