/-!
# Shapes of documents

A shape says what a document, or a part of one, has to look like; `Shape.Val` is the type of
what is read from a document of that shape. The readers of the document formats are written
once for all shapes, and so are their laws.

A record member that may be left out is read as an `Option`: what an absent member means is
decided where the value is used, not where it is read.
-/

namespace NotNullLint

/-- Whether a member of a record has to be there. -/
inductive Presence where
  | required
  | optional
  deriving DecidableEq, Repr

mutual

/-- What a part of a document has to look like. -/
inductive Shape where
  /-- A text; `what` names it in messages. -/
  | text (what : String)
  | flag
  /-- A number without sign that fits a 64-bit word. -/
  | count
  /-- The inner shape or nothing. -/
  | maybe (inner : Shape)
  | list (inner : Shape)
  /-- One of several names. -/
  | choice (names : List String)
  /-- Members known by name, also written as the list of their values in order. -/
  | record (name : String) (members : Members)
  /-- Members with names of any kind. -/
  | table (inner : Shape)

/-- The members of a record in order. -/
inductive Members where
  | nil
  | cons (name : String) (presence : Presence) (shape : Shape) (rest : Members)

end

/-- What is read for a member of a given presence. -/
abbrev Presence.Slot (presence : Presence) (α : Type) : Type :=
  match presence with
  | .required => α
  | .optional => Option α

mutual

/-- What is read from a document of a shape. -/
def Shape.Val : Shape → Type
  | .text _ => String
  | .flag => Bool
  | .count => UInt64
  | .maybe inner => Option inner.Val
  | .list inner => List inner.Val
  | .choice names => Fin names.length
  | .record _ members => members.Val
  | .table inner => List (String × inner.Val)

/-- What is read from the members of a record. -/
def Members.Val : Members → Type
  | .nil => Unit
  | .cons _ presence shape rest => presence.Slot shape.Val × rest.Val

/-- What has been read so far of the members of a record. -/
def Members.Found : Members → Type
  | .nil => Unit
  | .cons _ _ shape rest => Option shape.Val × rest.Found

end

namespace Members

/-- Nothing read yet. -/
def none : (members : Members) → members.Found
  | .nil => ()
  | .cons _ _ _ rest => (.none, rest.none)

/-- The number of members. -/
def size : Members → Nat
  | .nil => 0
  | .cons _ _ _ rest => rest.size + 1

/-- The members that were read, or the name of the first required one that was not. -/
def close : (members : Members) → members.Found → Except String members.Val
  | .nil, _ => .ok ()
  | .cons name .required _ rest, (found, more) =>
    match found with
    | .none => .error name
    | some v => (rest.close more).map fun vs => (v, vs)
  | .cons _ .optional _ rest, (found, more) => (rest.close more).map fun vs => (found, vs)

/-- A member of that name is among the members. -/
def has (key : String) : Members → Bool
  | .nil => false
  | .cons name _ _ rest => key == name || rest.has key

end Members

/-- The place of a name in a choice. -/
def Shape.indexOf? (key : String) : (names : List String) → Option (Fin names.length)
  | [] => none
  | name :: rest => if key = name then some 0 else (indexOf? key rest).map Fin.succ

end NotNullLint
