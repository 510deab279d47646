/-!
# JSON trees

A number keeps its decimal form. Objects keep the order of their members and may repeat a name;
`Json.normalize` gives the tree in which every object is sorted and of repeated names the last
one counts.
-/

namespace NotNullLint

/-- A decimal number: an integer part, the digits after the point, and an exponent. -/
structure Numeral where
  negative : Bool
  whole : Nat
  fraction : List (Fin 10)
  exponent : Option Int
  deriving DecidableEq, Repr, Inhabited

/-- A JSON tree. -/
inductive Json where
  | null
  | flag (b : Bool)
  | number (n : Numeral)
  | text (s : String)
  | array (items : List Json)
  | object (members : List (String × Json))
  deriving Repr, Inhabited

namespace Json

/-- Puts a member among members sorted by name; a member of that name is replaced. -/
def insertMember (name : String) (v : Json) : List (String × Json) → List (String × Json)
  | [] => [(name, v)]
  | (n, w) :: rest =>
    match compare name n with
    | .lt => (name, v) :: (n, w) :: rest
    | .eq => (name, v) :: rest
    | .gt => (n, w) :: insertMember name v rest

mutual

/-- Sorts the members of every object by name; of repeated names the last one stays. -/
def normalize : Json → Json
  | .array items => .array (normalizeItems items)
  | .object members => .object (normalizeMembers [] members)
  | other => other

/-- `normalize` on the items of an array. -/
def normalizeItems : List Json → List Json
  | [] => []
  | v :: rest => v.normalize :: normalizeItems rest

/-- `normalize` on members, added one by one to those already in order. -/
def normalizeMembers (done : List (String × Json)) : List (String × Json) → List (String × Json)
  | [] => done
  | (n, v) :: rest => normalizeMembers (insertMember n v.normalize done) rest

end

/-- The first member of that name. -/
def member? (name : String) : Json → Option Json
  | .object members => members.lookup name
  | _ => none

end Json
end NotNullLint
