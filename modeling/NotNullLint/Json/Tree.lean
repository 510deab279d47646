import NotNullLint.Json.Reader

/-!
# Trees by shape

Reading a tree against a shape, and the tree of a value. The reader takes the members of an
object in the order they stand in; `Shape.toJson` writes a record as an object with its members in
order, leaving out those that are absent.
-/

namespace NotNullLint
namespace Json

/-- What a tree is called in messages; a number out of range is taken for an infinite one. -/
def kind : Json → Kind
  | .null => .null
  | .flag b => .flag b
  | .number n =>
    match n.value? with
    | some v => v.kind
    | none => .float "inf"
  | .text s => .text (Text.quoted s)
  | .array _ => .sequence
  | .object _ => .map

/-- A choice, as a name or as an object with the name and `null`. -/
def choice (names : List String) : Json → Except Mismatch (Fin names.length)
  | .text s => named s
  | .object [(name, v)] => do
    let i ← named name
    match v with
    | .null => return i
    | other => .error (.type other.kind "unit")
  | .object _ => .error (.value .map "map with a single key")
  | other => .error (.type other.kind "string or map")
where
  /-- A name of the choice. -/
  named (s : String) : Except Mismatch (Fin names.length) :=
    match Shape.indexOf? s names with
    | some i => .ok i
    | none => .error (.unknownName s names)

/-- A number without sign of 64 bits. -/
def count : Json → Except Mismatch UInt64
  | .number n =>
    match n.value? with
    | some (.natural k) => .ok k
    | some (.negative k) => .error (.value (Number.negative k).kind Shape.count.words)
    | _ => .error (.type (Json.number n).kind Shape.count.words)
  | other => .error (.type other.kind Shape.count.words)

mutual

/-- Reads a tree of a shape. -/
def readTree : (shape : Shape) → Json → Except Mismatch shape.Val
  | .text what, v =>
    match v with
    | .text s => .ok s
    | other => .error (.type other.kind what)
  | .flag, v =>
    match v with
    | .flag b => .ok b
    | other => .error (.type other.kind Shape.flag.words)
  | .count, v => count v
  | .maybe inner, v =>
    match v with
    | .null => .ok none
    | other => (readTree inner other).map some
  | .list inner, v =>
    match v with
    | .array items => items.mapM (readTree inner)
    | other => .error (.type other.kind (Shape.list inner).words)
  | .choice names, v => choice names v
  | .record name members, v =>
    match v with
    | .array items => treeValues (members.words name) members 0 items.length items
    | .object entries => do
      let found ← entries.foldlM (fun found e => treeMember members e.1 found e.2) members.none
      (members.close found).mapError .missing
    | other => .error (.type other.kind (Shape.record name members).words)
  | .table inner, v =>
    match v with
    | .object entries =>
      entries.foldlM (fun found e => (readTree inner e.2).map (putMember e.1 · found)) []
    | other => .error (.type other.kind (Shape.table inner).words)

/-- Takes up a member of an object. -/
def treeMember : (members : Members) → String → members.Found → Json →
    Except Mismatch members.Found
  | .nil, _, found, _ => .ok found
  | .cons name _ shape rest, key, (slot, more), v =>
    if key = name then
      match slot with
      | some _ => .error (.repeated name)
      | none => (readTree shape v).map fun w => (some w, more)
    else (treeMember rest key more v).map fun more => (slot, more)

/-- Reads the values of members in order; `total` is the number of items of the array. -/
def treeValues (expected : String) :
    (members : Members) → Nat → Nat → List Json → Except Mismatch members.Val
  | .nil, _, total, items =>
    if items.isEmpty then .ok () else .error (.length total "fewer elements in array")
  | .cons _ .required shape rest, done, total, items =>
    match items with
    | [] => .error (.length done expected)
    | v :: items => do
      let w ← readTree shape v
      let ws ← treeValues expected rest (done + 1) total items
      return (w, ws)
  | .cons _ .optional shape rest, done, total, items =>
    match items with
    | [] => (treeValues expected rest (done + 1) total []).map fun ws => (none, ws)
    | v :: items => do
      let w ← readTree shape v
      let ws ← treeValues expected rest (done + 1) total items
      return (some w, ws)

end

/-- The tree of a natural number. -/
def ofNat (n : Nat) : Json := .number ⟨false, n, [], none⟩

end Json

mutual

/-- The tree of a value of a shape. -/
def Shape.toJson : (shape : Shape) → shape.Val → Json
  | .text _, (s : String) => .text s
  | .flag, (b : Bool) => .flag b
  | .count, (n : UInt64) => .ofNat n.toNat
  | .maybe inner, v =>
    match (v : Option inner.Val) with
    | none => .null
    | some w => inner.toJson w
  | .list inner, (vs : List inner.Val) => .array (vs.map inner.toJson)
  | .choice names, (i : Fin names.length) => .text names[i]
  | .record _ members, vs => .object (members.toJson vs)
  | .table inner, (vs : List (String × inner.Val)) =>
    .object (vs.map fun e => (e.1, inner.toJson e.2))

/-- The members of an object. -/
def Members.toJson : (members : Members) → members.Val → List (String × Json)
  | .nil, _ => []
  | .cons name .required shape rest, (v, vs) => (name, shape.toJson v) :: rest.toJson vs
  | .cons name .optional shape rest, (v, vs) =>
    match (v : Option shape.Val) with
    | none => rest.toJson vs
    | some w => (name, shape.toJson w) :: rest.toJson vs

end

end NotNullLint
