import NotNullLint.Decimal.Layout
import NotNullLint.Shape.Mismatch
import NotNullLint.Text.Quoted
import NotNullLint.Toml.Basic

/-!
# TOML trees by shape

Reading a tree against a shape. Tables are visited in the order of their entries, so of several
mismatches the first in that order is reported.
-/

namespace NotNullLint
namespace Toml

/-! ### Moments -/

/-- Digits filled up with zeros on the left. -/
def zeroFilled (width n : Nat) : String :=
  let ds := Nat.toDigits 10 n
  String.ofList (List.replicate (width - ds.length) '0' ++ ds)

/-- The text of a day. -/
def dateText : Nat × Nat × Nat → String
  | (y, m, d) => zeroFilled 4 y ++ "-" ++ zeroFilled 2 m ++ "-" ++ zeroFilled 2 d

/-- The text of a time of day, with as few places after the second as possible. -/
def timeText : Nat × Nat × Nat × Nat → String
  | (h, m, s, ns) =>
    let whole := zeroFilled 2 h ++ ":" ++ zeroFilled 2 m ++ ":" ++ zeroFilled 2 s
    if ns = 0 then whole
    else
      whole ++ "." ++ String.ofList (Text.dropEndWhile (· == '0') (zeroFilled 9 ns).toList)

/-- The text of an offset from universal time. -/
def offsetText : Option Int → String
  | none => "Z"
  | some n =>
    (if n < 0 then "-" else "+") ++ zeroFilled 2 (n.natAbs / 60) ++ ":"
      ++ zeroFilled 2 (n.natAbs % 60)

/-- The text of a moment in normal form. -/
def Moment.toText (m : Moment) : String :=
  (m.date.elim "" dateText) ++ (if m.date.isSome && m.time.isSome then "T" else "")
    ++ (m.time.elim "" timeText) ++ (m.offset.elim "" offsetText)

/-- A moment counts as a table whose only entry is its text, under this key. -/
def momentKey : String := "datetime"

/-! ### Reading -/

/-- Fractions in messages are positional throughout. -/
def floatLayout : Decimal.Layout := ⟨none, none, "NaN", "inf"⟩

/-- What a tree is called in messages. -/
def kind : Toml → Kind
  | text s => .text (Text.quoted s)
  | integer n => .integer n
  | float x => .float (floatLayout.render x)
  | flag b => .flag b
  | moment _ => .map
  | array _ => .sequence
  | table _ _ => .map
  | tables _ => .sequence

/-- The entries of a table, a moment being one of one entry. -/
def entries? : Toml → Option Entries
  | table _ es => some es
  | moment m => some [(momentKey, .text m.toText)]
  | _ => none

/-- The items of an array. -/
def items? : Toml → Option (List Toml)
  | array vs => some vs
  | tables ts => some (ts.map (table .header))
  | _ => none

/-- A name of a choice. -/
def named (names : List String) (s : String) : Except Mismatch (Fin names.length) :=
  match Shape.indexOf? s names with
  | some i => .ok i
  | none => .error (.unknownName s names)

/-- What may stand beside the name of a choice: a table or an array without anything in it. -/
def checkNothing : Toml → Except Mismatch Unit
  | array [] => .ok ()
  | tables [] => .ok ()
  | table _ [] => .ok ()
  | array _ => .error (.other "expected empty table")
  | table _ _ => .error (.other "expected empty table")
  | tables _ => .error (.other "expected empty array")
  | text _ => .error (.other "expected table, found string")
  | integer _ => .error (.other "expected table, found integer")
  | float _ => .error (.other "expected table, found float")
  | flag _ => .error (.other "expected table, found boolean")
  | moment _ => .error (.other "expected table, found datetime")

/-- A choice, as a name or as a table with the name as its only key. -/
def choice (names : List String) : Toml → Except Mismatch (Fin names.length)
  | text s => named names s
  | table _ [] => .error (.other "wanted exactly 1 element, found 0 elements")
  | table _ [(name, v)] => do
    let i ← named names name
    checkNothing v
    return i
  | table _ _ => .error (.other "wanted exactly 1 element, more than 1 element")
  | _ => .error (.other "wanted string or table")

/-- A number without sign of 64 bits. -/
def count : Toml → Except Mismatch UInt64
  | integer n =>
    if 0 ≤ n then .ok n.toNat.toUInt64
    else .error (.value (.integer n) Shape.count.words)
  | v => .error (.type v.kind Shape.count.words)

mutual

/-- Reads a tree of a shape. -/
def readTree : (shape : Shape) → Toml → Except Mismatch shape.Val
  | .text what, v =>
    match v with
    | .text s => .ok s
    | other => .error (.type other.kind what)
  | .flag, v =>
    match v with
    | .flag b => .ok b
    | other => .error (.type other.kind Shape.flag.words)
  | .count, v => count v
  | .maybe inner, v => (readTree inner v).map some
  | .list inner, v =>
    match v.items? with
    | some vs => vs.mapM (readTree inner)
    | none => .error (.type v.kind (Shape.list inner).words)
  | .choice names, v => choice names v
  | .record name members, v =>
    match v.items? with
    | some vs => readValues (members.words name) members 0 vs
    | none =>
      match v.entries? with
      | some es => do
        let found ← es.foldlM (fun found e => readMember members e.1 found e.2) members.none
        (members.close found).mapError .missing
      | none => .error (.type v.kind (Shape.record name members).words)
  | .table inner, v =>
    match v.entries? with
    | some es => es.mapM fun e => (readTree inner e.2).map fun w => (e.1, w)
    | none => .error (.type v.kind (Shape.table inner).words)

/-- Takes up a member of a table. -/
def readMember : (members : Members) → String → members.Found → Toml →
    Except Mismatch members.Found
  | .nil, _, found, _ => .ok found
  | .cons name _ shape rest, key, (slot, more), v =>
    if key = name then
      match slot with
      | some _ => .error (.repeated name)
      | none => (readTree shape v).map fun w => (some w, more)
    else (readMember rest key more v).map fun more => (slot, more)

/-- Reads the values of members in order; further items do not count. -/
def readValues (expected : String) :
    (members : Members) → Nat → List Toml → Except Mismatch members.Val
  | .nil, _, _ => .ok ()
  | .cons _ .required shape rest, done, items =>
    match items with
    | [] => .error (.length done expected)
    | v :: items => do
      let w ← readTree shape v
      let ws ← readValues expected rest (done + 1) items
      return (w, ws)
  | .cons _ .optional shape rest, done, items =>
    match items with
    | [] => (readValues expected rest (done + 1) []).map fun ws => (none, ws)
    | v :: items => do
      let w ← readTree shape v
      let ws ← readValues expected rest (done + 1) items
      return (some w, ws)

end

end Toml
end NotNullLint
