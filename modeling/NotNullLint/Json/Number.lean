import NotNullLint.Json.Basic
import NotNullLint.Decimal.Layout

/-!
# The values of JSON numbers

Integers keep their value as far as 64-bit words reach, all other numbers become binary64.
A significand of at most 64 bits is scaled by powers of ten one step at a time, so the result
need not be the nearest one.
-/

namespace NotNullLint

/-- The value of a number in a document. -/
inductive Number where
  | natural (n : UInt64)
  /-- The negative of a number up to `2 ^ 63`. -/
  | negative (n : Nat)
  | float (x : Float)

namespace Numeral

/-- Appends digits to a significand as long as it fits a 64-bit word; returns how many fitted. -/
def accumulate (significand used : Nat) : List Nat → Nat × Nat
  | [] => (significand, used)
  | d :: ds =>
    let next := 10 * significand + d
    if next < Nat.pow 2 64 then accumulate next (used + 1) ds else (significand, used)

/-- A power of ten up to `10 ^ 308`. -/
def powerOfTen (k : Nat) : Float := Float.ofScientific 1 false k

/-- `x · 10 ^ e`, or nothing where that exceeds the greatest number; `fuel` bounds the steps of
308 places. -/
def scale (x : Float) (e : Int) : Nat → Option Float
  | 0 => some x
  | fuel + 1 =>
    if e.natAbs ≤ 308 then
      if 0 ≤ e then
        let y := x * powerOfTen e.natAbs
        if y.isInf then none else some y
      else some (x / powerOfTen e.natAbs)
    else if x == 0 then some x
    else if 0 ≤ e then none
    else scale (x / powerOfTen 308) (e + 308) fuel

/-- The magnitude of a number with a point, an exponent or too many digits. -/
def magnitude? (n : Numeral) : Option Float :=
  let ds := (Nat.toDigits 10 n.whole).map fun c => c.toNat - '0'.toNat
  let (s, used) := accumulate 0 0 ds
  let (s', used') := accumulate s 0 (n.fraction.map (·.val))
  let e := ((ds.length : Int) - used) - used'
  match n.exponent with
  | none => scale s'.toUInt64.toFloat e 8
  | some k =>
    if 2147483647 < k.natAbs then
      if s' ≠ 0 ∧ 0 < k then none else some 0
    else scale s'.toUInt64.toFloat (e + k) 8

/-- The value of a number; none if it is too large. -/
def value? (n : Numeral) : Option Number :=
  let integer := n.fraction = [] ∧ n.exponent = none
  if integer ∧ n.negative = false ∧ n.whole < Nat.pow 2 64 then some (.natural n.whole.toUInt64)
  else if integer ∧ n.negative = true ∧ 0 < n.whole ∧ n.whole ≤ Nat.pow 2 63 then
    some (.negative n.whole)
  else n.magnitude?.map fun x => .float (if n.negative then -x else x)

end Numeral

/-- Fractions in messages are positional from `10 ^ -5` to below `10 ^ 16`. -/
def Json.floatLayout : Decimal.Layout := ⟨some (-4), some 16, "null", "null"⟩

end NotNullLint
