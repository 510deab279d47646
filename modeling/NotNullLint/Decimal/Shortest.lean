/-!
# The fewest digits that read back

A binary64 number stands for the interval of reals that round to it. Its decimal form is taken
from the coarsest grid of powers of ten that has a point in this interval, and of two such
points the nearer is chosen. All arithmetic is exact.
-/

namespace NotNullLint
namespace Decimal

/-- A positive number `digits × 10 ^ (point - number of digits)`, that is
`0.d₁d₂… × 10 ^ point`, without zeros at the end. -/
structure Digits where
  digits : List Char
  point : Int
  deriving Repr, Inhabited

/-- A positive binary64 number as four times `quarter / unit`, with the distances, in the same
quarters, to the middle of the gap below and above. -/
structure Span where
  value : Nat
  below : Nat
  above : Nat
  unit : Nat
  /-- The ends of the interval round to the number. -/
  closed : Bool
  deriving Repr

/-- The interval of a number given by its mantissa and exponent fields. -/
def Span.ofFields (field mantissa : Nat) : Span :=
  let m := if field = 0 then mantissa else mantissa + Nat.pow 2 52
  let e : Int := (if field = 0 then 1 else (field : Int)) - 1077
  let up := Nat.pow 2 e.toNat
  let narrow := mantissa = 0 ∧ 1 < field
  { value := 4 * m * up
    below := (if narrow then 1 else 2) * up
    above := 2 * up
    unit := Nat.pow 2 (-e).toNat
    closed := m % 2 == 0 }

/-- The decimal `c × 10 ^ k` lies in the interval. -/
def Span.holds (s : Span) (c : Nat) (k : Int) : Bool :=
  let x := c * Nat.pow 10 k.toNat * s.unit
  let scale := Nat.pow 10 (-k).toNat
  let low := (s.value - s.below) * scale
  let high := (s.value + s.above) * scale
  if s.closed then low ≤ x && x ≤ high else low < x && x < high

/-- The number of places a positive ratio below one falls short of one tenth. -/
def leadingZeros (num den : Nat) : Nat → Nat
  | 0 => 0
  | fuel + 1 => if den ≤ num * 10 then 0 else leadingZeros (num * 10) den fuel + 1

/-- The `point` of a positive ratio: the least `k` with `num / den < 10 ^ k`. -/
def magnitude (num den : Nat) : Int :=
  if den ≤ num then ((Nat.toDigits 10 (num / den)).length : Int)
  else -(leadingZeros num den 400 : Int)

/-- The digits of `c`, a multiple of `10 ^ k`, without zeros at the end. -/
def Digits.ofGrid (c : Nat) (k : Int) : Digits :=
  let ds := Nat.toDigits 10 c
  { digits := (ds.reverse.dropWhile (· == '0')).reverse
    point := k + ds.length }

/-- The search over grids of `n`, `n + 1`, … digits. -/
def Span.search (s : Span) (point : Int) : Nat → Nat → Digits
  | n, 0 => .ofGrid (s.value * Nat.pow 10 n / s.unit) (-(n : Int))
  | n, fuel + 1 =>
    let k := point - n
    let num := s.value * Nat.pow 10 (-k).toNat
    let den := s.unit * Nat.pow 10 k.toNat
    let c := num / den
    match s.holds c k, s.holds (c + 1) k with
    | true, true => if 2 * num ≤ (2 * c + 1) * den then .ofGrid c k else .ofGrid (c + 1) k
    | true, false => .ofGrid c k
    | false, true => .ofGrid (c + 1) k
    | false, false => s.search point (n + 1) fuel

/-- The shortest digits of a positive finite number. -/
def shortest (x : Float) : Digits :=
  let bits := x.toBits.toNat
  let s := Span.ofFields (bits / Nat.pow 2 52 % 2048) (bits % Nat.pow 2 52)
  s.search (magnitude s.value s.unit) 1 17

end Decimal
end NotNullLint
