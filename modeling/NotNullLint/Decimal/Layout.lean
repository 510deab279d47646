import NotNullLint.Decimal.Shortest

/-!
# Layout of decimal numbers

How the digits of a number are written: positionally or with an exponent, as a record of
decisions that the formats of this library fill in.
-/

namespace NotNullLint
namespace Decimal

/-- The decisions of a number format. -/
structure Layout where
  /-- Positional writing is used from this `point` on … -/
  least : Option Int
  /-- … and up to this one; no bound where none is given. -/
  greatest : Option Int
  nan : String
  infinity : String

/-- Digits with a point, zeros filled in, and at least one place after the point. -/
def positional (d : Digits) : List Char :=
  if d.point ≤ 0 then '0' :: '.' :: (List.replicate (-d.point).toNat '0' ++ d.digits)
  else
    let n := d.point.toNat
    if d.digits.length ≤ n then
      d.digits ++ List.replicate (n - d.digits.length) '0' ++ ['.', '0']
    else d.digits.take n ++ '.' :: d.digits.drop n

/-- Digits with an exponent that always shows its sign. -/
def scientific (d : Digits) : List Char :=
  let e := d.point - 1
  let mantissa := match d.digits with
    | [c] => [c]
    | c :: r => c :: '.' :: r
    | [] => ['0']
  mantissa ++ 'e' :: (if e < 0 then '-' else '+') :: Nat.toDigits 10 e.natAbs

/-- The digits lie in the positional range. -/
def Layout.isPositional (f : Layout) (d : Digits) : Bool :=
  f.least.all (· ≤ d.point) && f.greatest.all (d.point ≤ ·)

/-- The text of a number. -/
def Layout.render (f : Layout) (x : Float) : String :=
  if x.isNaN then f.nan
  else
    let sign := if x.toBits.toNat / Nat.pow 2 63 = 1 then "-" else ""
    if x.isInf then sign ++ f.infinity
    else if x == 0 then sign ++ "0.0"
    else
      let d := shortest (if x < 0 then -x else x)
      sign ++ String.ofList (if f.isPositional d then positional d else scientific d)

end Decimal
end NotNullLint
