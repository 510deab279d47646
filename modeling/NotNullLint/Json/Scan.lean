import NotNullLint.Json.Basic
import NotNullLint.Json.Fault

/-!
# The small parts of JSON text

Blanks, literals, numbers and quoted texts at the start of what remains to be read. Numbers and
texts are scanned in two ways: strictly where the value is wanted, laxly where it is skipped.
-/

namespace NotNullLint
namespace Json

/-- A blank between the parts of a text. -/
def isSpace (c : Char) : Bool := c == ' ' || c == '\n' || c == '\t' || c == '\r'

/-- Drops blanks. -/
def skipSpace (s : List Char) : List Char := s.dropWhile isSpace

/-- The rest of a literal whose first letter has been seen. -/
def literal : List Char → List Char → Except Fault (List Char)
  | [], s => .ok s
  | _ :: _, [] => .error (.before .endInValue [])
  | w :: word, c :: r => if c = w then literal word r else .error (.near .noLiteral (c :: r))

/-! ### Numbers -/

/-- The value of a digit. -/
def digit (c : Char) : Fin 10 := Fin.ofNat 10 (c.toNat - '0'.toNat)

/-- The value of a row of digits. -/
def digitsValue (ds : List Char) : Nat := ds.foldl (fun n c => 10 * n + (digit c).val) 0

/-- The digits at the start of a text. -/
def digitRun (s : List Char) : List Char := s.takeWhile Char.isDigit

/-- What follows the digits at the start of a text. -/
def pastDigits (s : List Char) : List Char := s.dropWhile Char.isDigit

/-- A digit is missing; where a value is wanted, the end of the text is told apart. -/
def missingDigit (strict : Bool) (s : List Char) : Fault :=
  if strict && s.isEmpty then .before .endInValue [] else .near .badNumber s

/-- A number as scanned. -/
structure Scanned where
  numeral : Numeral
  /-- What remains when the exponent is first seen to be too large for a 32-bit integer; at the
  latest, what remains after the number. -/
  limit : List Char
  rest : List Char

/-- The number of leading digits after which a row of digits exceeds 32 bits with sign. -/
def excess (seen value : Nat) : List Char → Option Nat
  | [] => none
  | d :: ds =>
    let v := 10 * value + (digit d).val
    if 2147483647 < v then some (seen + 1) else excess (seen + 1) v ds

/-- An exponent, if there is one. -/
def scanExponent (strict : Bool) (s : List Char) :
    Except Fault (Option Int × List Char × List Char) :=
  match s with
  | e :: r =>
    if e = 'e' ∨ e = 'E' then
      let (negative, t) := match r with
        | '+' :: t => (false, t)
        | '-' :: t => (true, t)
        | t => (false, t)
      match digitRun t with
      | [] => .error (missingDigit strict t)
      | ds =>
        let rest := pastDigits t
        let value : Int := digitsValue ds
        let limit := match excess 0 0 ds with
          | some k => t.drop k
          | none => rest
        .ok (some (if negative then -value else value), limit, rest)
    else .ok (none, s, s)
  | [] => .ok (none, [], [])

/-- A fraction, if there is one. -/
def scanFraction (strict : Bool) (s : List Char) : Except Fault (List (Fin 10) × List Char) :=
  match s with
  | '.' :: r =>
    match digitRun r with
    | [] => .error (missingDigit strict r)
    | ds => .ok (ds.map digit, pastDigits r)
  | _ => .ok ([], s)

/-- The digits before the point; a zero stands alone. -/
def scanWhole (strict : Bool) (s : List Char) : Except Fault (Nat × List Char) :=
  match s with
  | '0' :: r =>
    match r with
    | d :: _ => if d.isDigit then .error (.near .badNumber r) else .ok (0, r)
    | [] => .ok (0, [])
  | _ =>
    match digitRun s with
    | [] => .error (missingDigit strict s)
    | ds => .ok (digitsValue ds, pastDigits s)

/-- A number. -/
def scanNumber (strict : Bool) (s : List Char) : Except Fault Scanned := do
  let (negative, s) := match s with
    | '-' :: r => (true, r)
    | s => (false, s)
  let (whole, s) ← scanWhole strict s
  let (fraction, s) ← scanFraction strict s
  let (exponent, limit, rest) ← scanExponent strict s
  return ⟨⟨negative, whole, fraction, exponent⟩, limit, rest⟩

/-! ### Texts -/

/-- The value of four hexadecimal digits. -/
def hexValue? (a b c d : Char) : Option Nat :=
  do
    return (((← Text.hexDigit? a) * 16 + (← Text.hexDigit? b)) * 16 + (← Text.hexDigit? c)) * 16
      + (← Text.hexDigit? d)

/-- Four hexadecimal digits. -/
def scanHex (s : List Char) : Except Fault (Nat × List Char) :=
  let bad : Fault :=
    if Text.byteCount s < 4 then .before .endInText []
    else { cause := .badEscape, spot := Spot.advance 4 s }
  match s with
  | a :: b :: c :: d :: r =>
    match hexValue? a b c d with
    | some n => .ok (n, r)
    | none => .error bad
  | _ => .error bad

/-- The character of a one-letter escape. -/
def plainEscape? (c : Char) : Option Char :=
  match c with
  | '"' => some '"'
  | '\\' => some '\\'
  | '/' => some '/'
  | 'b' => some '\x08'
  | 'f' => some '\x0c'
  | 'n' => some '\n'
  | 'r' => some '\r'
  | 't' => some '\t'
  | _ => none

/-- The second half of a surrogate pair, written as an escape of its own. -/
def scanLowSurrogate (s : List Char) : Except Fault (Nat × List Char) :=
  match s with
  | [] => .error (.before .endInText [])
  | '\\' :: [] => .error (.before .endInText [])
  | '\\' :: 'u' :: r =>
    match scanHex r with
    | .error f => .error f
    | .ok (n, t) =>
      if 0xDC00 ≤ n ∧ n ≤ 0xDFFF then .ok (n, t) else .error (.before .loneSurrogate t)
  | '\\' :: r => .error (.near .missingSurrogate r)
  | s => .error (.near .missingSurrogate s)

/-- The character of an escape whose backslash has been read. -/
def scanEscape (s : List Char) : Except Fault (Char × List Char) :=
  match s with
  | [] => .error (.before .endInText [])
  | 'u' :: r =>
    match scanHex r with
    | .error f => .error f
    | .ok (n, t) =>
      if 0xDC00 ≤ n ∧ n ≤ 0xDFFF then .error (.before .loneSurrogate t)
      else if 0xD800 ≤ n ∧ n ≤ 0xDBFF then
        match scanLowSurrogate t with
        | .error f => .error f
        | .ok (m, u) => .ok (Char.ofNat ((n - 0xD800) * 0x400 + (m - 0xDC00) + 0x10000), u)
      else .ok (Char.ofNat n, t)
  | c :: r =>
    match plainEscape? c with
    | some d => .ok (d, r)
    | none => .error (.near .badEscape (c :: r))

/-- A text up to its closing quote; `fuel` bounds the number of its characters. -/
def scanText : Nat → List Char → Except Fault (Ahead (List Char))
  | 0, _ => .error (.before .endInText [])
  | fuel + 1, s =>
    match s with
    | [] => .error (.before .endInText [])
    | '"' :: r => .ok ([], r)
    | '\\' :: r =>
      match scanEscape r with
      | .error f => .error f
      | .ok (c, t) => (scanText fuel t).map fun (cs, u) => (c :: cs, u)
    | c :: r =>
      if c.toNat < 0x20 then .error (.before .controlCharacter r)
      else (scanText fuel r).map fun (cs, u) => (c :: cs, u)

/-- A quoted text whose opening quote has been read. -/
def readText (s : List Char) : Except Fault (Ahead String) :=
  (scanText (s.length + 1) s).map fun (cs, r) => (String.ofList cs, r)

/-- What follows a text that is skipped: escapes need not form characters. -/
def skipText : Nat → List Char → Except Fault (List Char)
  | 0, _ => .error (.before .endInText [])
  | fuel + 1, s =>
    match s with
    | [] => .error (.before .endInText [])
    | '"' :: r => .ok r
    | ['\\'] => .error (.before .endInText [])
    | '\\' :: 'u' :: r =>
      match scanHex r with
      | .error f => .error f
      | .ok (_, t) => skipText fuel t
    | '\\' :: c :: r =>
      if (plainEscape? c).isSome then skipText fuel r else .error (.near .badEscape (c :: r))
    | c :: r =>
      if c.toNat < 0x20 then .error (.before .controlCharacter (c :: r)) else skipText fuel r

end Json
end NotNullLint
