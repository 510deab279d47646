import NotNullLint.Toml.Basic

/-!
# The small parts of TOML text

Blanks, comments, keys, quoted texts, numbers and moments at the start of what remains to be read.
A reader answers nothing where the text is malformed; the wording of such faults is not told.
-/

namespace NotNullLint
namespace Toml

/-- A value and what remains to be read after it. -/
abbrev Ahead (α : Type) := α × List Char

/-- A blank within a line. -/
def isGap (c : Char) : Bool := c == ' ' || c == '\t'

/-- Drops blanks within a line. -/
def skipGap (s : List Char) : List Char := s.dropWhile isGap

/-- The end of a line. -/
def newline? : List Char → Option (List Char)
  | '\n' :: r => some r
  | '\r' :: '\n' :: r => some r
  | _ => none

/-- A character that may stand in a comment. -/
def isCommentChar (c : Char) : Bool :=
  c == '\t' || (0x20 ≤ c.toNat && c.toNat ≤ 0x7E) || 0x80 ≤ c.toNat

/-- Drops a comment, if there is one. -/
def skipComment : List Char → List Char
  | '#' :: r => r.dropWhile isCommentChar
  | s => s

/-- The rest of a line without content. -/
def lineEnd? (s : List Char) : Option (List Char) :=
  match skipComment (skipGap s) with
  | [] => some []
  | t => newline? t

/-- Drops blanks, comments and ends of lines. -/
def skipLines : Nat → List Char → List Char
  | 0, s => s
  | fuel + 1, s =>
    let t := skipGap s
    match newline? (skipComment t) with
    | some r => skipLines fuel r
    | none => t

/-! ### Texts -/

/-- The character of an escape with `n` hexadecimal digits. -/
def hexEscape (n : Nat) (s : List Char) : Option (Ahead Char) :=
  let ds := s.take n
  if ds.length < n then none
  else
    match ds.mapM Text.hexDigit? with
    | none => none
    | some vs =>
      let code := vs.foldl (fun a v => 16 * a + v) 0
      if code.isValidChar then some (Char.ofNat code, s.drop n) else none

/-- The character of an escape whose backslash has been read. -/
def escape : List Char → Option (Ahead Char)
  | 'b' :: r => some ('\x08', r)
  | 't' :: r => some ('\t', r)
  | 'n' :: r => some ('\n', r)
  | 'f' :: r => some ('\x0c', r)
  | 'r' :: r => some ('\r', r)
  | '"' :: r => some ('"', r)
  | '\\' :: r => some ('\\', r)
  | 'u' :: r => hexEscape 4 r
  | 'U' :: r => hexEscape 8 r
  | _ => none

/-- A text on one line up to its closing quote; `escapes` says whether a backslash escapes. -/
def lineText (quote : Char) (escapes : Bool) : Nat → List Char → Option (Ahead (List Char))
  | 0, _ => none
  | fuel + 1, s =>
    match s with
    | [] => none
    | c :: r =>
      if c = quote then some ([], r)
      else if c = '\\' ∧ escapes = true then do
        let (d, t) ← escape r
        let (cs, u) ← lineText quote escapes fuel t
        return (d :: cs, u)
      else if isCommentChar c then do
        let (cs, u) ← lineText quote escapes fuel r
        return (c :: cs, u)
      else none

/-- What follows a backslash at the end of a line: all blanks and ends of lines are dropped. -/
def lineFold? (s : List Char) : Option (List Char) :=
  match newline? (skipGap s) with
  | none => none
  | some r => some (go r.length r)
where
  /-- Drops blanks and ends of lines. -/
  go : Nat → List Char → List Char
    | 0, s => s
    | fuel + 1, s =>
      match newline? (skipGap s) with
      | some r => go fuel r
      | none => skipGap s

/-- A text over several lines up to its three closing quotes, before which two more may stand. -/
def linesText (quote : Char) (escapes : Bool) : Nat → List Char → Option (Ahead (List Char))
  | 0, _ => none
  | fuel + 1, s =>
    match s with
    | [] => none
    | c :: r =>
      if c = quote then
        let n := (s.takeWhile (· == quote)).length
        if 3 ≤ n then
          let extra := min (n - 3) 2
          some (List.replicate extra quote, s.drop (extra + 3))
        else do
          let (cs, u) ← linesText quote escapes fuel r
          return (c :: cs, u)
      else if c = '\\' ∧ escapes = true then
        match lineFold? r with
        | some t => linesText quote escapes fuel t
        | none => do
          let (d, t) ← escape r
          let (cs, u) ← linesText quote escapes fuel t
          return (d :: cs, u)
      else
        match newline? s with
        | some t => do
          let (cs, u) ← linesText quote escapes fuel t
          return ('\n' :: cs, u)
        | none =>
          if isCommentChar c then do
            let (cs, u) ← linesText quote escapes fuel r
            return (c :: cs, u)
          else none

/-- Drops the end of the line that the opening quotes stand on. -/
def dropFirstLine (s : List Char) : List Char := (newline? s).getD s

/-- A quoted text of any of the four kinds. -/
def quotedText (s : List Char) : Option (Ahead String) :=
  let done (r : Option (Ahead (List Char))) : Option (Ahead String) :=
    r.map fun (cs, t) => (String.ofList cs, t)
  match s with
  | '"' :: '"' :: '"' :: r => done (linesText '"' true (r.length + 1) (dropFirstLine r))
  | '\'' :: '\'' :: '\'' :: r => done (linesText '\'' false (r.length + 1) (dropFirstLine r))
  | '"' :: r => done (lineText '"' true (r.length + 1) r)
  | '\'' :: r => done (lineText '\'' false (r.length + 1) r)
  | _ => none

/-! ### Keys -/

/-- A character of a bare key. -/
def isKeyChar (c : Char) : Bool := c.isAlphanum || c == '_' || c == '-'

/-- One part of a key. -/
def keyPart (s : List Char) : Option (Ahead String) :=
  match s with
  | '"' :: r => (lineText '"' true (r.length + 1) r).map fun (cs, t) => (String.ofList cs, t)
  | '\'' :: r => (lineText '\'' false (r.length + 1) r).map fun (cs, t) => (String.ofList cs, t)
  | _ =>
    match s.takeWhile isKeyChar with
    | [] => none
    | cs => some (String.ofList cs, s.dropWhile isKeyChar)

/-- The parts of a key, separated by points. -/
def keyParts : Nat → List Char → Option (Ahead (List String))
  | 0, _ => none
  | fuel + 1, s => do
    let (part, t) ← keyPart (skipGap s)
    match skipGap t with
    | '.' :: u =>
      let (parts, w) ← keyParts fuel u
      return (part :: parts, w)
    | u => return ([part], u)

/-- The bound on nesting: keys have fewer parts, arrays and tables in braces nest less deep. -/
def maxDepth : Nat := 80

/-- A key. -/
def key (s : List Char) : Option (Ahead (List String)) := do
  let (parts, t) ← keyParts (s.length + 1) s
  if parts.length < maxDepth then return (parts, t) else none

/-! ### Numbers -/

/-- The digits after a first one, each of which may follow an underscore; those are dropped. -/
def moreDigits (isDigit : Char → Bool) : List Char → Ahead (List Char)
  | [] => ([], [])
  | [c] => if isDigit c then ([c], []) else ([], [c])
  | c :: d :: r =>
    if isDigit c then
      let (ds, t) := moreDigits isDigit (d :: r)
      (c :: ds, t)
    else if c = '_' ∧ isDigit d = true then
      let (ds, t) := moreDigits isDigit r
      (d :: ds, t)
    else ([], c :: d :: r)

/-- Digits of a class, between which single underscores may stand. -/
def digitRun (isDigit : Char → Bool) : List Char → Option (Ahead (List Char))
  | [] => none
  | c :: r =>
    if isDigit c then
      let (ds, t) := moreDigits isDigit r
      some (c :: ds, t)
    else none

/-- A sign, if there is one; true for minus. -/
def sign : List Char → Bool × List Char
  | '-' :: r => (true, r)
  | '+' :: r => (false, r)
  | s => (false, s)

/-- The digits of a decimal integer; a zero stands alone. -/
def wholeDigits (s : List Char) : Option (Ahead (List Char)) :=
  match s with
  | '0' :: r => some (['0'], r)
  | _ => digitRun Char.isDigit s

/-- The value of a row of digits. -/
def digitsValue (base : Nat) (ds : List Char) : Nat :=
  ds.foldl (fun n c => base * n + (Text.hexDigit? c).getD 0) 0

/-- An integer of 64 bits with sign. -/
def scanInteger (s : List Char) : Option (Ahead Toml) :=
  let based (base : Nat) (isDigit : Char → Bool) (r : List Char) : Option (Ahead Toml) := do
    let (ds, t) ← digitRun isDigit r
    let n := digitsValue base ds
    if n < Nat.pow 2 63 then return (.integer n, t) else none
  match s with
  | '0' :: 'x' :: r => based 16 (fun c => (Text.hexDigit? c).isSome) r
  | '0' :: 'o' :: r => based 8 (fun c => '0' ≤ c && c ≤ '7') r
  | '0' :: 'b' :: r => based 2 (fun c => c == '0' || c == '1') r
  | _ => do
    let (negative, r) := sign s
    let (ds, t) ← wholeDigits r
    let n := digitsValue 10 ds
    if negative then
      if n ≤ Nat.pow 2 63 then return (.integer (-(n : Int)), t) else none
    else if n < Nat.pow 2 63 then return (.integer n, t) else none

/-- The exponent of a number. -/
def exponent (s : List Char) : Option (Ahead Int) :=
  match s with
  | e :: r =>
    if e = 'e' ∨ e = 'E' then do
      let (negative, t) := sign r
      let (ds, u) ← digitRun Char.isDigit t
      let n : Int := digitsValue 10 ds
      return (if negative then -n else n, u)
    else none
  | [] => none

/-- The nearest binary64 number to `m · 10 ^ e`; exponents beyond all numbers are cut. -/
def nearest (m : Nat) (e : Int) : Float :=
  if m = 0 then 0
  else
    let digits : Int := (Nat.toDigits 10 m).length
    if 400 < digits + e then Float.ofScientific 1 false 400
    else if digits + e < -400 then 0
    else if 0 ≤ e then Float.ofScientific m false e.toNat
    else Float.ofScientific m true (-e).toNat

/-- What follows the whole digits of a number that is no integer: a fraction, an exponent, or
both. -/
def fractionExponent : List Char → Option (Ahead (List Char × Int))
  | '.' :: r => do
    let (ds, t) ← digitRun Char.isDigit r
    if t.head? = some 'e' ∨ t.head? = some 'E' then
      (exponent t).map fun (e, u) => ((ds, e), u)
    else return ((ds, 0), t)
  | s => (exponent s).map fun (e, t) => (([], e), t)

/-- A number with a fraction or an exponent, or one of the words for infinity and no number. -/
def scanFloat (s : List Char) : Option (Ahead Toml) :=
  let (negative, r) := sign s
  match r with
  | 'i' :: 'n' :: 'f' :: t => some (.float (if negative then -1.0 / 0 else 1.0 / 0), t)
  | 'n' :: 'a' :: 'n' :: t => some (.float (0.0 / 0), t)
  | _ => do
    let (whole, t) ← wholeDigits r
    let ((fraction, e), u) ← fractionExponent t
    let x := nearest (digitsValue 10 (whole ++ fraction)) (e - fraction.length)
    if x.isInf && !negative then none else return (.float (if negative then -x else x), u)

/-! ### Moments -/

/-- A number of exactly `n` digits between two bounds. -/
def fixed (n low high : Nat) (s : List Char) : Option (Ahead Nat) :=
  let ds := s.take n
  if ds.length = n ∧ ds.all Char.isDigit = true then
    let v := digitsValue 10 ds
    if low ≤ v ∧ v ≤ high then some (v, s.drop n) else none
  else none

/-- A given character. -/
def expect (c : Char) : List Char → Option (List Char)
  | d :: r => if d = c then some r else none
  | [] => none

/-- The days of a month. -/
def daysIn (year month : Nat) : Nat :=
  if month = 2 then
    if year % 4 = 0 ∧ (year % 100 ≠ 0 ∨ year % 400 = 0) then 29 else 28
  else if month = 4 ∨ month = 6 ∨ month = 9 ∨ month = 11 then 30
  else 31

/-- A day. -/
def scanDate (s : List Char) : Option (Ahead (Nat × Nat × Nat)) := do
  let (y, s) ← fixed 4 0 9999 s
  let s ← expect '-' s
  let (m, s) ← fixed 2 1 12 s
  let s ← expect '-' s
  let (d, s) ← fixed 2 1 31 s
  if d ≤ daysIn y m then return ((y, m, d), s) else none

/-- A time of day; digits beyond nanoseconds are dropped. -/
def scanTime (s : List Char) : Option (Ahead (Nat × Nat × Nat × Nat)) := do
  let (h, s) ← fixed 2 0 23 s
  let s ← expect ':' s
  let (m, s) ← fixed 2 0 59 s
  let s ← expect ':' s
  let (sec, s) ← fixed 2 0 60 s
  match s with
  | '.' :: r =>
    match r.takeWhile Char.isDigit with
    | [] => none
    | ds =>
      let nine := (ds ++ List.replicate 9 '0').take 9
      return ((h, m, sec, digitsValue 10 nine), r.dropWhile Char.isDigit)
  | _ => return ((h, m, sec, 0), s)

/-- An offset from universal time, if there is one. -/
def scanOffset (s : List Char) : Option (Option Int) × List Char :=
  match s with
  | 'Z' :: r => (some none, r)
  | 'z' :: r => (some none, r)
  | c :: r =>
    if c = '+' ∨ c = '-' then
      let scanned : Option (Ahead Int) := do
        let (h, t) ← fixed 2 0 23 r
        let t ← expect ':' t
        let (m, t) ← fixed 2 0 59 t
        let minutes : Int := 60 * h + m
        return (if c = '-' then -minutes else minutes, t)
      match scanned with
      | some (minutes, t) => (some (some minutes), t)
      | none => (none, s)
    else (none, s)
  | [] => (none, [])

/-- A day, a time of day, or both. -/
def scanMoment (s : List Char) : Option (Ahead Toml) :=
  match scanDate s with
  | some (day, t) =>
    let alone : Option (Ahead Toml) := some (.moment { date := some day }, t)
    match t with
    | c :: r =>
      if c = 'T' ∨ c = 't' ∨ c = ' ' then
        match scanTime r with
        | some (clock, u) =>
          let (shift, w) := scanOffset u
          some (.moment { date := some day, time := some clock, offset := shift }, w)
        | none => alone
      else alone
    | [] => alone
  | none => (scanTime s).map fun (clock, t) => (.moment { time := some clock }, t)

/-- A moment or a number. -/
def numeric (s : List Char) : Option (Ahead Toml) :=
  (scanMoment s).orElse fun _ => (scanFloat s).orElse fun _ => scanInteger s

end Toml
end NotNullLint
