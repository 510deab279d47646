import NotNullLint.Text.Basic

/-!
# Patterns for paths

`?` stands for one character, `*` for any number of them, `[…]` for one of a set and `[!…]` for
one outside of it; `**`, which has to be a whole component, stands for any folders on the way.
Slashes are characters like all others except to `**`, and case matters.
-/

namespace NotNullLint
namespace Glob

/-- A set of characters, by the first and the last one of each range. -/
abbrev Ranges := List (Char × Char)

/-- The character lies in one of the ranges. -/
def Ranges.contain (rs : Ranges) (c : Char) : Bool := rs.any fun r => r.1 ≤ c && c ≤ r.2

/-- An element of a pattern. -/
inductive Token where
  | char (c : Char)
  | anyChar
  | oneOf (ranges : Ranges)
  | noneOf (ranges : Ranges)
  /-- Any number of characters. -/
  | sequence
  /-- Nothing, or anything up to and with a slash; at the end, anything. -/
  | folders
  deriving DecidableEq, Repr, Inhabited

/-- A pattern. -/
abbrev Pattern := List Token

/-- Why a text is no pattern. -/
inductive Defect where
  | manyStars
  | partialComponent
  | openRange
  deriving DecidableEq, Repr, Inhabited

/-- The text of a defect. -/
def Defect.message : Defect → String
  | manyStars => "wildcards are either regular `*` or recursive `**`"
  | partialComponent => "recursive wildcards must form a single path component"
  | openRange => "invalid range pattern"

/-- A defect and the number of characters before it. -/
structure PatternError where
  position : Nat
  defect : Defect
  deriving DecidableEq, Repr, Inhabited

/-- The text of a pattern error. -/
def PatternError.message (e : PatternError) : String :=
  "Pattern syntax error near position " ++ toString e.position ++ ": " ++ e.defect.message

/-! ### Reading -/

/-- The ranges of a set; a hyphen between two characters makes a range. -/
def ranges : List Char → Ranges
  | a :: '-' :: b :: r => (a, b) :: ranges r
  | a :: r => (a, a) :: ranges r
  | [] => []

/-- The set after an opening bracket, and how many characters it takes with its closing bracket,
which may not be the first one. -/
def set? : List Char → Option (Token × Nat)
  | '!' :: c :: r =>
    let inner := r.takeWhile (· != ']')
    if inner.length < r.length then some (.noneOf (ranges (c :: inner)), inner.length + 3) else none
  | ['!'] => none
  | c :: r =>
    let inner := r.takeWhile (· != ']')
    if inner.length < r.length then some (.oneOf (ranges (c :: inner)), inner.length + 2) else none
  | [] => none

/-- Adds a token in front; folders any number of times are folders. -/
def cons : Token → Pattern → Pattern
  | .folders, .folders :: ts => .folders :: ts
  | t, ts => t :: ts

/-- The tokens of a text of which `skip` more characters have been taken up already. There are
`position` characters before it, and `boundary` says that a component starts. -/
def tokens : (skip position : Nat) → (boundary : Bool) → List Char → Except PatternError Pattern
  | _, _, _, [] => .ok []
  | skip + 1, position, _, c :: r => tokens skip (position + 1) (c == '/') r
  | 0, position, boundary, c :: r =>
    if c = '?' then (tokens 0 (position + 1) false r).map (cons .anyChar)
    else if c = '*' then
      match r with
      | '*' :: '*' :: _ => .error ⟨position + 2, .manyStars⟩
      | '*' :: t =>
        if boundary = false then .error ⟨position - 1, .partialComponent⟩
        else if t = [] ∨ t.head? = some '/' then
          (tokens 2 (position + 1) false r).map (cons .folders)
        else .error ⟨position + 2, .partialComponent⟩
      | _ => (tokens 0 (position + 1) false r).map (cons .sequence)
    else if c = '[' then
      match set? r with
      | some (t, n) => (tokens n (position + 1) false r).map (cons t)
      | none => .error ⟨position, .openRange⟩
    else (tokens 0 (position + 1) (c == '/') r).map (cons (.char c))

/-- The pattern that a text stands for. -/
def parse (text : List Char) : Except PatternError Pattern := tokens 0 0 true text

/-! ### Matching -/

/-- The token stands for the character. -/
def Token.admits : Token → Char → Bool
  | char d, c => c == d
  | anyChar, _ => true
  | oneOf rs, c => rs.contain c
  | noneOf rs, c => !rs.contain c
  | sequence, _ => false
  | folders, _ => false

/-- What follows each slash. -/
def afterSlashes (s : List Char) : List (List Char) :=
  (Text.suffixes s).filterMap fun t =>
    match t with
    | '/' :: r => some r
    | _ => none

/-- The pattern stands for the whole text. -/
def Pattern.accepts : Pattern → List Char → Bool
  | [], s => s.isEmpty
  | .sequence :: ts, s => (Text.suffixes s).any (accepts ts)
  | .folders :: ts, s => ts.isEmpty || accepts ts s || (afterSlashes s).any (accepts ts)
  | t :: ts, s =>
    match s with
    | [] => false
    | c :: r => t.admits c && accepts ts r

/-- The only text that a pattern without wildcards stands for. -/
def Pattern.literal? (p : Pattern) : Option String :=
  (p.mapM fun t => match t with
    | Token.char c => some c
    | _ => none).map String.ofList

end Glob
end NotNullLint
