import NotNullLint.Log
import NotNullLint.Log.ValuePattern
import NotNullLint.Text.Basic
import NotNullLint.Text.Blank
import NotNullLint.Text.Letters

/-!
# Log filters

Which events are shown. A filter is a list of directives, each a level for the parts of the program
whose name begins in a given way. Of the directives that speak of an event the most specific one
decides: the one with the longest beginning, then one that asks for a field, and of equal ones the
last.
-/

namespace NotNullLint
namespace Log

/-- A level for the events of the parts whose name begins with `target`. -/
structure Directive where
  target : String := ""
  /-- A field that the events must have. -/
  field : Option String := none
  /-- The least urgent level that is shown, if any is. -/
  level : Option Level
  deriving DecidableEq, Repr, Inhabited

namespace Directive

/-- The only field that events have. -/
def messageField : String := "message"

/-- The directive speaks of the events of a part of the program. -/
def speaksOf (d : Directive) (s : Source) : Bool :=
  d.target.toList.isPrefixOf s.target.toList && d.field.all (· == messageField)

/-- The directive shows events of a level. -/
def admitsLevel (d : Directive) (l : Level) : Bool := d.level.any fun least => l.rank ≤ least.rank

/-- How specific a directive is. -/
def precision (d : Directive) : Nat := 2 * d.target.length + if d.field.isSome then 1 else 0

/-- The more specific of two directives, the second if they are equally so. -/
def prefer (best : Option Directive) (d : Directive) : Option Directive :=
  match best with
  | none => some d
  | some b => if b.precision ≤ d.precision then some d else some b

end Directive

/-- Which events are shown. -/
structure Filter where
  directives : List Directive
  deriving DecidableEq, Repr, Inhabited

namespace Filter

/-- The filter that shows everything from a level on. -/
def upTo (l : Level) : Filter := ⟨[{ level := some l }]⟩

/-- The directive that decides about a part of the program. -/
def directive? (f : Filter) (s : Source) : Option Directive :=
  (f.directives.filter (·.speaksOf s)).foldl Directive.prefer none

/-- The event is shown. -/
def shows (f : Filter) (e : Event) : Bool := (f.directive? e.source).any (·.admitsLevel e.level)

/-! ### Filters as text -/

/-- All levels that a directive can have, from silence on. -/
def levels : List (Option Level) :=
  [none, some .error, some .warn, some .info, some .debug, some .trace]

/-- The word for a level. -/
def word : Option Level → String
  | none => "off"
  | some l => l.name

/-- Digits without the zeros before them, one of which may be the last. -/
def withoutZeros : List Char → List Char
  | '0' :: c :: r => withoutZeros (c :: r)
  | s => s

/-- The level that a number stands for; it may have a sign and zeros before it. -/
def readNumber? (s : List Char) : Option (Option Level) :=
  let digits := match s with
    | '+' :: r => r
    | _ => s
  (levels.zipIdx.find? fun e => withoutZeros digits == [Nat.digitChar e.2]).map (·.1)

/-- The level that a word stands for, in any case, or that its number stands for. -/
def readLevel? (s : List Char) : Option (Option Level) :=
  (readNumber? s).or (levels.find? fun l => Text.sameLetters (word l) (String.ofList s))

/-- A character with which the name of a part can begin. -/
def beginsName (c : Char) : Bool :=
  Text.isLetterOrDigit c || c == '-' || c == ':' || c == '_'

/-- What the brackets of a directive ask for. -/
inductive Condition where
  /-- The event has a field. -/
  | field (name : String)
  /-- The event belongs to a named stretch of work, or a field of it has a value; there is no such
  event. -/
  | never
  deriving DecidableEq, Repr, Inhabited

/-- A condition on a field and perhaps its value, within a stretch of work if that has a name. -/
def Condition.ofField? (stretch text : List Char) : Option Condition :=
  match text.dropWhile (· != '=') with
  | [] => some (if stretch.isEmpty then .field (String.ofList text) else .never)
  | _ :: value => if ValuePattern.isValue (value.takeWhile (· != '=')) then some .never else none

/-- Reads a condition, whose opening bracket has been read. -/
def readCondition? (s : List Char) : Option (Condition × List Char) :=
  let stretch := s.takeWhile fun c => c != ']' && c != '\x7b'
  match s.dropWhile fun c => c != ']' && c != '\x7b' with
  | ']' :: rest => some (.never, rest)
  | _ :: inner =>
    match inner.takeWhile (· != '\x7d'), inner.dropWhile (· != '\x7d') with
    | c :: text, '\x7d' :: ']' :: rest =>
      (Condition.ofField? stretch (c :: text)).map fun condition => (condition, rest)
    | _, _ => none
  | [] => none

/-- The directives for a target under a condition: none if that is never met. -/
def Condition.select (target : String) (level : Option Level) : Condition → List Directive
  | .field name => [{ target, field := some name, level }]
  | .never => []

/-- Reads the level after an equality sign; one that is left out is the least urgent one. -/
def readLevelOrAll? : List Char → Option (Option Level)
  | [] => some (some .trace)
  | s => readLevel? s

/-- Reads what follows the target of a directive: a condition, a level, or both. -/
def readRest? (target : String) : List Char → Option (List Directive)
  | '[' :: s =>
    match readCondition? s with
    | some (c, rest) =>
      if (rest.dropWhile Text.isBlank).isEmpty then some (c.select target (some .trace))
      else
        match rest with
        | '=' :: l => (readLevelOrAll? l).map fun level => c.select target level
        | _ => none
    | none => none
  | '=' :: l => (readLevelOrAll? l).map fun level => [{ target, level }]
  | _ => none

/-- Reads a directive without blanks before it: a level, or a target with what follows it. A text
that is neither a level nor divided is a target. -/
def readBare? (s : List Char) : Option (List Directive) :=
  let name := s.takeWhile fun c => c != '=' && c != '['
  match s with
  | [] => none
  | c :: _ =>
    if c == '[' then readRest? "" s
    else if !beginsName c then none
    else if name == s then
      match readLevel? s with
      | some level => some [{ level }]
      | none => some [{ target := String.ofList s, level := some .trace }]
    else readRest? (String.ofList name) (s.drop name.length)

/-- The text of a directive gives a level after an equality sign, outside of its condition. -/
def hasLevel (s : List Char) : Bool :=
  match s.dropWhile fun c => c != '=' && c != '[' with
  | '[' :: r => ((readCondition? r).map (·.2)).any (·.contains '=')
  | rest => !rest.isEmpty

/-- Reads a directive. One after blanks shows nothing, since no part has a name that begins with a
blank, and it cannot have a level. -/
def readDirective? (s : List Char) : Option (List Directive) :=
  let bare := s.dropWhile Text.isBlank
  if bare.length = s.length then readBare? s
  else if hasLevel bare then none
  else (readBare? bare).map fun _ => []

/-- Reads a filter, directives between commas. One without any shows errors only. -/
def ofText? (s : String) : Option Filter :=
  match (s.toList.splitOn ',').filter (!·.isEmpty) with
  | [] => some (upTo .error)
  | pieces => (pieces.mapM readDirective?).map fun ds => ⟨ds.flatten⟩

/-- The filter of a run: a verbose run shows all but traces; else what was asked for, if it can be
read, and all from information on if not. -/
def choose (verbose : Bool) (request : Option String) : Filter :=
  if verbose then upTo .debug else (request.bind ofText?).getD (upTo .info)

end Filter
end Log
end NotNullLint
