import NotNullLint.CommandLine.Help
import NotNullLint.CommandLine.Mistake

/-!
# Reading a command line

Arguments are read from left to right, first at the level of the program and, from a command on, at
the level of that command. An option whose value is the next argument stays open until something
else is read; only then it is checked, so a mistake in an option is found late. A mistake in what
is read at a command is found before one in what is still open at the program.
-/

namespace NotNullLint
namespace CommandLine

/-! ### Slots that are filled -/

/-- A slot and the value that was given for it. -/
structure Entry where
  slot : Slot
  value : Option String := none
  deriving DecidableEq, Repr

/-- What has been read at one level: entries that were checked, and one that is still open. -/
structure Level where
  filled : List Entry := []
  pending : Option Entry := none
  deriving DecidableEq, Repr, Inhabited

/-- Why reading ends without something to run. -/
inductive Interruption where
  | help (t : Topic) (full : Bool)
  | version
  /-- Nothing was given. -/
  | nothing
  | mistake (m : Mistake)
  deriving DecidableEq, Repr

/-- The mistake in a value, if there is one: an empty path or form, or an unknown form. -/
def valueMistake? (s : Slot) (value : String) : Option Mistake :=
  match s with
  | .path | .config => if value = "" then some (.missingValue s) else none
  | .format =>
    if value = "" then some (.missingValue s)
    else if (Format.ofName? value).isNone then some (.invalidValue s value)
    else none
  | _ => none

namespace Level

/-- The slot has been filled. -/
def has (l : Level) (s : Slot) : Bool := l.filled.any fun e => e.slot == s

/-- The value of a slot. -/
def value? (l : Level) (s : Slot) : Option String :=
  (l.filled.find? fun e => e.slot == s).bind Entry.value

/-- All values of a slot. -/
def values (l : Level) (s : Slot) : List String :=
  (l.filled.filter fun e => e.slot == s).filterMap Entry.value

/-- The last argument was an option that still wants a value. -/
def waiting? (l : Level) : Option Slot :=
  match l.pending with
  | some ⟨s, none⟩ => some s
  | _ => none

/-- Checks an entry and files it. -/
def settle (l : Level) (e : Entry) : Except Mistake Level :=
  if e.slot.takesValue && e.value.isNone then .error (.missingValue e.slot)
  else if l.has e.slot && !e.slot.repeats then .error (.repeated e.slot)
  else
    match e.value.bind (valueMistake? e.slot) with
    | some m => .error m
    | none => .ok { l with filled := l.filled ++ [e] }

/-- Files the open entry. -/
def settlePending (l : Level) : Except Mistake Level :=
  match l.pending with
  | none => .ok l
  | some e => settle { l with pending := none } e

/-- An option without a value. -/
def raise (topic : Topic) (full : Bool) (l : Level) (s : Slot) : Except Interruption Level := do
  let l ← l.settlePending.mapError .mistake
  match s with
  | .help => .error (.help topic full)
  | .version => .error .version
  | s => (l.settle ⟨s, none⟩).mapError .mistake

/-- An option with its value, or one that waits for it. -/
def assign (l : Level) (s : Slot) (value : Option String) : Except Interruption Level := do
  let l ← l.settlePending.mapError .mistake
  match value with
  | some v => (l.settle ⟨s, some v⟩).mapError .mistake
  | none => .ok { l with pending := some ⟨s, none⟩ }

end Level

/-! ### Arguments -/

/-- The topic of a level. -/
def topicOf : Option Command → Topic
  | none => .program
  | some c => .command c

/-- The option of a level with a word. -/
def longOption? (c : Option Command) (word : String) : Option Slot :=
  (optionsOf c).find? fun s => s.long? = some word

/-- The option of a level with a letter. -/
def shortOption? (c : Option Command) (letter : Char) : Option Slot :=
  (optionsOf c).find? fun s => s.short? = some letter

/-- Reads an option with a word, with what follows an equals sign in the same argument. -/
def readLong (c : Option Command) (l : Level) (word : String) (value : Option String) :
    Except Interruption Level :=
  match longOption? c word with
  | none => .error (.mistake (.unknownArgument ("--" ++ word)))
  | some s =>
    if s.takesValue then l.assign s value
    else
      match value with
      | some v => .error (.mistake (.unneededValue s v))
      | none => l.raise (topicOf c) true s

/-- Reads options with letters in one argument; the first that takes a value takes the rest. -/
def readShort (c : Option Command) (l : Level) : List Char → Except Interruption Level
  | [] => .ok l
  | letter :: rest =>
    match shortOption? c letter with
    | none => .error (.mistake (.unknownArgument ("-" ++ letter.toString)))
    | some s =>
      if s.takesValue then
        l.assign s <|
          match rest with
          | [] => none
          | '=' :: v => some (String.ofList v)
          | v => some (String.ofList v)
      else do
        let l ← l.raise (topicOf c) false s
        readShort c l rest

/-- Reads a plain argument: the path of a command that takes one. -/
def readPlain (c : Option Command) (l : Level) (afterDashes : Bool) (arg : String) :
    Except Interruption Level :=
  let path : Entry := ⟨.path, some arg⟩
  if takesPath c && !l.has .path && l.pending.map Entry.slot != some .path then do
    let l ← l.settlePending.mapError .mistake
    return { l with pending := some path }
  else if c.isNone && !(afterDashes
      && ((Command.ofName? arg).isSome || arg = Topic.helpName)) then
    .error (.mistake (.unknownCommand arg))
  else .error (.mistake (.unknownArgument arg))

/-- Reads an argument of options; none if it is a plain one. -/
def readOption? (c : Option Command) (l : Level) (arg : String) :
    Option (Except Interruption Level) :=
  match arg.toList with
  | '-' :: '-' :: s =>
    let word := String.ofList (s.takeWhile (· != '='))
    match s.dropWhile (· != '=') with
    | [] => some (readLong c l word none)
    | _ :: v => some (readLong c l word (some (String.ofList v)))
  | '-' :: letter :: s => some (readShort c l (letter :: s))
  | _ => none

/-- Reads an argument that stands before any double dash and is no command. -/
def readArgument (c : Option Command) (l : Level) (arg : String) : Except Interruption Level :=
  match readOption? c l arg with
  | some r => r
  | none =>
    match l.waiting? with
    | some s => .ok { l with pending := some ⟨s, some arg⟩ }
    | none => readPlain c l false arg

/-- The topic that words after a request for help name. -/
def topicNamed : List String → Except Mistake Topic
  | [] => .ok .program
  | w :: rest => do
    let t ← match Command.ofName? w with
      | some c => .ok (Topic.command c)
      | none => if w = Topic.helpName then .ok Topic.help else .error (.unknownCommand w)
    match rest with
    | [] => return t
    | v :: _ => throw (.unknownCommand v)

/-- The command that an argument at the level of the program stands for, or the help that it asks
for, `rest` being the arguments after it. -/
def readCommand? (l : Level) (arg : String) (rest : List String) :
    Except Interruption (Option Command) :=
  if l.waiting?.isSome then .ok none
  else if arg = Topic.helpName then
    match topicNamed rest with
    | .ok t => .error (.help t true)
    | .error m => .error (.mistake m)
  else .ok (Command.ofName? arg)

/-- Reads the arguments at the level of a command. -/
def readLevel (c : Option Command) (l : Level) (afterDashes : Bool) :
    List String → Except Interruption Level
  | [] => .ok l
  | arg :: rest =>
    if afterDashes then do
      let l ← readPlain c l true arg
      readLevel c l true rest
    else if arg = "--" then readLevel c l true rest
    else do
      let l ← readArgument c l arg
      readLevel c l false rest

/-- Reads the arguments at the level of the program, up to a command. -/
def readProgram (l : Level) :
    List String → Except Interruption (Level × Option (Command × List String))
  | [] => .ok (l, none)
  | arg :: rest => do
    if arg = "--" then
      let l ← readLevel none l true rest
      return (l, none)
    match ← readCommand? l arg rest with
    | some c => return (l, some (c, rest))
    | none =>
      let l ← readArgument none l arg
      readProgram l rest

/-! ### Requests -/

/-- What a check is asked to do. -/
structure CheckOptions where
  path : Option Path := none
  format : Format := .text
  /-- The names of the diagnostics to report, between commas. -/
  rules : Option String := none
  excludes : List String := []
  strict : Bool := false
  deriving DecidableEq, Repr, Inhabited

/-- What is to be done. -/
inductive Task where
  | check (o : CheckOptions)
  | listRules
  | init (force : Bool)
  deriving DecidableEq, Repr

/-- What the program is asked to do. -/
structure Request where
  task : Task
  verbose : Bool := false
  config : Option Path := none
  deriving DecidableEq, Repr

/-- The task of a command with what was given for it. -/
def taskOf (l : Level) : Command → Task
  | .check => .check {
      path := (l.value? .path).map Path.mk
      format := ((l.value? .format).bind Format.ofName?).getD .text
      rules := l.value? .rules
      excludes := l.values .exclude
      strict := l.has .strict }
  | .listRules => .listRules
  | .init => .init (l.has .force)

/-- Reads a command line. -/
def read (args : List String) : Except Interruption Request := do
  let (program, command) ← readProgram {} args
  let level ← match command with
    | none => pure none
    | some (c, rest) => do
      let l ← readLevel (some c) {} false rest
      let l ← l.settlePending.mapError .mistake
      pure (some (c, l))
  let program ← program.settlePending.mapError .mistake
  match level with
  | none =>
    if program.filled.isEmpty then throw .nothing else throw (.mistake .missingCommand)
  | some (c, l) =>
    return {
      task := taskOf l c
      verbose := program.has .verbose || l.has .verbose
      config := ((l.value? .config).or (program.value? .config)).map Path.mk }

end CommandLine
end NotNullLint
