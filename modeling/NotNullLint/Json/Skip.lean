import NotNullLint.Json.Scan

/-!
# Skipping JSON values

The value of a member that no record knows is read past. It has to be well formed, but its
numbers may be of any size and the escapes of its texts need not form characters.
-/

namespace NotNullLint
namespace Json

mutual

/-- What remains after a value. -/
def skipValue : Nat → List Char → Except Fault (List Char)
  | 0, _ => .error (.before .noValue [])
  | fuel + 1, s =>
    match skipSpace s with
    | [] => .error (.before .endInValue [])
    | 'n' :: r => literal ['u', 'l', 'l'] r
    | 't' :: r => literal ['r', 'u', 'e'] r
    | 'f' :: r => literal ['a', 'l', 's', 'e'] r
    | '"' :: r => skipText (r.length + 1) r
    | '[' :: r =>
      match skipSpace r with
      | [] => .error (.before .endInArray [])
      | ']' :: t => .ok t
      | t => skipItems fuel t
    | '\x7b' :: r =>
      match skipSpace r with
      | [] => .error (.before .endInObject [])
      | '\x7d' :: t => .ok t
      | t => skipMembers fuel t
    | c :: r =>
      if c = '-' ∨ c.isDigit then (scanNumber false (c :: r)).map (·.rest)
      else .error (.near .noValue (c :: r))

/-- What remains after the items of an array and its end. -/
def skipItems : Nat → List Char → Except Fault (List Char)
  | 0, _ => .error (.before .noValue [])
  | fuel + 1, s => do
    let t ← skipValue fuel s
    match skipSpace t with
    | [] => .error (.before .endInArray [])
    | ',' :: u => skipItems fuel u
    | ']' :: u => .ok u
    | u => .error (.near .noItemSeparator u)

/-- What remains after the members of an object and its end. -/
def skipMembers : Nat → List Char → Except Fault (List Char)
  | 0, _ => .error (.before .noValue [])
  | fuel + 1, s =>
    match skipSpace s with
    | [] => .error (.before .endInObject [])
    | '"' :: r => do
      let t ← skipText (r.length + 1) r
      match skipSpace t with
      | [] => .error (.before .endInObject [])
      | ':' :: u =>
        let v ← skipValue fuel u
        match skipSpace v with
        | [] => .error (.before .endInObject [])
        | ',' :: w => skipMembers fuel w
        | '\x7d' :: w => .ok w
        | w => .error (.near .noMemberSeparator w)
      | u => .error (.near .noColon u)
    | t => .error (.near .nameNotText t)

end

/-- What remains after a value at the start of a text. -/
def skip (s : List Char) : Except Fault (List Char) := skipValue (2 * s.length + 2) s

end Json
end NotNullLint
