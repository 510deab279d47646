import NotNullLint.Text.Basic

/-!
# Paths

A path keeps the spelling it was given. What it names is the list of its components: repeated
and trailing slashes do not count, and neither does a `.` unless it leads a relative path.
Paths are compared and ordered by components, so `a//b`, `a/./b` and `a/b/` are the same path.
-/

namespace NotNullLint

/-- A step of a path. -/
inductive Component where
  | root
  | here
  | parent
  | name (text : String)
  deriving DecidableEq, Repr, Inhabited

namespace Component

/-- The kinds of component in order. -/
def rank : Component → Nat
  | root => 0
  | here => 1
  | parent => 2
  | name _ => 3

/-- The text of a name, empty for the other kinds. -/
def label : Component → String
  | name text => text
  | _ => ""

/-- The root comes first, then `.`, then `..`, then names by their characters. -/
instance : Ord Component := ⟨compareLex (compareOn rank) (compareOn label)⟩

instance : Std.TransOrd Component :=
  inferInstanceAs (Std.TransCmp (compareLex (compareOn rank) (compareOn label)))

theorem eq_of_rank_label {a b : Component} (hr : a.rank = b.rank) (hl : a.label = b.label) :
    a = b := by
  cases a <;> cases b <;> simp_all [rank, label]

instance : Std.LawfulEqOrd Component where
  eq_of_compare {a b} h := by
    have h' : (compare a.rank b.rank).then (compare a.label b.label) = .eq := h
    rw [Ordering.then_eq_eq] at h'
    exact eq_of_rank_label (Std.LawfulEqOrd.eq_of_compare h'.1)
      (Std.LawfulEqOrd.eq_of_compare h'.2)

end Component

/-- A path as it was spelled. -/
structure Path where
  text : String
  deriving DecidableEq, Repr, Inhabited

namespace Path

/-- The stretches between slashes. -/
def pieces (p : Path) : List String := (p.text.toList.splitOn '/').map String.ofList

/-- What a piece after the first contributes. -/
def inner (s : String) : Option Component :=
  if s = "" ∨ s = "." then none
  else if s = ".." then some .parent
  else some (.name s)

/-- What the first piece contributes; an empty one before a slash is the root. -/
def leading (alone : Bool) (s : String) : Option Component :=
  if s = "." then some .here
  else if s = "" ∧ alone = false then some .root
  else inner s

/-- A piece with what it contributes. -/
abbrev Piece := String × Option Component

/-- The pieces of a path with what each contributes. -/
def marked (p : Path) : List Piece :=
  match p.pieces with
  | [] => []
  | s :: r => (s, leading r.isEmpty s) :: r.map fun t => (t, inner t)

/-- What the path names. -/
def components (p : Path) : List Component := p.marked.filterMap (·.2)

instance : Ord Path := ⟨compareOn components⟩

instance : Std.TransOrd Path := inferInstanceAs (Std.TransCmp (compareOn components))

/-- Equality of what is named. -/
def same (p q : Path) : Bool := p.components == q.components

@[simp] theorem same_self (p : Path) : p.same p = true := by simp [same]

theorem same_iff {p q : Path} : p.same q = true ↔ p.components = q.components := by simp [same]

theorem compare_eq_iff {p q : Path} : compare p q = .eq ↔ p.components = q.components :=
  Std.LawfulEqOrd.compare_eq_iff_eq (a := p.components) (b := q.components)

/-- The path starts at the root. -/
def isAbsolute (p : Path) : Bool := p.text.toList.head? == some '/'

/-- `q` seen from the directory `p`; an absolute `q` stands for itself. -/
def join (p q : Path) : Path :=
  if q.isAbsolute then q
  else if p.text = "" ∨ p.text.toList.getLast? = some '/' then ⟨p.text ++ q.text⟩
  else ⟨p.text ++ "/" ++ q.text⟩

/-- Pieces written with slashes between them. -/
def spell (ps : List Piece) : Path :=
  match ps with
  | [(_, some .root)] => ⟨"/"⟩
  | _ => ⟨String.intercalate "/" (ps.map (·.1))⟩

/-- Pieces up to the last that contributes. -/
def trimEnd (ps : List Piece) : List Piece := Text.dropEndWhile (·.2.isNone) ps

/-- Pieces from the first that contributes. -/
def trimStart (ps : List Piece) : List Piece := ps.dropWhile (·.2.isNone)

/-- The path without its last component; none for the root and for the empty path. -/
def parent? (p : Path) : Option Path :=
  let body := trimEnd p.marked
  match body.getLast? with
  | none => none
  | some (_, some .root) => none
  | some _ => some (spell (trimEnd body.dropLast))

/-- The last component if it is a name. -/
def fileName? (p : Path) : Option String :=
  match p.components.getLast? with
  | some (.name s) => some s
  | _ => none

/-- `n` steps of taking the parent. -/
def climb : Nat → Path → List Path
  | 0, p => [p]
  | n + 1, p =>
    p :: match p.parent? with
      | none => []
      | some q => climb n q

/-- The path and the directories above it, nearest first. -/
def ancestors (p : Path) : List Path := climb p.components.length p

/-- What remains of the pieces after the given components. -/
def dropComponents : List Component → List Piece → Option (List Piece)
  | [], ps => some ps
  | _ :: _, [] => none
  | cs, (_, none) :: ps => dropComponents cs ps
  | c :: cs, (_, some d) :: ps => if c = d then dropComponents cs ps else none

/-- The path seen from `base`, if `base` is the path itself or a directory above it. -/
def relativeTo? (p base : Path) : Option Path :=
  (dropComponents base.components p.marked).map fun ps => spell (trimEnd (trimStart ps))

end Path
end NotNullLint
