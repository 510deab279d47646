import NotNullLint.Text.Words

/-!
# Wrapped text

Words are set on lines from left to right: a line takes the next word as long as there is room for
it, the blanks before it included. The blanks at the end of a line are not shown.
-/

namespace NotNullLint
namespace Text

/-- Sets words on lines: the words that go on the open line, and those of each later line. The open
line has `used` columns filled, and `begun` tells that it has a word. -/
def setWords (limit : Nat) (begun : Bool) (used : Nat) : List Word → List Word × List (List Word)
  | [] => ([], [])
  | w :: ws =>
    if begun && limit < used + width w.text then
      let p := setWords limit true w.fullWidth ws
      ([], (w :: p.1) :: p.2)
    else
      let p := setWords limit true (used + w.fullWidth) ws
      (w :: p.1, p.2)

/-- Every word is set once, and in its order. -/
theorem setWords_flatten (limit : Nat) (begun : Bool) (used : Nat) (ws : List Word) :
    (setWords limit begun used ws).1 ++ (setWords limit begun used ws).2.flatten = ws := by
  induction ws generalizing begun used with
  | nil => rfl
  | cons w ws ih =>
    simp only [setWords]
    split <;> simp [ih]

/-- The words of each line. -/
def settled (limit : Nat) (ws : List Word) : List (List Word) :=
  let p := setWords limit false 0 ws
  p.1 :: p.2

theorem settled_flatten (limit : Nat) (ws : List Word) : (settled limit ws).flatten = ws := by
  simp [settled, setWords_flatten]

/-- The text of a line, without the blanks at its end. -/
def lineText : List Word → List Char
  | [] => []
  | [w] => w.text
  | w :: ws => w.spelled ++ lineText ws

/-- The lines of a text. A word without width comes first, so that a first word that is very wide
may stand on the second line. -/
def wrapLine (limit : Nat) (line : List Char) : List (List Char) :=
  (settled limit (⟨[], 0⟩ :: words limit line)).map lineText

/-- Lines with one text before the first and another before each other one. -/
def indent (first rest : String) : List (List Char) → List String
  | [] => []
  | l :: ls =>
    (first ++ String.ofList l) :: ls.map fun l => rest ++ String.ofList l

/-- A text on lines of a width, with one text before the first of them and another one, which has
the same width, before each other. -/
def fill (total : Nat) (first rest text : String) : List String :=
  let limit := total - width first.toList
  indent first rest ((text.toList.splitOn '\n').flatMap (wrapLine limit))

end Text
end NotNullLint
