import NotNullLint.Path
import NotNullLint.Shape.Shaped

/-!
# Source locations

Where a declaration stands. Locations are ordered by file, then line, column, offset and length,
the file being compared as a path.
-/

namespace NotNullLint

/-- The place of a declaration in a source file. Lines and columns count from one, the offset and
the length of its span are in bytes. -/
structure Location where
  file : Path
  line : UInt64
  column : UInt64
  offset : UInt64 := 0
  length : UInt64 := 0
  deriving DecidableEq, Repr, Inhabited

namespace Location

/-- File, then line, column, offset and length. -/
instance : Ord Location :=
  ⟨compareLex (compareOn file) (compareLex (compareOn line) (compareLex (compareOn column)
    (compareLex (compareOn offset) (compareOn length))))⟩

instance : Std.TransOrd Location :=
  inferInstanceAs (Std.TransCmp (compareLex (compareOn file) (compareLex (compareOn line)
    (compareLex (compareOn column) (compareLex (compareOn offset) (compareOn length))))))

/-- Equality of the places that are named, the file being taken as a path. -/
def same (a b : Location) : Bool :=
  a.file.same b.file && a.line == b.line && a.column == b.column && a.offset == b.offset
    && a.length == b.length

/-- The place as file, line and column. -/
def text (l : Location) : String :=
  l.file.text ++ ":" ++ toString l.line ++ ":" ++ toString l.column

end Location

instance : Shaped Path where
  shape := .text "path string"
  ofVal s := ⟨s⟩
  toVal p := p.text
  ofVal_toVal _ := rfl

instance : Shaped Location where
  shape := .record "Location"
    (.cons "file" .required (Shaped.shape Path)
    (.cons "line" .required .count
    (.cons "column" .required .count
    (.cons "offset" .optional .count
    (.cons "length" .optional .count .nil)))))
  ofVal := fun (file, line, column, offset, length, _) =>
    { file := ⟨file⟩, line, column, offset := Option.getD offset 0, length := Option.getD length 0 }
  toVal l := (l.file.text, l.line, l.column, some l.offset, some l.length, ())
  ofVal_toVal _ := rfl

end NotNullLint
