import NotNullLint.Json.Tree
import NotNullLint.Json.Printer

/-!
# Types with a document form

A type with a shape, and conversions that lose nothing on the way to the document.
-/

namespace NotNullLint

/-- A type whose values are written to documents of a shape and read from them. -/
class Shaped (α : Type) where
  shape : Shape
  ofVal : shape.Val → α
  toVal : α → shape.Val
  ofVal_toVal (a : α) : ofVal (toVal a) = a

namespace Shaped

variable {α : Type} [Shaped α]

/-- The tree of a value. -/
def toJson (a : α) : Json := (shape α).toJson (toVal a)

/-- Reads JSON text; a fault is told by its message. -/
def ofText (text : String) : Except String α := (Json.read (shape α) text).map ofVal

/-- Reads a JSON tree; a fault is told by its message. -/
def ofJson (v : Json) : Except String α :=
  ((Json.readTree (shape α) v).mapError (·.message)).map ofVal

/-- An optional member read as a value, with what its absence means. -/
def orElse (absent : α) (v : Option (shape α).Val) : α := (v.map ofVal).getD absent

@[simp] theorem orElse_some (absent a : α) : orElse absent (some (toVal a)) = a := by
  simp [orElse, ofVal_toVal]

end Shaped

instance : Shaped String where
  shape := .text "a string"
  ofVal s := s
  toVal s := s
  ofVal_toVal _ := rfl

instance : Shaped Bool where
  shape := .flag
  ofVal b := b
  toVal b := b
  ofVal_toVal _ := rfl

instance {α : Type} [Shaped α] : Shaped (Option α) where
  shape := .maybe (Shaped.shape α)
  ofVal (v : Option (Shaped.shape α).Val) := v.map Shaped.ofVal
  toVal (a : Option α) := a.map Shaped.toVal
  ofVal_toVal a := by simp [Option.map_map, Function.comp_def, Shaped.ofVal_toVal]

instance {α : Type} [Shaped α] : Shaped (List α) where
  shape := .list (Shaped.shape α)
  ofVal (vs : List (Shaped.shape α).Val) := vs.map Shaped.ofVal
  toVal (as : List α) := as.map Shaped.toVal
  ofVal_toVal as := by simp [List.map_map, Function.comp_def, Shaped.ofVal_toVal]

end NotNullLint
