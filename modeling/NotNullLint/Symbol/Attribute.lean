import NotNullLint.Shape.Shaped

/-!
# Attributes and type references

Two kinds of reference to something declared in a module: an attribute put on a symbol, and the
type of a parameter. The module of an attribute that could not be resolved is unknown.
-/

namespace NotNullLint

/-- An attribute on a symbol. -/
structure Attribute where
  name : String
  module : Option String := none
  deriving DecidableEq, Repr, Inhabited

namespace Attribute

/-- The attribute is `name`, defined in exactly `module`. -/
def isFrom (a : Attribute) (name module : String) : Bool :=
  a.name == name && a.module == some module

/-- Some attribute has that name, whatever its module. -/
def named (attributes : List Attribute) (name : String) : Bool :=
  attributes.any fun a => a.name == name

/-- Some attribute is `name`, defined in exactly `module`. -/
def namedFrom (attributes : List Attribute) (name module : String) : Bool :=
  attributes.any fun a => a.isFrom name module

theorem named_iff {attributes : List Attribute} {name : String} :
    named attributes name = true ↔ ∃ a ∈ attributes, a.name = name := by
  simp [named]

theorem namedFrom_iff {attributes : List Attribute} {name module : String} :
    namedFrom attributes name module = true ↔
      ∃ a ∈ attributes, a.name = name ∧ a.module = some module := by
  simp [namedFrom, isFrom]

end Attribute

/-- The declared type of a parameter. -/
structure TypeRef where
  name : String
  module : Option String := none
  isValueType : Bool := false
  deriving DecidableEq, Repr, Inhabited

/-- The type is `name`, defined in exactly `module`. -/
def TypeRef.isFrom (t : TypeRef) (name module : String) : Bool :=
  t.name == name && t.module == some module

instance : Shaped Attribute where
  shape := .record "AttributeSymbol"
    (.cons "name" .required (Shaped.shape String)
    (.cons "module" .optional (Shaped.shape (Option String)) .nil))
  ofVal := fun (name, module, _) => { name, module := Option.join module }
  toVal a := (a.name, some a.module, ())
  ofVal_toVal _ := rfl

instance : Shaped TypeRef where
  shape := .record "TypeRef"
    (.cons "name" .required (Shaped.shape String)
    (.cons "module" .optional (Shaped.shape (Option String))
    (.cons "is_value_type" .optional .flag .nil)))
  ofVal := fun (name, module, isValueType, _) =>
    { name, module := Option.join module, isValueType := Option.getD isValueType false }
  toVal t := (t.name, some t.module, some t.isValueType, ())
  ofVal_toVal _ := rfl

end NotNullLint
