import NotNullLint.Location
import NotNullLint.Symbol.Attribute

/-!
# Methods and their parameters
-/

namespace NotNullLint

/-- Who may call a method. -/
inductive Accessibility where
  | everyone
  | assembly
  | derived
  | derivedOrAssembly
  | derivedInAssembly
  | declaringType
  /-- The host could not tell. -/
  | unknown
  deriving DecidableEq, Repr, Inhabited

namespace Accessibility

/-- The names in documents. -/
def names : List String :=
  ["public", "internal", "protected", "protected_internal", "private_protected", "private",
   "not_applicable"]

/-- The accessibility at a place in the list of names. -/
def ofIndex : Fin 7 → Accessibility
  | 0 => everyone
  | 1 => assembly
  | 2 => derived
  | 3 => derivedOrAssembly
  | 4 => derivedInAssembly
  | 5 => declaringType
  | 6 => unknown

/-- The place in the list of names. -/
def index : Accessibility → Fin 7
  | everyone => 0
  | assembly => 1
  | derived => 2
  | derivedOrAssembly => 3
  | derivedInAssembly => 4
  | declaringType => 5
  | unknown => 6

@[simp] theorem ofIndex_index (a : Accessibility) : ofIndex a.index = a := by cases a <;> rfl

/-- The name in documents. -/
def name (a : Accessibility) : String := names[a.index]

end Accessibility

/-- Whether a declared type admits null. -/
inductive Nullability where
  /-- Declared without `?` where that means never null. -/
  | notAnnotated
  /-- Declared with `?`. -/
  | annotated
  /-- Declared where annotations have no meaning. -/
  | oblivious
  deriving DecidableEq, Repr, Inhabited

namespace Nullability

/-- The names in documents; the last two mean the same, and the last one is written. -/
def names : List String := ["not_annotated", "annotated", "none", "oblivious"]

/-- The annotation at a place in the list of names. -/
def ofIndex : Fin 4 → Nullability
  | 0 => notAnnotated
  | 1 => annotated
  | 2 => oblivious
  | 3 => oblivious

/-- The place in the list of names. -/
def index : Nullability → Fin 4
  | notAnnotated => 0
  | annotated => 1
  | oblivious => 3

@[simp] theorem ofIndex_index (a : Nullability) : ofIndex a.index = a := by cases a <;> rfl

end Nullability

/-- A parameter of a method. -/
structure Parameter where
  name : String
  type : TypeRef
  nullability : Nullability := .oblivious
  attributes : List Attribute := []
  location : Location
  deriving DecidableEq, Repr, Inhabited

/-- A method of a type. -/
structure Method where
  name : String
  accessibility : Accessibility := .unknown
  attributes : List Attribute := []
  parameters : List Parameter := []
  location : Option Location := none
  /-- The host knows that a tool wrote the method. -/
  generated : Bool := false
  deriving DecidableEq, Repr, Inhabited

instance : Shaped Accessibility where
  shape := .choice Accessibility.names
  ofVal := Accessibility.ofIndex
  toVal := Accessibility.index
  ofVal_toVal := Accessibility.ofIndex_index

instance : Shaped Nullability where
  shape := .choice Nullability.names
  ofVal := Nullability.ofIndex
  toVal := Nullability.index
  ofVal_toVal := Nullability.ofIndex_index

instance : Shaped Parameter where
  shape := .record "ParameterSymbol"
    (.cons "name" .required (Shaped.shape String)
    (.cons "type" .required (Shaped.shape TypeRef)
    (.cons "nullable_annotation" .optional (Shaped.shape Nullability)
    (.cons "attributes" .optional (Shaped.shape (List Attribute))
    (.cons "location" .required (Shaped.shape Location) .nil)))))
  ofVal := fun (name, type, nullability, attributes, location, _) =>
    { name
      type := Shaped.ofVal type
      nullability := Shaped.orElse .oblivious nullability
      attributes := Shaped.orElse [] attributes
      location := Shaped.ofVal location }
  toVal p := (p.name, Shaped.toVal p.type, some (Shaped.toVal p.nullability),
    some (Shaped.toVal p.attributes), Shaped.toVal p.location, ())
  ofVal_toVal p := by simp only [Shaped.ofVal_toVal, Shaped.orElse_some]

instance : Shaped Method where
  shape := .record "MethodSymbol"
    (.cons "name" .required (Shaped.shape String)
    (.cons "accessibility" .optional (Shaped.shape Accessibility)
    (.cons "attributes" .optional (Shaped.shape (List Attribute))
    (.cons "parameters" .optional (Shaped.shape (List Parameter))
    (.cons "location" .optional (Shaped.shape (Option Location))
    (.cons "generated" .optional (Shaped.shape Bool) .nil))))))
  ofVal := fun (name, accessibility, attributes, parameters, location, generated, _) =>
    { name
      accessibility := Shaped.orElse .unknown accessibility
      attributes := Shaped.orElse [] attributes
      parameters := Shaped.orElse [] parameters
      location := Shaped.orElse none location
      generated := Shaped.orElse false generated }
  toVal m := (m.name, some (Shaped.toVal m.accessibility), some (Shaped.toVal m.attributes),
    some (Shaped.toVal m.parameters), some (Shaped.toVal m.location),
    some (Shaped.toVal m.generated), ())
  ofVal_toVal m := by simp only [Shaped.orElse_some]

end NotNullLint
