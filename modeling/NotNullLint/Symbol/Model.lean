import NotNullLint.Symbol.Generated

/-!
# Symbol models

What a host reports of an assembly: its types with their methods. A rule is shown one method at a
time, together with the type that declares it.
-/

namespace NotNullLint

/-- A type and the methods it declares. -/
structure TypeDecl where
  name : String
  attributes : List Attribute := []
  methods : List Method := []
  deriving DecidableEq, Repr, Inhabited

/-- All that a host reports of one assembly. -/
structure Model where
  assembly : String := ""
  types : List TypeDecl := []
  deriving DecidableEq, Repr, Inhabited

/-- A method together with the type that declares it. -/
structure Member where
  owner : TypeDecl
  method : Method
  deriving DecidableEq, Repr, Inhabited

namespace Member

/-- The name of a member, as type and method. -/
def displayName (m : Member) : String := m.owner.name ++ "." ++ m.method.name

/-- The method is generated, or its whole type is. -/
def isGenerated (m : Member) : Bool :=
  m.method.isGenerated || Attribute.markGenerated m.owner.attributes

end Member

/-- The members of a type in the order of declaration. -/
def TypeDecl.members (t : TypeDecl) : List Member := t.methods.map fun m => ⟨t, m⟩

namespace Model

/-- The members of a model in the order of declaration. -/
def members (m : Model) : List Member := m.types.flatMap TypeDecl.members

/-- The number of methods. -/
def methodCount (m : Model) : Nat := m.types.foldr (fun t n => t.methods.length + n) 0

theorem length_members (m : Model) : m.members.length = m.methodCount := by
  obtain ⟨assembly, types⟩ := m
  simp only [members, methodCount]
  induction types with
  | nil => rfl
  | cons t ts ih => simp [TypeDecl.members, ih]

end Model

instance : Shaped TypeDecl where
  shape := .record "TypeSymbol"
    (.cons "name" .required (Shaped.shape String)
    (.cons "attributes" .optional (Shaped.shape (List Attribute))
    (.cons "methods" .optional (Shaped.shape (List Method)) .nil)))
  ofVal := fun (name, attributes, methods, _) =>
    { name, attributes := Shaped.orElse [] attributes, methods := Shaped.orElse [] methods }
  toVal t := (t.name, some (Shaped.toVal t.attributes), some (Shaped.toVal t.methods), ())
  ofVal_toVal t := by simp only [Shaped.orElse_some]

instance : Shaped Model where
  shape := .record "SymbolModel"
    (.cons "assembly" .optional (Shaped.shape String)
    (.cons "types" .optional (Shaped.shape (List TypeDecl)) .nil))
  ofVal := fun (assembly, types, _) =>
    { assembly := Shaped.orElse "" assembly, types := Shaped.orElse [] types }
  toVal m := (some (Shaped.toVal m.assembly), some (Shaped.toVal m.types), ())
  ofVal_toVal m := by simp only [Shaped.orElse_some]

end NotNullLint
