import NotNullLint.Rule.Basic

/-!
# The not-null convention

Methods of types visible to scripts are called with `None` unless the attribute `NotNullAttribute`
forbids it, so the attribute has to agree with the declared nullability: a reference parameter
that is never null needs it, one that may be null must not have it. Parameters of value types, the
context parameter that the binder passes, and parameters without annotations are left alone.
-/

namespace NotNullLint
namespace NotNull

/-- The attribute of types that are visible to scripts. -/
def visibleType : String := "PythonTypeAttribute"

/-- The attribute of members that are hidden from scripts. -/
def hiddenMember : String := "PythonHiddenAttribute"

/-- The attribute that makes the binder refuse `None` … -/
def notNull : String := "NotNullAttribute"

/-- … and the module that defines it. -/
def notNullModule : String := "Microsoft.Scripting"

/-- The type of the parameter that the binder passes … -/
def contextType : String := "CodeContext"

/-- … and the module that defines it. -/
def contextModule : String := "IronPython"

/-- A parameter that is never null lacks the attribute. -/
def missing : Descriptor where
  code := "IPY01"
  name := "missing-not-null"
  title := "Parameter which is marked not nullable does not have the NotNullAttribute"
  template := "Parameter '\x7b0\x7d' does not have the NotNullAttribute"
  description := "Non-nullable reference type parameters should have the NotNullAttribute."
  category := "Usage"
  defaultSeverity := .warning
  enabledByDefault := true

/-- A parameter that may be null has the attribute. -/
def redundant : Descriptor where
  code := "IPY02"
  name := "redundant-not-null"
  title := "Parameter which is marked nullable has the NotNullAttribute"
  template := "Parameter '\x7b0\x7d' should not have the NotNullAttribute"
  description := "Nullable reference type parameters should not have the NotNullAttribute."
  category := "Usage"
  defaultSeverity := .warning
  enabledByDefault := true

/-- The member can be called from a script. -/
def appliesTo (m : Member) : Bool :=
  m.method.accessibility == .everyone && Attribute.named m.owner.attributes visibleType
    && !Attribute.named m.method.attributes hiddenMember

/-- Null can be passed to the parameter in principle, and it is not the context. -/
def concerns (p : Parameter) : Bool :=
  !p.type.isValueType && !p.type.isFrom contextType contextModule

/-- The diagnostic that a parameter violates. -/
def verdict (p : Parameter) : Option Descriptor :=
  if !concerns p then none
  else
    match p.nullability, Attribute.namedFrom p.attributes notNull notNullModule with
    | .notAnnotated, false => some missing
    | .annotated, true => some redundant
    | _, _ => none

/-- The finding about a parameter. -/
def finding (p : Parameter) : Option Violation :=
  (verdict p).map fun d => { d.violation p.location [p.name] with symbol := some p.name }

/-- What the rule says about a member. -/
def visit (m : Member) : Visit :=
  if appliesTo m then { reports := m.method.parameters.filterMap finding }
  else { notes := [⟨.trace, .convention, "Skipping " ++ m.displayName⟩] }

/-- The rule of the not-null convention. -/
def rule : Rule where
  name := "not-null-convention"
  descriptors := [missing, redundant]
  visit _ m := visit m

end NotNull
end NotNullLint
