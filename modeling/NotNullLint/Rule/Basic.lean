import NotNullLint.Log
import NotNullLint.Rule.Descriptor
import NotNullLint.Symbol.Model

/-!
# Rules

A rule is a value: what it can report, which methods it wants to see, and a function from a method
to what it says about it.
-/

namespace NotNullLint

/-- Where a method comes from. -/
structure Context where
  modelPath : Path
  assembly : String
  deriving DecidableEq, Repr, Inhabited

/-- What a rule says about one method. -/
structure Visit where
  reports : List Violation := []
  /-- The rule asks to stop the analysis after the current model. -/
  cancels : Bool := false
  notes : List Log.Event := []
  deriving DecidableEq, Repr, Inhabited

/-- A rule that is shown one method at a time. -/
structure Rule where
  name : String
  descriptors : List Descriptor
  /-- The rule also wants to see generated code. -/
  seesGenerated : Bool := false
  /-- Methods may be shown in any order. -/
  concurrent : Bool := true
  visit : Context → Member → Visit

namespace Rule

/-- The rule is shown the member. -/
def admits (r : Rule) (m : Member) : Bool := r.seesGenerated || !m.isGenerated

/-- The members of a model that the rule is shown, in the order of declaration. -/
def eligible (r : Rule) (m : Model) : List Member := m.members.filter r.admits

end Rule
end NotNullLint
