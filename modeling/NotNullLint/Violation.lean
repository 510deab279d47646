import NotNullLint.Location
import NotNullLint.Severity

/-!
# Violations

A finding of a rule. Violations are ordered by location, then code, then symbol, a finding without
a symbol coming before one with it.
-/

namespace NotNullLint

/-- A finding of a rule. -/
structure Violation where
  code : String
  rule : String
  severity : Severity
  location : Location
  message : String
  /-- The simple name of what the finding is about. -/
  symbol : Option String := none
  deriving DecidableEq, Repr, Inhabited

namespace Violation

instance : Ord Violation :=
  ⟨compareLex (compareOn location) (compareLex (compareOn code) (compareOn symbol))⟩

instance : Std.TransOrd Violation :=
  inferInstanceAs (Std.TransCmp (compareLex (compareOn location)
    (compareLex (compareOn code) (compareOn symbol))))

/-- The first finding does not come after the second. -/
def notAfter (a b : Violation) : Bool := (compare a b).isLE

/-- Equality of findings, their files being taken as paths. -/
def same (a b : Violation) : Bool :=
  a.code == b.code && a.rule == b.rule && a.severity == b.severity
    && a.location.same b.location && a.message == b.message && a.symbol == b.symbol

/-- A finding on one line. -/
def line (v : Violation) : String :=
  v.location.text ++ ": " ++ v.severity.name ++ " [" ++ v.code ++ "] " ++ v.message

/-- The line that names the rule and the place of a finding. -/
def heading (v : Violation) : String := v.code ++ " " ++ v.rule ++ " at " ++ v.location.text

/-- A finding on two lines, each of them ended. -/
def format (v : Violation) : String :=
  v.heading ++ "\n  " ++ v.severity.name ++ ": " ++ v.message ++ "\n"

end Violation

/-- A finding as a note on a stretch of source text. -/
structure Diagnostic where
  message : String
  label : String
  help : String
  offset : UInt64
  length : UInt64
  deriving DecidableEq, Repr, Inhabited

/-- The note for a finding, labelled with its symbol or else with its rule. -/
def Violation.diagnostic (v : Violation) : Diagnostic where
  message := "[" ++ v.code ++ "] " ++ v.message
  label := v.symbol.getD v.rule
  help := "rule: " ++ v.rule ++ " (" ++ v.severity.name ++ ")"
  offset := v.location.offset
  length := v.location.length

instance : Shaped Violation where
  shape := .record "Violation"
    (.cons "code" .required (Shaped.shape String)
    (.cons "rule" .required (Shaped.shape String)
    (.cons "severity" .required (Shaped.shape Severity)
    (.cons "location" .required (Shaped.shape Location)
    (.cons "message" .required (Shaped.shape String)
    (.cons "symbol" .optional (.maybe (Shaped.shape String)) .nil))))))
  ofVal := fun (code, rule, severity, location, message, symbol, _) =>
    { code, rule, message
      severity := Shaped.ofVal severity
      location := Shaped.ofVal location
      symbol := Option.join symbol }
  toVal v := (v.code, v.rule, Shaped.toVal v.severity, Shaped.toVal v.location, v.message,
    v.symbol.map some, ())
  ofVal_toVal v := by
    obtain ⟨code, rule, severity, location, message, symbol⟩ := v
    simp only [Shaped.ofVal_toVal]
    cases symbol <;> rfl

end NotNullLint
