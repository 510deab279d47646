import NotNullLint.Violation

/-!
# Reports

The findings of an analysis with the number of model files and of methods that were checked.
-/

namespace NotNullLint

/-- The result of an analysis. -/
structure Report where
  violations : List Violation := []
  filesChecked : UInt64 := 0
  methodsChecked : UInt64 := 0
  deriving DecidableEq, Repr, Inhabited

/-- How many findings there are of each severity. -/
structure Tally where
  errors : Nat := 0
  warnings : Nat := 0
  infos : Nat := 0
  deriving DecidableEq, Repr

namespace Tally

/-- Counts one more finding. -/
def add (t : Tally) : Severity → Tally
  | .error => { t with errors := t.errors + 1 }
  | .warning => { t with warnings := t.warnings + 1 }
  | .info => { t with infos := t.infos + 1 }

end Tally

namespace Report

/-- Some finding is at least as bad as `s`. -/
def hasAtLeast (r : Report) (s : Severity) : Bool := r.violations.any fun v => s ≤ v.severity

/-- The findings of one severity, in order. -/
def ofSeverity (r : Report) (s : Severity) : List Violation :=
  r.violations.filter fun v => v.severity = s

/-- The findings under one code, in order. -/
def ofCode (r : Report) (code : String) : List Violation :=
  r.violations.filter fun v => v.code = code

/-- The number of findings of each severity. -/
def tally (r : Report) : Tally := r.violations.foldl (fun t v => t.add v.severity) {}

/-- The line that closes a report. -/
def summary (r : Report) : String :=
  let t := r.tally
  "Found " ++ toString t.errors ++ " error(s), " ++ toString t.warnings ++ " warning(s), "
    ++ toString t.infos ++ " info(s) in " ++ toString r.methodsChecked ++ " method(s) across "
    ++ toString r.filesChecked ++ " file(s)"

/-- The report with its findings in order; those that tie keep theirs. -/
def sort (r : Report) : Report :=
  { r with violations := r.violations.mergeSort Violation.notAfter }

/-- The report with one more finding at the end. -/
def push (r : Report) (v : Violation) : Report := { r with violations := r.violations ++ [v] }

/-- Two reports as one; the counters are words of 64 bits. -/
def append (a b : Report) : Report where
  violations := a.violations ++ b.violations
  filesChecked := a.filesChecked + b.filesChecked
  methodsChecked := a.methodsChecked + b.methodsChecked

instance : Append Report := ⟨append⟩

@[simp] theorem violations_append (a b : Report) :
    (a ++ b).violations = a.violations ++ b.violations := rfl

@[simp] theorem filesChecked_append (a b : Report) :
    (a ++ b).filesChecked = a.filesChecked + b.filesChecked := rfl

@[simp] theorem methodsChecked_append (a b : Report) :
    (a ++ b).methodsChecked = a.methodsChecked + b.methodsChecked := rfl

@[simp] theorem empty_append (r : Report) : ({} : Report) ++ r = r := by
  change append {} r = r
  simp only [append, List.nil_append, UInt64.zero_add]

end Report

instance : Shaped Report where
  shape := .record "LintResult"
    (.cons "violations" .required (Shaped.shape (List Violation))
    (.cons "files_checked" .required .count
    (.cons "methods_checked" .required .count .nil)))
  ofVal := fun (violations, filesChecked, methodsChecked, _) =>
    { violations := Shaped.ofVal violations, filesChecked, methodsChecked }
  toVal r := (Shaped.toVal r.violations, r.filesChecked, r.methodsChecked, ())
  ofVal_toVal r := by simp only [Shaped.ofVal_toVal]

end NotNullLint
