import NotNullLint.Shape.Shaped

/-!
# Severities

How bad a finding is, in a total order from a hint to an error.
-/

namespace NotNullLint

/-- How bad a finding is. -/
inductive Severity where
  | info
  | warning
  | error
  deriving DecidableEq, Repr, Inhabited

namespace Severity

/-- The place of a severity in the order. -/
def rank : Severity → Nat
  | info => 0
  | warning => 1
  | error => 2

instance : Ord Severity := ⟨compareOn rank⟩

instance : Std.TransOrd Severity := inferInstanceAs (Std.TransCmp (compareOn rank))

instance : LE Severity := ⟨fun a b => a.rank ≤ b.rank⟩

instance (a b : Severity) : Decidable (a ≤ b) := inferInstanceAs (Decidable (a.rank ≤ b.rank))

theorem le_iff {a b : Severity} : a ≤ b ↔ a.rank ≤ b.rank := Iff.rfl

theorem le_refl (a : Severity) : a ≤ a := Nat.le_refl a.rank

theorem le_trans {a b c : Severity} (hab : a ≤ b) (hbc : b ≤ c) : a ≤ c := Nat.le_trans hab hbc

theorem le_error (a : Severity) : a ≤ error := by cases a <;> decide

/-- The name of a severity. -/
def name : Severity → String
  | info => "info"
  | warning => "warning"
  | error => "error"

/-- All severities from the least. -/
def all : List Severity := [info, warning, error]

theorem mem_all (a : Severity) : a ∈ all := by cases a <;> decide

/-- The severity with a place in the order. -/
def ofIndex : Fin 3 → Severity
  | 0 => info
  | 1 => warning
  | 2 => error

/-- The place of a severity among the three. -/
def index : Severity → Fin 3
  | info => 0
  | warning => 1
  | error => 2

@[simp] theorem ofIndex_index (a : Severity) : ofIndex a.index = a := by cases a <;> rfl

end Severity

instance : Shaped Severity where
  shape := .choice (Severity.all.map Severity.name)
  ofVal := Severity.ofIndex
  toVal := Severity.index
  ofVal_toVal := Severity.ofIndex_index

end NotNullLint
