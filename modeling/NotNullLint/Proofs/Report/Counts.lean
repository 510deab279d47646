import Mathlib.Tactic.Lemma
import NotNullLint.Proofs.Report.Order

/-!
Counts and selections of a report.

The counters of a tally, the selections by severity and the test against a threshold are three
scans of the same findings. The selections take the findings apart, each into the one of its
severity; the counters are the lengths of the selections, and the test asks whether one of those
from the threshold on has a finding.
-/

namespace NotNullLint

namespace Tally

/-- The counters of two tallies together. -/
def plus (a b : Tally) : Tally where
  errors := a.errors + b.errors
  warnings := a.warnings + b.warnings
  infos := a.infos + b.infos

/-- One more finding of the severity. -/
lemma add_eq_plus (t : Tally) (s : Severity) : t.add s = t.plus (({} : Tally).add s) := by
  cases s <;> simp [add, plus]

lemma plus_assoc (a b c : Tally) : (a.plus b).plus c = a.plus (b.plus c) := by
  simp [plus, Nat.add_assoc]

@[simp] lemma plus_empty (t : Tally) : t.plus {} = t := by simp [plus]

end Tally

namespace Report

lemma mem_ofSeverity {r : Report} {s : Severity} {v : Violation} :
    v ∈ r.ofSeverity s ↔ v ∈ r.violations ∧ v.severity = s := by
  simp [ofSeverity]

/-- The test against a threshold is one of the selections from there on. -/
lemma hasAtLeast_iff {r : Report} {s : Severity} :
    r.hasAtLeast s = true ↔ ∃ v ∈ r.violations, s ≤ v.severity := by
  simp [hasAtLeast]

lemma hasAtLeast_iff_ofSeverity {r : Report} {s : Severity} :
    r.hasAtLeast s = true ↔ ∃ t, s ≤ t ∧ r.ofSeverity t ≠ [] := by
  rw [hasAtLeast_iff]
  constructor
  · rintro ⟨v, hv, hs⟩
    exact ⟨v.severity, hs, List.ne_nil_of_mem (mem_ofSeverity.2 ⟨hv, rfl⟩)⟩
  · rintro ⟨t, hs, hne⟩
    obtain ⟨v, hv⟩ := List.exists_mem_of_ne_nil _ hne
    obtain ⟨hmem, rfl⟩ := mem_ofSeverity.1 hv
    exact ⟨v, hmem, hs⟩

/-- A lower threshold is reached at least as soon. -/
lemma hasAtLeast_mono {r : Report} {s t : Severity} (hst : s ≤ t) (h : r.hasAtLeast t = true) :
    r.hasAtLeast s = true := by
  obtain ⟨v, hv, ht⟩ := hasAtLeast_iff.1 h
  exact hasAtLeast_iff.2 ⟨v, hv, Severity.le_trans hst ht⟩

/-- Each finding is in the selection of its severity, and in no other. -/
lemma perm_ofSeverity (r : Report) :
    (r.ofSeverity .error ++ r.ofSeverity .warning ++ r.ofSeverity .info).Perm r.violations := by
  unfold ofSeverity
  induction r.violations with
  | nil => exact .nil
  | cons v vs ih =>
    cases hv : v.severity with
    | error => simpa [hv] using ih
    | warning =>
      simp only [List.filter_cons, hv, reduceCtorEq, decide_false, decide_true, if_true,
        Bool.false_eq_true, if_false, List.append_assoc, List.cons_append]
      exact List.perm_middle.trans ((List.append_assoc .. ▸ ih).cons v)
    | info =>
      simp only [List.filter_cons, hv, reduceCtorEq, decide_false, decide_true, if_true,
        Bool.false_eq_true, if_false]
      exact List.perm_middle.trans (ih.cons v)

/-! ### Counting -/

lemma foldl_add (t : Tally) (vs : List Violation) :
    vs.foldl (fun t v => t.add v.severity) t
      = t.plus (vs.foldl (fun t v => t.add v.severity) {}) := by
  induction vs generalizing t with
  | nil => exact (Tally.plus_empty t).symm
  | cons v vs ih =>
    rw [List.foldl_cons, List.foldl_cons, ih, ih (Tally.add {} v.severity), Tally.add_eq_plus t,
      Tally.plus_assoc]

/-- Counters add up. -/
lemma tally_append (r s : Report) : (r ++ s).tally = r.tally.plus s.tally := by
  rw [tally, violations_append, List.foldl_append, foldl_add]
  rfl

/-- The counters are the lengths of the selections. -/
lemma tally_eq (r : Report) :
    r.tally = ⟨(r.ofSeverity .error).length, (r.ofSeverity .warning).length,
      (r.ofSeverity .info).length⟩ := by
  unfold tally ofSeverity
  induction r.violations with
  | nil => rfl
  | cons v vs ih =>
    rw [List.foldl_cons, foldl_add, ih]
    cases hv : v.severity <;>
      simp [Tally.add, Tally.plus, hv, Nat.add_comm]

/-- Sorting changes no counter. -/
lemma tally_sort (r : Report) : r.sort.tally = r.tally := by
  have hlength (s : Severity) : (r.sort.ofSeverity s).length = (r.ofSeverity s).length :=
    (r.perm_sort.filter _).length_eq
  rw [tally_eq, tally_eq, hlength, hlength, hlength]

end Report
end NotNullLint
