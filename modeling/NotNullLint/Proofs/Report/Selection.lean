import NotNullLint.Proofs.Report.Order

/-!
Taking findings out of a report.

Sorting keeps findings that tie in their order, so it makes no difference whether findings are
taken out before a report is sorted or after.
-/

namespace NotNullLint

section Stable

variable {α : Type} {le : α → α → Bool}

/-- An element is sorted in front of all that it is not after. -/
lemma mergeSort_cons_eq (htrans : ∀ a b c, le a b = true → le b c = true → le a c = true)
    (htotal : ∀ a b, (le a b || le b a) = true) (a : α) (as : List α) :
    (a :: as).mergeSort le
      = ((as.mergeSort le).filter fun b => !le a b) ++ a :: (as.mergeSort le).filter (le a) := by
  obtain ⟨before, after, hcons, htail, hbefore⟩ := List.mergeSort_cons htrans htotal a as
  have hsorted := hcons ▸ List.pairwise_mergeSort htrans htotal (a :: as)
  have hafter : ∀ b ∈ after, le a b = true :=
    (List.pairwise_cons.1 (List.pairwise_append.1 hsorted).2.1).1
  have hnotBefore : ∀ b ∈ before, ¬le a b = true := fun b hb => by simpa using hbefore b hb
  rw [hcons, htail, List.filter_append, List.filter_append, List.filter_eq_self.2 hbefore,
    List.filter_eq_nil_iff.2 fun b hb => by simp [hafter b hb],
    List.filter_eq_nil_iff.2 hnotBefore, List.filter_eq_self.2 hafter, List.append_nil,
    List.nil_append]

/-- **Sorting is stable**: what is taken out of a list makes no difference to the order of the
rest. -/
theorem filter_mergeSort (htrans : ∀ a b c, le a b = true → le b c = true → le a c = true)
    (htotal : ∀ a b, (le a b || le b a) = true) (p : α → Bool) (as : List α) :
    (as.mergeSort le).filter p = (as.filter p).mergeSort le := by
  induction as with
  | nil => simp
  | cons a as ih =>
    by_cases ha : p a = true
    · rw [mergeSort_cons_eq htrans htotal, List.filter_append, List.filter_cons_of_pos ha,
        List.filter_comm p, List.filter_comm p, ih, List.filter_cons_of_pos ha,
        mergeSort_cons_eq htrans htotal]
    · obtain ⟨before, after, hcons, htail, -⟩ := List.mergeSort_cons htrans htotal a as
      rw [hcons, List.filter_append, List.filter_cons_of_neg ha, ← List.filter_append, ← htail, ih,
        List.filter_cons_of_neg ha]

end Stable

namespace Report

/-- The report with only those findings that are selected, and its methods counted or not. -/
def select (p : Violation → Bool) (counted : Bool) (r : Report) : Report where
  violations := r.violations.filter p
  filesChecked := r.filesChecked
  methodsChecked := if counted then r.methodsChecked else 0

variable (p : Violation → Bool) (counted : Bool)

lemma select_empty : ({} : Report).select p counted = {} := by
  cases counted <;> rfl

lemma select_append (r s : Report) :
    (r ++ s).select p counted = r.select p counted ++ s.select p counted := by
  change select p counted (append r s) = append (select p counted r) (select p counted s)
  cases counted <;> simp [select, append]

lemma select_sort (r : Report) : r.sort.select p counted = (r.select p counted).sort := by
  simp only [select, sort, filter_mergeSort Violation.notAfter_trans Violation.notAfter_total]

end Report
end NotNullLint
