import Mathlib.Data.List.Forall2
import NotNullLint.Report

/-!
The order of findings and what sorting makes of a report.

Findings that tie need not be equal, since the order leaves out message, rule and severity and
takes files as paths. So a sorted list is determined by its elements only up to ties: two
arrangements of the same findings, once sorted, tie place by place.
-/

namespace NotNullLint

/-! ### Sorted lists up to ties -/

section Ties

variable {α : Type} [Ord α] [Std.TransOrd α]

lemma isLE_total (a b : α) : ((compare a b).isLE || (compare b a).isLE) = true := by
  have hswap : compare b a = (compare a b).swap := Std.OrientedCmp.eq_swap
  rw [hswap]
  cases compare a b <;> rfl

/-- Elements that tie are taken as one. -/
def tieSetoid (α : Type) [Ord α] [Std.TransOrd α] : Setoid α where
  r a b := compare a b = .eq
  iseqv := ⟨fun _ => Std.ReflCmp.compare_self, Std.OrientedCmp.eq_symm, Std.TransCmp.eq_trans⟩

/-- The order of elements, read off what ties with them. -/
def tieLE : Quotient (tieSetoid α) → Quotient (tieSetoid α) → Prop :=
  Quotient.lift₂ (fun a b => (compare a b).isLE = true) fun a b a' b' ha hb => by
    have hl : compare a b = compare a' b := Std.TransCmp.congr_left ha
    have hr : compare a' b = compare a' b' := Std.TransCmp.congr_right hb
    rw [hl, hr]

lemma tieLE_antisymm (x y : Quotient (tieSetoid α)) (hxy : tieLE x y) (hyx : tieLE y x) :
    x = y := by
  induction x using Quotient.inductionOn with | _ a
  induction y using Quotient.inductionOn with | _ b
  exact Quotient.sound (Std.OrientedCmp.isLE_antisymm hxy hyx)

/-- **Sorting is canonical up to ties.** -/
theorem forall₂_tie_of_perm {as bs : List α} (h : as.Perm bs)
    (ha : as.Pairwise fun a b => (compare a b).isLE = true)
    (hb : bs.Pairwise fun a b => (compare a b).isLE = true) :
    List.Forall₂ (fun a b => compare a b = .eq) as bs := by
  have hmap : as.map (Quotient.mk (tieSetoid α)) = bs.map (Quotient.mk (tieSetoid α)) :=
    List.Perm.eq_of_pairwise (fun x y _ _ => tieLE_antisymm x y) (List.pairwise_map.2 ha)
      (List.pairwise_map.2 hb) (h.map _)
  rw [← List.forall₂_eq_eq_eq, List.forall₂_map_left_iff, List.forall₂_map_right_iff] at hmap
  exact hmap.imp fun _ _ hab => Quotient.exact hab

end Ties

/-! ### The order of findings -/

namespace Location

lemma compare_eq_iff {a b : Location} : compare a b = .eq ↔ a.same b = true := by
  change (compare a.file b.file).then ((compare a.line b.line).then
    ((compare a.column b.column).then ((compare a.offset b.offset).then
      (compare a.length b.length)))) = .eq ↔ _
  simp only [Ordering.then_eq_eq, Path.compare_eq_iff, Std.LawfulEqCmp.compare_eq_iff_eq, same,
    Path.same, Bool.and_eq_true, beq_iff_eq, and_assoc]

end Location

namespace Violation

/-- Findings tie when they are about the same place, code and symbol. -/
lemma compare_eq_iff {a b : Violation} :
    compare a b = .eq
      ↔ a.location.same b.location = true ∧ a.code = b.code ∧ a.symbol = b.symbol := by
  change (compare a.location b.location).then ((compare a.code b.code).then
    (compare a.symbol b.symbol)) = .eq ↔ _
  simp only [Ordering.then_eq_eq, Location.compare_eq_iff, Std.LawfulEqCmp.compare_eq_iff_eq]

lemma notAfter_trans (a b c : Violation) (hab : a.notAfter b = true) (hbc : b.notAfter c = true) :
    a.notAfter c = true :=
  Std.TransCmp.isLE_trans hab hbc

lemma notAfter_total (a b : Violation) : (a.notAfter b || b.notAfter a) = true := isLE_total a b

end Violation

/-! ### Sorted reports -/

namespace Report

lemma perm_sort (r : Report) : r.sort.violations.Perm r.violations := List.mergeSort_perm _ _

lemma pairwise_sort (r : Report) :
    r.sort.violations.Pairwise fun a b => a.notAfter b = true :=
  List.pairwise_mergeSort Violation.notAfter_trans Violation.notAfter_total _

/-- Reports of the same findings tie place by place once they are sorted. -/
lemma forall₂_tie_sort {r s : Report} (h : r.violations.Perm s.violations) :
    List.Forall₂ (fun a b => compare a b = .eq) r.sort.violations s.sort.violations :=
  forall₂_tie_of_perm ((r.perm_sort.trans h).trans s.perm_sort.symm) r.pairwise_sort s.pairwise_sort

end Report
end NotNullLint
