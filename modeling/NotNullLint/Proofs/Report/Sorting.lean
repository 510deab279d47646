import NotNullLint.Proofs.Report.Selection

/-!
Sorting a report as a whole, or its parts first.

A sorted report has its findings in order, and those that tie as they came. Only one list has both:
so a report that is put together from parts comes out the same whether or not the parts are sorted
before.
-/

namespace NotNullLint

/-! ### Sorted lists and their ties -/

section Stable

variable {α : Type} {le : α → α → Bool} {a b : α} {as bs : List α}

/-- Neither element has to come before the other one. -/
def tied (le : α → α → Bool) (a b : α) : Bool := le a b && le b a

lemma tied_iff : tied le a b = true ↔ le a b = true ∧ le b a = true := by
  rw [tied, Bool.and_eq_true]

lemma tied_self (htotal : ∀ a b, (le a b || le b a) = true) (a : α) : tied le a a = true := by
  simpa [tied] using htotal a a

/-- Sorting leaves elements that tie in the order in which they came. -/
theorem filter_tied_mergeSort (htrans : ∀ a b c, le a b = true → le b c = true → le a c = true)
    (htotal : ∀ a b, (le a b || le b a) = true) (a : α) (as : List α) :
    (as.mergeSort le).filter (tied le a) = as.filter (tied le a) := by
  have hties : (as.filter (tied le a)).Pairwise fun b c => le b c = true := by
    refine List.pairwise_of_forall_mem_list fun b hb c hc => ?_
    have hb := tied_iff.1 (List.mem_filter.1 hb).2
    have hc := tied_iff.1 (List.mem_filter.1 hc).2
    exact htrans b a c hb.2 hc.1
  rw [filter_mergeSort htrans htotal, List.mergeSort_of_pairwise hties]

/-- The first element of a sorted list comes after none of them. -/
lemma le_of_mem_cons (htotal : ∀ a b, (le a b || le b a) = true)
    (h : (a :: as).Pairwise fun a b => le a b = true) (hb : b ∈ a :: as) : le a b = true := by
  obtain rfl | hb := List.mem_cons.1 hb
  · exact (tied_iff.1 (tied_self htotal b)).1
  · exact (List.pairwise_cons.1 h).1 b hb

lemma mem_iff_of_filter_tied (htotal : ∀ a b, (le a b || le b a) = true)
    (h : as.filter (tied le a) = bs.filter (tied le a)) : a ∈ as ↔ a ∈ bs := by
  have hin (cs : List α) : a ∈ cs ↔ a ∈ cs.filter (tied le a) := by simp [tied_self htotal]
  rw [hin as, hin bs, h]

/-- **A sorted list is told by its ties**: by what it has of each of them, in order. -/
theorem eq_of_filter_tied (htotal : ∀ a b, (le a b || le b a) = true)
    (ha : as.Pairwise fun a b => le a b = true) (hb : bs.Pairwise fun a b => le a b = true)
    (h : ∀ a, as.filter (tied le a) = bs.filter (tied le a)) : as = bs := by
  have hmem (a : α) : a ∈ as ↔ a ∈ bs := mem_iff_of_filter_tied htotal (h a)
  induction as generalizing bs with
  | nil => exact (List.eq_nil_iff_forall_not_mem.2 fun b hb => nomatch (hmem b).2 hb).symm
  | cons a as ih =>
    cases bs with
    | nil => exact absurd ((hmem a).1 List.mem_cons_self) List.not_mem_nil
    | cons b bs =>
      -- either first element is in both lists, so they tie, and the first of their tie is the same
      have hab : tied le a b = true := tied_iff.2
        ⟨le_of_mem_cons htotal ha ((hmem b).2 List.mem_cons_self),
          le_of_mem_cons htotal hb ((hmem a).1 List.mem_cons_self)⟩
      have hfirst := h a
      rw [List.filter_cons_of_pos (tied_self htotal a), List.filter_cons_of_pos hab] at hfirst
      obtain rfl : a = b := (List.cons.inj hfirst).1
      have hrest (c : α) : as.filter (tied le c) = bs.filter (tied le c) := by
        have hc := h c
        rw [List.filter_cons, List.filter_cons] at hc
        split at hc
        · exact (List.cons.inj hc).2
        · exact hc
      rw [ih (List.pairwise_cons.1 ha).2 (List.pairwise_cons.1 hb).2 hrest fun c =>
        mem_iff_of_filter_tied htotal (hrest c)]

/-- Sorting the parts first makes no difference. -/
theorem mergeSort_append_mergeSort
    (htrans : ∀ a b c, le a b = true → le b c = true → le a c = true)
    (htotal : ∀ a b, (le a b || le b a) = true) (as bs : List α) :
    (as.mergeSort le ++ bs.mergeSort le).mergeSort le = (as ++ bs).mergeSort le := by
  refine eq_of_filter_tied htotal (List.pairwise_mergeSort htrans htotal _)
    (List.pairwise_mergeSort htrans htotal _) fun a => ?_
  simp only [filter_tied_mergeSort htrans htotal, List.filter_append]

end Stable

/-! ### The order of findings, part by part -/

/-- What the first path names comes before what the second one names: the first component in which
they differ decides, and a path comes before those that go on from it. -/
def Path.Before (p q : Path) : Prop :=
  List.Lex (fun c d => compare c d = .lt) p.components q.components

lemma compare_eq_lt_iff_lex {α : Type} [Ord α] [Std.LawfulEqOrd α] {as bs : List α} :
    compare as bs = .lt ↔ List.Lex (fun a b => compare a b = .lt) as bs := by
  induction as generalizing bs with
  | nil =>
    cases bs with
    | nil => exact ⟨nofun, nofun⟩
    | cons b bs => exact ⟨fun _ => .nil, fun _ => rfl⟩
  | cons a as ih =>
    cases bs with
    | nil => exact ⟨nofun, nofun⟩
    | cons b bs =>
      rw [List.cons_lex_cons_iff, ← ih, List.compare_eq_compareLex, List.compareLex_cons_cons,
        Ordering.then_eq_lt, Std.LawfulEqCmp.compare_eq_iff_eq]

lemma Path.compare_eq_lt_iff {p q : Path} : compare p q = .lt ↔ p.Before q := compare_eq_lt_iff_lex

lemma compare_string_eq_lt_iff {s t : String} : compare s t = .lt ↔ s < t :=
  compareOfLessAndEq_eq_lt

/-- Nothing comes before any text. -/
lemma compare_option_eq_lt_iff {s t : Option String} : compare s t = .lt ↔ s < t := by
  cases s with
  | none => cases t <;> simp [compare]
  | some s =>
    cases t with
    | none => simp [compare]
    | some t => exact compare_string_eq_lt_iff

namespace Violation

/-- The first finding comes before the second one: its file does, or else its line, column, offset or
length is less, or else its code, or else its symbol, none being less than any. -/
def Before (a b : Violation) : Prop :=
  a.location.file.Before b.location.file ∨ a.location.file.components = b.location.file.components ∧
  (a.location.line < b.location.line ∨ a.location.line = b.location.line ∧
  (a.location.column < b.location.column ∨ a.location.column = b.location.column ∧
  (a.location.offset < b.location.offset ∨ a.location.offset = b.location.offset ∧
  (a.location.length < b.location.length ∨ a.location.length = b.location.length ∧
  (a.code < b.code ∨ a.code = b.code ∧ a.symbol < b.symbol)))))

lemma compare_eq_lt_iff {a b : Violation} : compare a b = .lt ↔ a.Before b := by
  change ((compare a.location.file b.location.file).then
    ((compare a.location.line b.location.line).then
    ((compare a.location.column b.location.column).then
    ((compare a.location.offset b.location.offset).then
    (compare a.location.length b.location.length))))).then
    ((compare a.code b.code).then (compare a.symbol b.symbol)) = .lt ↔ _
  simp only [Ordering.then_assoc, Ordering.then_eq_lt, Path.compare_eq_lt_iff, Path.compare_eq_iff,
    Std.compare_eq_lt, Std.LawfulEqCmp.compare_eq_iff_eq, compare_string_eq_lt_iff,
    compare_option_eq_lt_iff, Before]

lemma notAfter_iff {a b : Violation} : a.notAfter b = true ↔ ¬b.Before a := by
  rw [← compare_eq_lt_iff, notAfter, ← Bool.not_eq_false, Ordering.isLE_eq_false,
    Std.OrientedCmp.gt_iff_lt]

/-- Findings tie when their files name the same and all else that counts is equal. -/
lemma tied_notAfter_iff {a b : Violation} :
    tied notAfter a b = true
      ↔ a.location.file.components = b.location.file.components
        ∧ a.location.line = b.location.line ∧ a.location.column = b.location.column
        ∧ a.location.offset = b.location.offset ∧ a.location.length = b.location.length
        ∧ a.code = b.code ∧ a.symbol = b.symbol := by
  have htie : tied notAfter a b = true ↔ compare a b = .eq := by
    rw [tied_iff]
    constructor
    · rintro ⟨hab, hba⟩
      exact Std.OrientedCmp.isLE_antisymm hab hba
    · intro h
      exact ⟨Ordering.isLE_of_eq_eq h, Ordering.isLE_of_eq_eq (Std.OrientedCmp.eq_symm h)⟩
  rw [htie, compare_eq_iff, Location.same, Path.same]
  simp only [Bool.and_eq_true, beq_iff_eq, and_assoc]

end Violation

/-! ### Sorting reports -/

namespace Report

lemma sort_append_sort (r s : Report) : (r.sort ++ s.sort).sort = (r ++ s).sort := by
  change sort (append r.sort s.sort) = sort (append r s)
  simp only [sort, append,
    mergeSort_append_mergeSort Violation.notAfter_trans Violation.notAfter_total]

lemma sort_sort (r : Report) : r.sort.sort = r.sort := by
  have hsorted : r.sort.violations.mergeSort Violation.notAfter = r.sort.violations :=
    List.mergeSort_of_pairwise r.pairwise_sort
  rw [sort, hsorted]

/-- Reports put together, one after the other. -/
def together : List Report → Report
  | [] => {}
  | r :: rs => r ++ together rs

/-- However many parts a report has, they may be sorted first. -/
lemma sort_together (rs : List Report) :
    (together (rs.map sort)).sort = (together rs).sort := by
  induction rs with
  | nil => rfl
  | cons r rs ih =>
    calc (r.sort ++ together (rs.map sort)).sort
        = (r.sort.sort ++ (together (rs.map sort)).sort).sort := (sort_append_sort _ _).symm
      _ = (r.sort ++ (together rs).sort).sort := by rw [sort_sort, ih]
      _ = (r ++ together rs).sort := sort_append_sort _ _

/-- **The laws of sorting.** Findings are in a total order up to ties, which is by file, line, column,
offset, length, code and symbol, one after the other, and those tie that agree in all of them, their
files being taken as paths. A sorted report has the same findings in that order, those that tie as
they came. So the parts of a report may be sorted before they are put together. -/
theorem laws_of_sort :
    ((∀ a : Violation, a.notAfter a = true)
      ∧ (∀ a b c : Violation, a.notAfter b = true → b.notAfter c = true → a.notAfter c = true)
      ∧ ∀ a b : Violation, a.notAfter b = true ∨ b.notAfter a = true)
    ∧ (∀ a b : Violation, a.notAfter b = true ↔ ¬b.Before a)
    ∧ (∀ a b : Violation, (a.notAfter b = true ∧ b.notAfter a = true)
      ↔ a.location.file.components = b.location.file.components
        ∧ a.location.line = b.location.line ∧ a.location.column = b.location.column
        ∧ a.location.offset = b.location.offset ∧ a.location.length = b.location.length
        ∧ a.code = b.code ∧ a.symbol = b.symbol)
    ∧ (∀ r : Report, r.sort.violations.Perm r.violations
      ∧ (r.sort.violations.Pairwise fun a b => a.notAfter b = true)
      ∧ ∀ v, r.sort.violations.filter (tied Violation.notAfter v)
        = r.violations.filter (tied Violation.notAfter v))
    ∧ (∀ r s : Report, (r.sort ++ s.sort).sort = (r ++ s).sort)
    ∧ ∀ rs : List Report, (together (rs.map sort)).sort = (together rs).sort := by
  refine ⟨⟨fun a => ?_, Violation.notAfter_trans, fun a b => ?_⟩, fun a b => Violation.notAfter_iff,
    fun a b => ?_, fun r => ⟨r.perm_sort, r.pairwise_sort, fun v => ?_⟩, sort_append_sort,
    sort_together⟩
  · exact (tied_iff.1 (tied_self Violation.notAfter_total a)).1
  · exact Bool.or_eq_true _ _ ▸ Violation.notAfter_total a b
  · rw [← tied_iff, Violation.tied_notAfter_iff]
  · exact filter_tied_mergeSort Violation.notAfter_trans Violation.notAfter_total v r.violations

/-- A finding in a file, with a symbol or without one. -/
def findingIn (file : String) (symbol : Option String) : Violation :=
  ⟨"IPY01", "missing-not-null", .warning, ⟨⟨file⟩, 3, 7, 0, 0⟩, file, symbol⟩

/-- Findings in one file tie however its path is spelled, and come before the one with a symbol. -/
theorem laws_of_sort_respelled :
    ((findingIn "a//b.cs" none).notAfter (findingIn "a/./b.cs" none) = true
      ∧ (findingIn "a/./b.cs" none).notAfter (findingIn "a//b.cs" none) = true)
    ∧ (findingIn "a/./b.cs" none).notAfter (findingIn "a/b.cs" (some "")) = true
    ∧ (findingIn "a//b.cs" none).notAfter (findingIn "a/b.cs" (some "")) = true
    ∧ ({ violations := [findingIn "a/b.cs" (some ""), findingIn "a/./b.cs" none] : Report }.sort
        ++ { violations := [findingIn "a//b.cs" none] : Report }.sort).sort
      = ({ violations := [findingIn "a/b.cs" (some ""), findingIn "a/./b.cs" none] : Report }
        ++ { violations := [findingIn "a//b.cs" none] : Report }).sort := by
  obtain ⟨⟨-, htrans, -⟩, -, hties, -, hparts, -⟩ := laws_of_sort
  have htie := (hties (findingIn "a//b.cs" none) (findingIn "a/./b.cs" none)).2 (by decide +kernel)
  have hsymbol : (findingIn "a/./b.cs" none).notAfter (findingIn "a/b.cs" (some "")) = true := by
    decide +kernel
  exact ⟨htie, hsymbol, htrans _ _ _ htie.1 hsymbol, hparts _ _⟩

end Report
end NotNullLint
