import NotNullLint.Proofs.Analysis.Isolation

/-!
One more exclude pattern.

Exclude patterns have no say in what is found, only in what of it is kept, so one more of them takes
away exactly what it excludes. The default patterns are in force only as long as there are no
others: with the first one that is given, what they excluded comes back.
-/

namespace NotNullLint
namespace Search

variable {s t : Search} {f : Files} {p q : Path} {ps qs : List Path}

/-! ### What is kept of the paths found -/

/-- Of paths that name the same, one stays. -/
lemma exists_same_of_mem_dedup (hp : p ∈ ps) : ∃ q ∈ dedup ps, q.same p = true := by
  induction ps with
  | nil => cases hp
  | cons r rs ih =>
    unfold dedup
    rcases List.mem_cons.1 hp with rfl | hp
    · split
      · exact ⟨p, List.mem_cons_self, Path.same_self p⟩
      · split <;> exact ⟨p, List.mem_cons_self, Path.same_self p⟩
    · obtain ⟨q, hq, hsame⟩ := ih hp
      split
      · rename_i hnone
        rw [hnone] at hq
        cases hq
      · rename_i first others hfirst
        rw [hfirst] at hq
        split
        · rename_i hr
          rcases List.mem_cons.1 hq with rfl | hq
          · -- the first of the others gives way to an equal path
            have heq : r.components = p.components :=
              (Path.same_iff.1 hr).trans (Path.same_iff.1 hsame)
            exact ⟨r, List.mem_cons_self, Path.same_iff.2 heq⟩
          · exact ⟨q, List.mem_cons_of_mem r hq, hsame⟩
        · exact ⟨q, List.mem_cons_of_mem r hq, hsame⟩

lemma exists_same_of_mem_arrange (hp : p ∈ ps) : ∃ q ∈ arrange ps, q.same p = true :=
  exists_same_of_mem_dedup (List.mem_mergeSort.2 hp)

/-- The searches look in the same place for the same. -/
structure Alike (s t : Search) : Prop where
  root : s.root = t.root
  includes : s.includes = t.includes

namespace Alike

lemma symm (h : s.Alike t) : t.Alike s := ⟨h.root.symm, h.includes.symm⟩

lemma found (h : s.Alike t) : s.found f = t.found f := by
  funext pattern
  rw [Search.found, Search.found, fromRoot, fromRoot, h.root]

lemma seen (h : s.Alike t) (p : Path) : s.seen p = t.seen p := by
  rw [Search.seen, Search.seen, h.root]

/-- Alike searches fail alike, and else differ only in what they keep of the same paths. -/
lemma files (h : s.Alike t) (f : Files) :
    (∃ e, s.files f = .error e ∧ t.files f = .error e)
      ∨ ∃ found : List Path, s.files f = .ok (arrange (found.filter fun p => !s.excluded p))
        ∧ t.files f = .ok (arrange (found.filter fun p => !t.excluded p)) := by
  rw [Search.files, Search.files, ← h.found, ← h.includes]
  cases s.includes.mapM (s.found f) with
  | error e => exact .inl ⟨e, rfl, rfl⟩
  | ok lists => exact .inr ⟨lists.flatten, rfl, rfl⟩

/-- What one search discovers, the other one discovers as well if it does not exclude it. -/
lemma exists_same (h : s.Alike t) (hs : s.files f = .ok ps) (ht : t.files f = .ok qs)
    (hq : q ∈ qs) (hkept : s.excluded q = false) :
    ∃ p ∈ ps, p.same q = true ∧ p.destination [] = q.destination [] := by
  obtain ⟨e, he, -⟩ | ⟨found, hs', ht'⟩ := h.files f
  · rw [hs] at he
    cases he
  · rw [hs] at hs'
    rw [ht] at ht'
    cases hs'
    cases ht'
    have hfound : q ∈ found := List.mem_of_mem_filter (mem_of_mem_arrange hq)
    have hin : q ∈ found.filter fun p => !s.excluded p :=
      List.mem_filter.2 ⟨hfound, by simp [hkept]⟩
    obtain ⟨p, hp, hsame⟩ := exists_same_of_mem_arrange hin
    refine ⟨p, hp, hsame, ?_⟩
    exact Path.destination_of_components (isAbsolute_of_mem_files hs hp)
      (isAbsolute_of_mem_files ht hq) (Path.same_iff.1 hsame) []

end Alike

end Search

namespace Analyzer

open Search

variable {here : Place} {c : Config} {root : Option Path} {includes E : List String}
  {pattern : String} {p : Path}

lemma alike_searchOf (here : Place) (c : Config) (root : Option Path)
    (includes E E' : List String) :
    (searchOf here c root includes E).Alike (searchOf here c root includes E') := ⟨rfl, rfl⟩

/-- The default excludes count only if nothing else is excluded. -/
lemma excluded_searchOf (p : Path) : (searchOf here c root includes E).excluded p
    = (if E = [] ∧ c.scope.excludes = [] then defaultExcludes else E ++ c.scope.excludes).any
      (patternExcludes ((searchOf here c root includes E).seen p)) := by
  have hempty : (E ++ c.scope.excludes).isEmpty = true ↔ E = [] ∧ c.scope.excludes = [] := by
    rw [List.isEmpty_iff, List.append_eq_nil_iff]
  simp only [excluded, searchOf, hempty]

/-- With one more pattern, what it excludes is excluded, and what all others exclude. -/
lemma excluded_oneMore (p : Path) : (searchOf here c root includes (E ++ [pattern])).excluded p
    = (patternExcludes ((searchOf here c root includes E).seen p) pattern
      || (E ++ c.scope.excludes).any
        (patternExcludes ((searchOf here c root includes E).seen p))) := by
  have halike := alike_searchOf here c root includes (E ++ [pattern]) E
  rw [excluded_searchOf, if_neg (by simp), halike.seen]
  simp [Bool.or_left_comm]

/-- **One more exclude pattern.** It takes away what it excludes, and nothing else. What it adds, if
it is the only one, is what the default patterns exclude that are in force without it. -/
theorem files_oneMoreExclude (f : Files) (here : Place) (c : Config) (root : Option Path)
    (includes E : List String) (pattern : String) :
    let s := searchOf here c root includes E
    let t := searchOf here c root includes (E ++ [pattern])
    (∃ e, s.files f = .error e ∧ t.files f = .error e)
      ∨ ∃ ps qs, s.files f = .ok ps ∧ t.files f = .ok qs
        ∧ (∀ q ∈ qs, (∃ p ∈ ps, p.same q = true ∧ p.destination [] = q.destination [])
          ∨ E = [] ∧ c.scope.excludes = []
            ∧ ∃ d ∈ defaultExcludes, patternExcludes (s.seen q) d = true)
        ∧ (∀ p ∈ ps, patternExcludes (s.seen p) pattern = false →
          ∃ q ∈ qs, q.same p = true ∧ q.destination [] = p.destination []) := by
  intro s t
  have halike : s.Alike t := alike_searchOf here c root includes E (E ++ [pattern])
  obtain herror | ⟨found, hs, ht⟩ := halike.files f
  · exact .inl herror
  refine .inr ⟨_, _, hs, ht, fun q hq => ?_, fun p hp hkept => ?_⟩
  · cases hexcluded : s.excluded q with
    | false => exact .inl (halike.exists_same hs ht hq hexcluded)
    | true =>
      obtain ⟨-, hkept⟩ := found_of_mem_files ht hq
      rw [excluded_oneMore, Bool.or_eq_false_iff] at hkept
      rw [excluded_searchOf] at hexcluded
      split at hexcluded
      · rename_i hnone
        exact .inr ⟨hnone.1, hnone.2, by simpa using hexcluded⟩
      · rw [hkept.2] at hexcluded
        cases hexcluded
  · refine halike.symm.exists_same ht hs hp ?_
    obtain ⟨-, hp'⟩ := found_of_mem_files hs hp
    rw [excluded_searchOf] at hp'
    rw [excluded_oneMore, hkept, Bool.false_or]
    split at hp'
    · rename_i hnone
      simp [hnone.1, hnone.2]
    · exact hp'

/-- A model in a folder that is excluded by default. -/
def builtModel : Files where
  entries := [(["r"], .folder), (["r", "target"], .folder),
    (["r", "target", "m.symbols.json"], .file "\x7b\x7d".toUTF8)]
  sorted := by decide
  named := by decide
  closed := by decide

/-- An exclude pattern brings a file back that it has nothing to do with. -/
theorem files_firstExclude :
    (searchOf [] {} (some ⟨"/r"⟩) [] []).files builtModel = .ok []
      ∧ (searchOf [] {} (some ⟨"/r"⟩) [] ([] ++ ["**/old/**"])).files builtModel
        = .ok [⟨"/r/target/m.symbols.json"⟩] := by
  have hfound : (searchOf [] {} (some ⟨"/r"⟩) [] []).found builtModel "**/*.symbols.json"
      = .ok [⟨"/r/target/m.symbols.json"⟩] :=
    Except.toOption_eq_some_iff.1 (by decide +kernel)
  have hfound' : (searchOf [] {} (some ⟨"/r"⟩) [] ["**/old/**"]).found builtModel
      "**/*.symbols.json" = .ok [⟨"/r/target/m.symbols.json"⟩] := by
    rw [← hfound, (alike_searchOf [] {} (some ⟨"/r"⟩) [] ["**/old/**"] []).found]
  have hhidden : (searchOf [] {} (some ⟨"/r"⟩) [] []).excluded
      ⟨"/r/target/m.symbols.json"⟩ = true := by
    decide +kernel
  have hkept : (searchOf [] {} (some ⟨"/r"⟩) [] ["**/old/**"]).excluded
      ⟨"/r/target/m.symbols.json"⟩ = false := by
    decide +kernel
  constructor
  · rw [files_of_found rfl hfound (List.pairwise_singleton _ _)]
    simp [hhidden]
  · rw [List.nil_append, files_of_found rfl hfound' (List.pairwise_singleton _ _)]
    simp [hkept]

end Analyzer
end NotNullLint
