import NotNullLint.Proofs.Analysis.ModelFiles

/-!
Two runs over the same files.

If one linter says of every model what can be read off what another says, and putting reports
together and sorting them makes no difference to that reading, then it does so of whole runs, and
the runs fail alike.
-/

namespace NotNullLint.Analyzer

/-- The second analyzer looks where the first one looks and stops where that one stops, and its
report on a model is read off the other report on it. -/
structure Follows (a b : Analyzer) (g : Report → Report) : Prop where
  search : b.search = a.search
  strict : b.strict = a.strict
  cancels : ∀ p m, b.linter.cancels p m = a.linter.cancels p m
  check : ∀ p m, b.linter.check p m = g (a.linter.check p m)
  empty : g {} = {}
  append : ∀ r s, g (r ++ s) = g r ++ g s
  sort : ∀ r, g r.sort = (g r).sort

variable {a b : Analyzer} {g : Report → Report}

/-- The sums so far keep step from file to file. -/
lemma Follows.result_checkAll (h : Follows a b g) (load : Path → Except LoadError Model)
    (cancelled : Bool) (sum : Report) (ps : List Path) :
    (b.checkAll load cancelled (g sum) ps).result
      = (a.checkAll load cancelled sum ps).result.map g := by
  induction ps generalizing cancelled sum with
  | nil => rfl
  | cons p ps ih =>
    unfold checkAll
    cases cancelled with
    | true => rfl
    | false =>
      simp only [Bool.false_eq_true, if_false, Outcome.after]
      cases load p with
      | ok m =>
        have hsum : g sum ++ b.linter.check p m = g (sum ++ a.linter.check p m) := by
          rw [h.append, h.check]
        simp only [h.cancels, hsum]
        exact ih _ _
      | error e =>
        cases e with
        | unreadable path cause => rfl
        | malformed path what =>
          simp only [h.strict]
          cases a.strict with
          | true => rfl
          | false => exact ih _ _

/-- **Runs keep step.** The report of the one run is read off that of the other, and if either of
them fails, so does the other, for the same reason. -/
theorem Follows.result_run (h : Follows a b g) (f : Files) (here : Place) :
    (b.run f here).result = (a.run f here).result.map g := by
  cases hfiles : a.search.files f with
  | error e => simp only [run, h.search, hfiles, Except.map]
  | ok ps =>
    have hfilesB : b.search.files f = .ok ps := h.search ▸ hfiles
    have hall := h.result_checkAll (Model.load f here) false {} ps
    rw [h.empty] at hall
    rw [Analyzer.result_run hfiles, Analyzer.result_run hfilesB, hall]
    cases (a.checkAll (Model.load f here) false {} ps).result with
    | error e => rfl
    | ok r => exact congrArg Except.ok (h.sort r).symm

end NotNullLint.Analyzer
