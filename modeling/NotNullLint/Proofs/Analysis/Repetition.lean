import NotNullLint.Proofs.Analysis.Follow
import NotNullLint.Proofs.Analysis.Settlement

/-!
Runs that come to the same.

Of its configuration, a linter asks only what becomes of the diagnostics of its rules; of a tree, a
run asks only which files its search selects, and for their texts. So configurations that agree on
those diagnostics make runs end alike, and so do trees that show the search the same.
-/

namespace NotNullLint

/-! ### Configurations that agree on the diagnostics -/

/-- Both configurations report the same of these diagnostics, at the same severities. -/
def Config.AgreeOn (ds : List Descriptor) (c c' : Config) : Prop :=
  ∀ d ∈ ds, c'.isEnabled d = c.isEnabled d ∧ c'.severity d = c.severity d

namespace Linter

variable {l : Linter} {c : Config} {path : Path} {m : Model}

lemma active_of_agreeOn (h : l.config.AgreeOn l.descriptors c) :
    (l.withConfig c).active = l.active := by
  refine List.filter_congr fun r hr => ?_
  rw [Bool.eq_iff_iff, runs_iff, runs_iff]
  refine exists_congr fun d => and_congr_right fun hd => ?_
  have henabled := (h d (List.mem_flatMap.2 ⟨r, hr, hd⟩)).1
  rw [← henabled]
  rfl

lemma settle_of_agreeOn (h : l.config.AgreeOn l.descriptors c) (v : Violation) :
    (l.withConfig c).settle v = l.settle v := by
  have hd : (l.withConfig c).descriptor? v.code = l.descriptor? v.code := rfl
  have hc : (l.withConfig c).config = c := rfl
  simp only [settle, hd, hc]
  cases hfound : l.descriptor? v.code with
  | none => rfl
  | some d =>
    obtain ⟨henabled, hseverity⟩ := h d (List.mem_of_find?_eq_some hfound)
    simp only [henabled, hseverity]

lemma cancels_of_agreeOn (h : l.config.AgreeOn l.descriptors c) :
    (l.withConfig c).cancels path m = l.cancels path m := by
  rw [cancels, visits, shown, active_of_agreeOn h]
  rfl

/-- The report on a model hangs on what the configuration says of the diagnostics. -/
lemma check_of_agreeOn (h : l.config.AgreeOn l.descriptors c) :
    (l.withConfig c).check path m = l.check path m := by
  have hreports : (l.withConfig c).reports path m = l.reports path m := by
    rw [reports_eq_flatMap, reports_eq_flatMap, active_of_agreeOn h]
  have hchecked : (l.withConfig c).checked m = l.checked m := by
    rw [checked, checked, active_of_agreeOn h]
  rw [check, check, conclude, conclude, hreports, hchecked, funext (settle_of_agreeOn h)]

end Linter

/-! ### Trees that show a search the same -/

/-- The search selects the same files in both trees, and each has the same text in them, or can be
read in neither. -/
structure Search.SameIn (s : Search) (here : Place) (f g : Files) : Prop where
  files : s.files g = s.files f
  text : ∀ ps, s.files f = .ok ps → ∀ p ∈ ps,
    (g.read here p).toOption = (f.read here p).toOption

namespace Analyzer

variable {a b : Analyzer} {c : Config} {f g : Files} {here : Place} {p : Path}
  {load load' : Path → Except LoadError Model}

/-- Runs on one tree with configurations that agree. -/
lemma result_run_of_agreeOn (hlinter : b.linter = a.linter.withConfig c)
    (hagree : a.linter.config.AgreeOn a.linter.descriptors c) (hsearch : b.search = a.search)
    (hstrict : b.strict = a.strict) (f : Files) (here : Place) :
    (b.run f here).result = (a.run f here).result := by
  have hfollows : a.Follows b id :=
    { search := hsearch
      strict := hstrict
      cancels := fun _ _ => hlinter ▸ Linter.cancels_of_agreeOn hagree
      check := fun _ _ => hlinter ▸ Linter.check_of_agreeOn hagree
      empty := rfl
      append := fun _ _ => rfl
      sort := fun _ => rfl }
  rw [hfollows.result_run f here, Except.map_id, id]

/-- Two ways to load a file give the same model, or fail alike up to the cause. -/
def LoadAlike (load load' : Path → Except LoadError Model) (p : Path) : Prop :=
  load' p = load p ∨ ∃ e e', load p = .error (.unreadable p e) ∧ load' p = .error (.unreadable p e')

lemma loadAlike_of_read (h : (g.read here p).toOption = (f.read here p).toOption) :
    LoadAlike (Model.load f here) (Model.load g here) p := by
  unfold LoadAlike Model.load
  cases hf : f.read here p with
  | error e =>
    cases hg : g.read here p with
    | error e' => exact .inr ⟨e, e', rfl, rfl⟩
    | ok text => rw [hf, hg] at h; cases h
  | ok text =>
    have hg : g.read here p = .ok text := Except.toOption_eq_some_iff.1 (by rw [h, hf]; rfl)
    exact .inl (by rw [hg])

lemma toOption_checkAll_of_loadAlike {cancelled : Bool} {sum : Report} {ps : List Path}
    (h : ∀ p ∈ ps, LoadAlike load load' p) :
    (a.checkAll load' cancelled sum ps).result.toOption
      = (a.checkAll load cancelled sum ps).result.toOption := by
  induction ps generalizing cancelled sum with
  | nil => rfl
  | cons p ps ih =>
    have hrest (cancelled : Bool) (sum : Report) :
        (a.checkAll load' cancelled sum ps).result.toOption
          = (a.checkAll load cancelled sum ps).result.toOption :=
      ih fun q hq => h q (List.mem_cons_of_mem p hq)
    unfold checkAll
    cases cancelled with
    | true => rfl
    | false =>
      simp only [Bool.false_eq_true, if_false]
      obtain hsame | ⟨e, e', hload, hload'⟩ := h p List.mem_cons_self
      · rw [hsame]
        cases load p with
        | ok m => exact hrest _ _
        | error e =>
          cases e with
          | unreadable path cause => rfl
          | malformed path what =>
            cases a.strict with
            | true => rfl
            | false => exact hrest _ _
      · rw [hload, hload']
        rfl

/-- **Trees that show the search the same** make a run end with the same report, or with none. -/
theorem toOption_result_run (h : a.search.SameIn here f g) :
    (a.run g here).result.toOption = (a.run f here).result.toOption := by
  cases hfiles : a.search.files f with
  | error e =>
    have hfiles' : a.search.files g = .error e := h.files.trans hfiles
    simp only [run, hfiles, hfiles']
  | ok ps =>
    rw [result_run hfiles, result_run (h.files.trans hfiles), Except.toOption_map,
      Except.toOption_map,
      toOption_checkAll_of_loadAlike fun p hp => loadAlike_of_read (h.text ps hfiles p hp)]

end Analyzer
end NotNullLint
