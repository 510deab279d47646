import NotNullLint.Proofs.Analysis.Repetition
import NotNullLint.Proofs.CommandLine.Narrowing
import NotNullLint.Proofs.NotNull.Inputs
import NotNullLint.Proofs.Report.Counts

/-!
How a check is judged.

The exit code, the counts and the printed report of a check are told from one list of findings. A
check that does not fail prints its report and ends with the exit code one exactly if some finding
in it reaches the threshold; so a lower threshold lets no check pass that did not pass before, and
the form that is asked for has no part in it.
-/

namespace NotNullLint

lemma Config.threshold_narrow (c : Config) (rules : Option String) :
    (c.narrow rules).threshold = c.threshold := by
  cases rules with
  | none => rfl
  | some list =>
    rw [narrow_eq]
    rfl

/-- Narrowing and another threshold do not get into each other's way. -/
lemma Config.narrow_failOn (c : Config) (rules : Option String) (s : Option Severity) :
    ({ c with failOn := s } : Config).narrow rules = { c.narrow rules with failOn := s } := by
  cases rules with
  | none => rfl
  | some list => rw [narrow_eq, narrow_eq]

/-- A run that finds one model. -/
lemma Analyzer.result_run_of_load {a : Analyzer} {f : Files} {here : Place} {p : Path} {m : Model}
    (hfiles : a.search.files f = .ok [p]) (hload : Model.load f here p = .ok m) :
    (a.run f here).result = .ok (({} : Report) ++ a.linter.check p m).sort := by
  rw [result_run hfiles]
  simp only [checkAll, hload, Bool.false_eq_true, if_false, Outcome.result_after, Except.map]

namespace CommandLine

variable {env : Environment} {f g : Files} {here : Place} {args : List String} {o : CheckOptions}
  {config? : Option Path} {origin : Config.Origin} {c : Config} {r : Report} {fmt : Format}

/-! ### Runs that are checks -/

/-- The arguments ask for a check with these options, and for that file as its configuration. -/
def AsksFor (args : List String) (o : CheckOptions) (config? : Option Path) : Prop :=
  ∃ verbose, read args = .ok ⟨.check o, verbose, config?⟩

/-- Where the configuration of a check comes from. -/
def originFor (env : Environment) (f : Files) (here : Place) (config? : Option Path)
    (o : CheckOptions) : Config.Origin :=
  Config.originOf f here (o.path.getD defaultPath) config? env.globalFolder?

/-- A check with a configuration from that origin loads `c` and comes to the report `r`. -/
def ComesTo (f : Files) (here : Place) (origin : Config.Origin) (o : CheckOptions) (c : Config)
    (r : Report) : Prop :=
  Config.ofOrigin f here origin = .ok c
    ∧ ((analyzerFor here origin c o).run f here).result = .ok r

/-- Narrowing the configuration does not narrow the search. -/
lemma search_analyzerFor : (analyzerFor here origin c o).search
    = Analyzer.searchOf here c (some (c.rootFor origin o.path)) [] o.excludes := by
  simp only [analyzerFor, Analyzer.searchOf, Config.rootFor, Config.scope_narrow]

/-- Such a run is the check, apart from what it tells on the way. -/
lemma silent_run (h : AsksFor args o config?) :
    (run env f here args).silent = (check f here (originFor env f here config? o) o).silent := by
  obtain ⟨verbose, hread⟩ := h
  rw [run, hread]
  rfl

lemma output_run (h : AsksFor args o config?) : (run env f here args).output
    = (check f here (originFor env f here config? o) o).output :=
  (congrArg Ending.output (silent_run h) :)

lemma exitCode_run (h : AsksFor args o config?) : (run env f here args).exitCode
    = (check f here (originFor env f here config? o) o).exitCode :=
  (congrArg Ending.exitCode (silent_run h) :)

/-! ### How a check ends -/

lemma Failure.text_ne_empty (e : Failure) : e.text ≠ "" := by
  intro h
  have hchars := congrArg String.toList h
  simp [text] at hchars

/-- A check fails, or comes to a report and concludes with it. -/
lemma check_cases (f : Files) (here : Place) (origin : Config.Origin) (o : CheckOptions) :
    ((∃ e : Failure, (check f here origin o).silent = e.ending [] f)
      ∧ ¬∃ c r, ComesTo f here origin o c r)
    ∨ ∃ c r, ComesTo f here origin o c r ∧ (check f here origin o).silent
      = (concludeCheck f here (analyzerFor here origin c o) o.format r).silent := by
  unfold check ComesTo
  cases hc : Config.ofOrigin f here origin with
  | error e => exact .inl ⟨⟨loadFailure origin e, rfl⟩, fun ⟨_, _, h, _⟩ => nomatch h⟩
  | ok c =>
    cases hr : ((analyzerFor here origin c o).run f here).result with
    | error e =>
      refine .inl ⟨⟨runFailure e, by simp only [hr]; rfl⟩, fun ⟨c', r, h, hr'⟩ => ?_⟩
      cases h
      rw [hr] at hr'
      cases hr'
    | ok r => exact .inr ⟨c, r, ⟨rfl, hr⟩, by simp only [hr]; rfl⟩

lemma ComesTo.unique {c' : Config} {r' : Report} (h : ComesTo f here origin o c r)
    (h' : ComesTo f here origin o c' r') : c = c' ∧ r = r' := by
  have hc : c = c' := Except.ok.inj (h.1.symm.trans h'.1)
  subst hc
  exact ⟨rfl, Except.ok.inj (h.2.symm.trans h'.2)⟩

lemma silent_check_of_comesTo (h : ComesTo f here origin o c r) :
    (check f here origin o).silent
      = (concludeCheck f here (analyzerFor here origin c o) o.format r).silent := by
  obtain ⟨-, hnone⟩ | ⟨c', r', h', hsilent⟩ := check_cases f here origin o
  · exact absurd ⟨c, r, h⟩ hnone
  · obtain ⟨rfl, rfl⟩ := h.unique h'
    exact hsilent

/-- Nothing but a failure is told as an error. -/
lemma errors_check_iff :
    (check f here origin o).errors = "" ↔ ∃ c r, ComesTo f here origin o c r := by
  obtain ⟨⟨e, hsilent⟩, hnone⟩ | ⟨c, r, h, hsilent⟩ := check_cases f here origin o
  · have herrors : (check f here origin o).errors = e.text := congrArg Ending.errors hsilent
    exact iff_of_false (herrors ▸ e.text_ne_empty) hnone
  · have herrors : (check f here origin o).errors = "" := congrArg Ending.errors hsilent
    exact iff_of_true herrors ⟨c, r, h⟩

lemma exitCode_check_of_comesTo (h : ComesTo f here origin o c r) :
    (check f here origin o).exitCode = verdict r c.threshold := by
  rw [← c.threshold_narrow o.rules]
  exact congrArg Ending.exitCode (silent_check_of_comesTo h)

/-- A check ends with the exit code one if it fails or its report reaches the threshold. -/
lemma exitCode_check_eq_one_iff : (check f here origin o).exitCode = 1
    ↔ ∀ c r, ComesTo f here origin o c r → r.hasAtLeast c.threshold = true := by
  obtain ⟨⟨e, hsilent⟩, hnone⟩ | ⟨c, r, h, -⟩ := check_cases f here origin o
  · have hcode : (check f here origin o).exitCode = 1 := congrArg Ending.exitCode hsilent
    exact iff_of_true hcode fun c r h => absurd ⟨c, r, h⟩ hnone
  · rw [exitCode_check_of_comesTo h, verdict]
    constructor
    · intro hone c' r' h'
      obtain ⟨rfl, rfl⟩ := h.unique h'
      by_contra hlow
      simp [hlow] at hone
    · intro hall
      simp [hall c r h]

/-! ### Other thresholds and other forms -/

/-- The form that is asked for makes no difference to what a check comes to. -/
lemma comesTo_format :
    ComesTo f here origin { o with format := fmt } c r ↔ ComesTo f here origin o c r := Iff.rfl

lemma exitCode_check_format : (check f here origin { o with format := fmt }).exitCode
    = (check f here origin o).exitCode := by
  obtain ⟨⟨e, hsilent⟩, hnone⟩ | ⟨c, r, h, -⟩ := check_cases f here origin o
  · obtain ⟨⟨e', hsilent'⟩, -⟩ | ⟨c, r, h, -⟩ :=
      check_cases f here origin { o with format := fmt }
    · have hcode : (check f here origin o).exitCode = 1 :=
        congrArg Ending.exitCode hsilent
      have hcode' : (check f here origin { o with format := fmt }).exitCode = 1 :=
        congrArg Ending.exitCode hsilent'
      rw [hcode, hcode']
    · exact absurd ⟨c, r, comesTo_format.1 h⟩ hnone
  · rw [exitCode_check_of_comesTo h, exitCode_check_of_comesTo (comesTo_format.2 h)]

/-- Neither does the threshold, nor anything that the search does not see. -/
lemma comesTo_of_sameIn {origin' : Config.Origin} {s : Option Severity}
    (hc : Config.ofOrigin f here origin = .ok c)
    (hroot : c.rootFor origin' o.path = c.rootFor origin o.path)
    (hsame : (analyzerFor here origin c o).search.SameIn here f g)
    (h : ComesTo g here origin' o { c with failOn := s } r) : ComesTo f here origin o c r := by
  have hsearch : (analyzerFor here origin' { c with failOn := s } o).search
      = (analyzerFor here origin c o).search := by
    rw [search_analyzerFor, search_analyzerFor, ← hroot]
    rfl
  have hlinter : (analyzerFor here origin' { c with failOn := s } o).linter
      = (analyzerFor here origin c o).linter.withConfig
        { c.narrow o.rules with failOn := s } := by
    simp only [analyzerFor, Config.narrow_failOn]
    rfl
  have hrun := Analyzer.result_run_of_agreeOn (a := analyzerFor here origin c o) hlinter
    (fun _ _ => ⟨rfl, rfl⟩) hsearch rfl g here
  have hresult := Analyzer.toOption_result_run hsame
  rw [← hrun, h.2] at hresult
  exact ⟨hc, Except.toOption_eq_some_iff.1 hresult.symm⟩

/-- A folder with a model, and three configurations that differ in their thresholds. -/
def judged : Files where
  entries := [(["e.toml"], .file "fail_on = \"error\"\n".toUTF8),
    (["i.toml"], .file "fail_on = \"info\"\n".toUTF8), (["m"], .folder),
    (["m", "os.symbols.json"], .file NotNull.openModel.written),
    (["w.toml"], .file "fail_on = \"warning\"\n".toUTF8)]
  sorted := by decide
  named := by decide
  closed := by decide

/-- The options of a check of the folder. -/
def checkJudged : CheckOptions where
  path := some ⟨"/m"⟩

lemma ofOrigin_eq_of_parts {s : Option Severity}
    (h : ((Config.ofOrigin f here origin).toOption.map fun c =>
      (c.failOn, c.scope, c.rules.entries)) = some (s, {}, [])) :
    Config.ofOrigin f here origin = .ok { failOn := s } := by
  obtain ⟨⟨failOn, scope, ⟨entries, distinct⟩⟩, hc, hparts⟩ := Option.map_eq_some_iff.1 h
  cases hparts
  exact Except.toOption_eq_some_iff.1 hc

/-- Where such a check looks for models. -/
def judgedSearch : Search := Analyzer.searchOf [] {} (some ⟨"/m"⟩)

/-- What such a check finds. -/
def judgedReport : Report :=
  (({} : Report) ++ (NotNull.linter {}).check ⟨"/m/os.symbols.json"⟩ NotNull.openModel).sort

lemma comesTo_judged {p : Path} {s : Severity}
    (hc : Config.ofOrigin judged [] (.requested p) = .ok { failOn := some s }) :
    ComesTo judged [] (.requested p) checkJudged { failOn := some s } judgedReport := by
  have hfiles : judgedSearch.files judged = .ok [⟨"/m/os.symbols.json"⟩] :=
    Except.toOption_eq_some_iff.1 (by decide +kernel)
  have hload : Model.load judged [] ⟨"/m/os.symbols.json"⟩ = .ok NotNull.openModel :=
    Model.load_written (q := ["m", "os.symbols.json"]) rfl rfl
  have hsearch : (analyzerFor [] (.requested p) { failOn := some s } checkJudged).search
      = judgedSearch := rfl
  have hlinter : (analyzerFor [] (.requested p) { failOn := some s } checkJudged).linter
      = (NotNull.linter {}).withConfig { failOn := some s } := rfl
  have hagree : (NotNull.linter {}).config.AgreeOn (NotNull.linter {}).descriptors
      { failOn := some s } := fun _ _ => ⟨rfl, rfl⟩
  refine ⟨hc, ?_⟩
  rw [← hsearch] at hfiles
  rw [Analyzer.result_run_of_load hfiles hload, hlinter, Linter.check_of_agreeOn hagree,
    judgedReport]

lemma worst_judgedReport : (¬∃ v ∈ judgedReport.violations, Severity.error ≤ v.severity)
    ∧ ∃ v ∈ judgedReport.violations, Severity.warning ≤ v.severity := by
  decide +kernel

end CommandLine
end NotNullLint
