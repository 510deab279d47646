import NotNullLint.Proofs.CommandLine.Verdict
import NotNullLint.Proofs.Config.Template

/-!
Writing a first configuration changes no check.

A check that found no configuration finds the new one, or still none. The new one says what holds
anyway, its root is the working directory, and no check looks for models under its name. So such a
check prints what it printed before and ends as before. Only sources that are shown beside the
findings could differ, and they are shown in one form only.
-/

namespace NotNullLint

/-! ### The configuration that is found -/

namespace Config

variable {f g : Files} {here : Place} {p found : Path} {folder? : Option Path}

lemma originOf_eq_builtIn_iff : originOf f here p none folder? = .builtIn
    ↔ nearestProjectFile? f here p = none ∧ globalFile? f here folder? = none := by
  unfold originOf
  cases nearestProjectFile? f here p with
  | some found => simp
  | none => cases globalFile? f here folder? <;> simp

/-- Configurations that agree on the catalog still agree when they are narrowed alike. -/
lemma AgreeOn.narrow {c c' : Config} (h : c.AgreeOn Catalog.descriptors c')
    (rules : Option String) :
    (c.narrow rules).AgreeOn Catalog.descriptors (c'.narrow rules) := by
  cases rules with
  | none => exact h
  | some list =>
    intro d hd
    obtain ⟨henabled, hseverity⟩ := h d hd
    rw [severity_narrow, severity_narrow, Bool.eq_iff_iff, isEnabled_narrow c list hd,
      isEnabled_narrow c' list hd, henabled]
    exact ⟨Iff.rfl, hseverity⟩

namespace Written

variable (h : Written here f g)
include h

lemma globalFile?_eq_none (hnone : globalFile? f here folder? = none) :
    globalFile? g here folder? = none := by
  rw [globalFile?_eq_none_iff] at hnone ⊢
  intro folder hfolder
  rw [← hnone folder hfolder]
  refine h.same.leadsToFile_eq fun hplace => ?_
  have hlast := congrArg List.getLast? hplace
  rw [Path.destination_join, Path.destination_piece (by decide)] at hlast
  simp [Place.walk, ownPlace, CommandLine.configName] at hlast

/-- A check that found no configuration finds the new one, or still none. -/
lemma origin_cases (hfree : originOf f here p none folder? = .builtIn)
    (hplace : originOf f here CommandLine.defaultPath none folder? = .builtIn
      ∨ (ownPlace here).WithinLimits) :
    originOf g here p none folder? = .builtIn
      ∨ ∃ found, originOf g here p none folder? = .project found
        ∧ g.resolve here found = .ok (ownPlace here)
        ∧ (p = CommandLine.defaultPath → found = (ownPlace here).path) := by
  obtain ⟨hproject, hglobal⟩ := originOf_eq_builtIn_iff.1 hfree
  have hplace' := hplace.imp_left fun hfree => (originOf_eq_builtIn_iff.1 hfree).1
  cases hfound : nearestProjectFile? g here p with
  | none => exact .inl (originOf_eq_builtIn_iff.2 ⟨hfound, h.globalFile?_eq_none hglobal⟩)
  | some found =>
    have hresolve := h.resolve_nearestProjectFile? hproject hplace' hfound
    refine .inr ⟨found, by rw [originOf, hfound], hresolve, ?_⟩
    rintro rfl
    -- from the working directory, places are looked at under their own paths
    have hhere : g.HasFolder here :=
      Files.hasFolder_iff.2 (h.within.folder _ (Files.hasFolder_iff.1 h.folder))
    rw [nearestProjectFile?_eq_find?, standpoint_of_resolve (resolve_defaultPath hhere)] at hfound
    obtain ⟨d, n, hd, hn, rfl⟩ :=
      (mem_candidates_path hhere.names).1 (List.mem_of_find?_eq_some hfound)
    rw [Files.resolve_ok hresolve, destination_candidate hhere.names hd hn]

lemma load_eq (hfound : g.resolve here found = .ok (ownPlace here)) :
    Config.load g here found = (ofText template).mapError .refused := by
  rw [Config.load, Files.read_text hfound h.file]

end Written
end Config

/-! ### Both checks -/

namespace CommandLine

variable {env : Environment} {f g : Files} {here : Place} {args : List String} {o : CheckOptions}
  {origin origin' : Config.Origin} {c c' : Config} {fmt : Format}

/-- The arguments ask for a first configuration. -/
def AsksToInit (args : List String) : Prop :=
  ∃ force verbose config?, read args = .ok ⟨.init force, verbose, config?⟩

/-- What is written in the folder is the first configuration. -/
lemma written_of_write (h : f.write here configName Config.template = .ok g) :
    Config.Written here f g := by
  unfold Files.write Files.put? at h
  by_cases haccepts : f.Accepts (here ++ [configName])
  · rw [dif_pos haccepts] at h
    cases h
    exact Config.written_put (h := haccepts)
  · rw [dif_neg haccepts] at h
    dsimp only at h
    split at h <;> cases h

/-- Such a run leaves the files as they are, or writes the first configuration. -/
lemma files_run_init (h : AsksToInit args) :
    (run env f here args).files = f ∨ Config.Written here f (run env f here args).files := by
  obtain ⟨force, verbose, config?, hread⟩ := h
  have hfiles : (run env f here args).files = (init f here force).files := by
    rw [run, hread]
    rfl
  rw [hfiles, init]
  split
  · exact .inl rfl
  · cases hwrite : f.write here configName Config.template with
    | error e => exact .inl rfl
    | ok g => exact .inr (written_of_write hwrite)

/-- Only one form shows sources. -/
lemma render_eq (h : fmt ≠ .rich) (r : Report) (source? source?' : Violation → Option String) :
    r.render source? fmt = r.render source?' fmt := by
  cases fmt with
  | rich => exact absurd rfl h
  | _ => rfl

/-- Checks that come to the same report under one threshold print the same and end alike. -/
lemma check_eq_of_result (hform : o.format ≠ .rich)
    (hc : Config.ofOrigin f here origin = .ok c) (hc' : Config.ofOrigin g here origin' = .ok c')
    (hthreshold : c'.threshold = c.threshold)
    (hresult : ((analyzerFor here origin' c' o).run g here).result.toOption
      = ((analyzerFor here origin c o).run f here).result.toOption) :
    (check g here origin' o).output = (check f here origin o).output
      ∧ (check g here origin' o).exitCode = (check f here origin o).exitCode := by
  have hcomes (r : Report) : ComesTo g here origin' o c' r ↔ ComesTo f here origin o c r := by
    refine and_congr (iff_of_true hc' hc) ?_
    rw [← Except.toOption_eq_some_iff, hresult, Except.toOption_eq_some_iff]
  obtain ⟨⟨e, he⟩, hnone⟩ | ⟨c₁, r, hr, -⟩ := check_cases f here origin o
  · obtain ⟨⟨e', he'⟩, -⟩ | ⟨c₂, r, hr, -⟩ := check_cases g here origin' o
    · have houtput : (check f here origin o).output = "" := congrArg Ending.output he
      have houtput' : (check g here origin' o).output = "" := congrArg Ending.output he'
      have hcode : (check f here origin o).exitCode = 1 := congrArg Ending.exitCode he
      have hcode' : (check g here origin' o).exitCode = 1 := congrArg Ending.exitCode he'
      exact ⟨houtput'.trans houtput.symm, hcode'.trans hcode.symm⟩
    · cases hc'.symm.trans hr.1
      exact absurd ⟨c, r, (hcomes r).1 hr⟩ hnone
  · cases hc.symm.trans hr.1
    have hr' := (hcomes r).2 hr
    refine ⟨?_, by rw [exitCode_check_of_comesTo hr, exitCode_check_of_comesTo hr', hthreshold]⟩
    exact (congrArg Ending.output (silent_check_of_comesTo hr') :).trans
      ((render_eq hform r _ _).trans (congrArg Ending.output (silent_check_of_comesTo hr).symm :))

/-- Where a check looks that found no configuration. -/
lemma misses_builtIn :
    (analyzerFor here .builtIn {} o).search.Misses (Config.ownPlace here) where
  absolute := by
    rw [root_analyzerFor]
    exact Path.isAbsolute_join (by simp [Place.path, Path.isAbsolute])
  includes := by
    rw [search_analyzerFor]
    rfl
  name := by
    rw [Config.ownPlace, List.getLast?_concat]
    decide +kernel

/-- With the first configuration, a check looks where it looked without one. -/
lemma search_template (hnames : ∀ s ∈ Config.ownPlace here, IsFileName s)
    (hscope : c.scope = { excludes := Analyzer.defaultExcludes }) (hexcludes : o.excludes = [])
    {found : Path} (hfound : o.path = none → found = (Config.ownPlace here).path) :
    (analyzerFor here (.project found) c o).search = (analyzerFor here .builtIn {} o).search := by
  have hroot : here.path.join (c.rootFor (.project found) o.path)
      = here.path.join (({} : Config).rootFor .builtIn o.path) := by
    cases hpath : o.path with
    | some p => rfl
    | none =>
      have hfolder : Config.Origin.folder? (.project found) = some here.path := by
        rw [hfound hpath]
        exact Place.parent?_path hnames
      have habsolute : (here.path.join ⟨"."⟩).isAbsolute = true :=
        Path.isAbsolute_join (by simp [Place.path, Path.isAbsolute])
      simp only [Config.rootFor, hfolder, hscope]
      rw [Path.join, if_pos habsolute]
      rfl
  rw [search_analyzerFor, search_analyzerFor, hexcludes, Analyzer.searchOf, Analyzer.searchOf,
    Option.getD_some, Option.getD_some, hroot, hscope]
  rfl

lemma mem_descriptors_linter {d : Descriptor} :
    d ∈ (analyzerFor here origin c o).linter.descriptors ↔ d ∈ Catalog.descriptors := by
  rw [Catalog.mem_descriptors_iff]
  exact List.mem_flatMap

/-- **The first configuration is neutral.** A check that asks for no configuration, excludes nothing
and shows no sources prints the same and ends with the same exit code before and after a first
configuration is written in the working directory, if it found no configuration before. Where the
path of the new file is longer than the system takes, there has to be none for the working directory
either. -/
theorem run_after_init (env : Environment) (f : Files) (here : Place) {args initArgs : List String}
    {o : CheckOptions} (hargs : AsksFor args o none) (hexcludes : o.excludes = [])
    (hform : o.format ≠ .rich) (hinit : AsksToInit initArgs)
    (hfree : originFor env f here none o = .builtIn)
    (hplace : Config.originOf f here defaultPath none env.globalFolder? = .builtIn
      ∨ Place.WithinLimits (here ++ ["ipy-lint.toml"])) :
    (run env (run env f here initArgs).files here args).output = (run env f here args).output
      ∧ (run env (run env f here initArgs).files here args).exitCode
        = (run env f here args).exitCode := by
  have hfiles : (run env f here initArgs).files = f
      ∨ Config.Written here f (run env f here initArgs).files := files_run_init hinit
  obtain hsame | hwritten := hfiles
  · rw [hsame]
    exact ⟨rfl, rfl⟩
  generalize (run env f here initArgs).files = g at hwritten
  rw [output_run hargs, output_run hargs, exitCode_run hargs, exitCode_run hargs, hfree]
  have htrees := Analyzer.toOption_result_run
    (a := analyzerFor here .builtIn {} o) (misses_builtIn.sameIn hwritten.same here)
  obtain horigin | ⟨found, horigin, hfound, hdefault⟩ := hwritten.origin_cases hfree hplace
  · rw [originFor, horigin]
    exact check_eq_of_result hform (c := {}) rfl rfl rfl htrees
  obtain ⟨c, hc, hfailOn, hscope, hagree⟩ := Config.ofText_template
  have hload : Config.ofOrigin g here (.project found) = .ok c := by
    change Config.load g here found = _
    rw [hwritten.load_eq hfound, hc]
    rfl
  rw [originFor, horigin]
  refine check_eq_of_result hform (c := {}) rfl hload ?_ ?_
  · rw [Config.threshold, hfailOn]
    rfl
  · have hlinter : (analyzerFor here (.project found) c o).linter
        = (analyzerFor here .builtIn {} o).linter.withConfig (c.narrow o.rules) := rfl
    have hown (hpath : o.path = none) : found = (Config.ownPlace here).path :=
      hdefault (by rw [hpath]; rfl)
    have hsearch := search_template hwritten.names hscope hexcludes hown
    rw [← htrees, Analyzer.result_run_of_agreeOn hlinter
      (fun d hd => hagree.narrow o.rules d (mem_descriptors_linter.1 hd)) hsearch rfl]

/-- A working directory with a model. -/
def unconfigured : Files where
  entries := [(["w"], .folder), (["w", "os.symbols.json"], .file NotNull.openModel.written)]
  sorted := by decide
  named := by decide
  closed := by decide

/-- The file is written, and the strict check of the folder ends as before. -/
theorem run_after_init_unconfigured :
    (run {} unconfigured ["w"] ["init"]).files.leadsToFile ["w"] ⟨"ipy-lint.toml"⟩ = true
      ∧ originFor {} unconfigured ["w"] none { format := .compact, strict := true } = .builtIn
      ∧ (run {} (run {} unconfigured ["w"] ["init"]).files ["w"]
          ["check", "--strict", "--format", "compact"]).output
        = (run {} unconfigured ["w"] ["check", "--strict", "--format", "compact"]).output
      ∧ (run {} (run {} unconfigured ["w"] ["init"]).files ["w"]
          ["check", "--strict", "--format", "compact"]).exitCode
        = (run {} unconfigured ["w"] ["check", "--strict", "--format", "compact"]).exitCode := by
  have hargs : AsksFor ["check", "--strict", "--format", "compact"]
      { format := .compact, strict := true } none :=
    ⟨false, Except.toOption_eq_some_iff.1 (by decide +kernel)⟩
  have hinit : AsksToInit ["init"] :=
    ⟨false, false, none, Except.toOption_eq_some_iff.1 (by decide +kernel)⟩
  have hfree : originFor {} unconfigured ["w"] none { format := .compact, strict := true }
      = .builtIn := by decide +kernel
  exact ⟨by decide +kernel, hfree, run_after_init {} unconfigured ["w"] hargs rfl (by decide) hinit
    hfree (.inl (by decide +kernel))⟩

end CommandLine
end NotNullLint
