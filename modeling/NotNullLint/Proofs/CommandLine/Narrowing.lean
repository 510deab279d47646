import NotNullLint.CommandLine.Check
import NotNullLint.Proofs.Analysis.Follow
import NotNullLint.Proofs.Analysis.Settlement
import NotNullLint.Proofs.Config.Root
import NotNullLint.Proofs.NotNull.Findings
import NotNullLint.Proofs.Report.Selection

/-!
Asking for some diagnostics only.

A check that is asked for some diagnostics disables the others under their codes. Nothing that a
configuration says outweighs that, and it says nothing about those that were asked for; so such a
check reports what the check would report anyway, less the other diagnostics, and fails where it
would fail anyway.
-/

namespace NotNullLint

/-- A list of names with commas between them has the code of the diagnostic, in any case, or its
name. -/
def Descriptor.AskedFor (d : Descriptor) (list : String) : Prop :=
  ∃ entry ∈ list.toList.splitOn ',',
    Text.sameLetters d.code (Text.trim (String.ofList entry)) = true
      ∨ d.name = Text.trim (String.ofList entry)
  deriving Decidable

lemma Descriptor.isNamed_iff {d : Descriptor} {list : String} :
    d.isNamed (Catalog.namesIn list) = true ↔ d.AskedFor list := by
  simp [isNamed, Catalog.namesIn, matchesKey, AskedFor]

/-! ### The catalog -/

namespace Catalog

lemma mem_descriptors_iff {d : Descriptor} :
    d ∈ descriptors ↔ ∃ r ∈ rules, d ∈ r.descriptors := by
  rw [descriptors, List.mem_mergeSort, List.mem_flatMap]

lemma descriptors_eq : descriptors = [NotNull.missing, NotNull.redundant] :=
  List.mergeSort_of_pairwise (by decide)

/-- The code of a diagnostic names no other one. -/
lemma rank?_code {d e : Descriptor} (hd : d ∈ descriptors) (he : e ∈ descriptors) (hne : d ≠ e) :
    RuleTable.rank? d e.code = none := by
  have hall : ∀ d ∈ [NotNull.missing, NotNull.redundant],
      ∀ e ∈ [NotNull.missing, NotNull.redundant], d ≠ e → RuleTable.rank? d e.code = none := by
    decide +kernel
  exact hall d (descriptors_eq ▸ hd) e (descriptors_eq ▸ he) hne

end Catalog

/-! ### What is left of the configuration -/

namespace RuleTable

variable {t : RuleTable} {ds : List Descriptor} {d : Descriptor}

lemma isEnabled_foldl_disable (hcodes : ∀ e ∈ ds, d ≠ e → rank? d e.code = none) :
    (ds.foldl (fun t e => t.disable e.code) t).isEnabled d = (!ds.contains d && t.isEnabled d) := by
  induction ds generalizing t with
  | nil => simp
  | cons e ds ih =>
    rw [List.foldl_cons, ih fun e' he' => hcodes e' (List.mem_cons_of_mem e he')]
    by_cases h : d = e
    · subst h
      simp [isEnabled_disable_code]
    · simp [isEnabled_disable_of_rank? t (hcodes e List.mem_cons_self h), h]

lemma severity_foldl_disable :
    (ds.foldl (fun t e => t.disable e.code) t).severity d = t.severity d := by
  induction ds generalizing t with
  | nil => rfl
  | cons e ds ih => rw [List.foldl_cons, ih, severity_disable]

end RuleTable

namespace Config

variable {d : Descriptor}

/-- Only the rule table is narrowed. -/
lemma narrow_eq (c : Config) (list : String) :
    c.narrow (some list)
      = { c with
          rules := (Catalog.descriptors.filter fun d => !d.isNamed (Catalog.namesIn list)).foldl
            (fun t e => t.disable e.code) c.rules } := by
  rw [narrow, restrictTo]
  generalize Catalog.descriptors.filter _ = ds
  induction ds generalizing c with
  | nil => rfl
  | cons e ds ih => exact ih (c.disable e.code)

/-- A diagnostic is left enabled if it is asked for and was enabled. -/
lemma isEnabled_narrow (c : Config) (list : String) (hd : d ∈ Catalog.descriptors) :
    (c.narrow (some list)).isEnabled d = true ↔ d.AskedFor list ∧ c.isEnabled d = true := by
  have hcodes (e : Descriptor) (he : e ∈ Catalog.descriptors) (hne : d ≠ e) :=
    Catalog.rank?_code hd he hne
  rw [narrow_eq, isEnabled, RuleTable.isEnabled_foldl_disable fun e he =>
    hcodes e (List.mem_of_mem_filter he), ← Descriptor.isNamed_iff]
  simp [hd, isEnabled]

lemma severity_narrow (c : Config) (list : String) (d : Descriptor) :
    (c.narrow (some list)).severity d = c.severity d := by
  rw [narrow_eq]
  exact RuleTable.severity_foldl_disable

end Config

/-! ### What is left of a report -/

/-- The finding is one of a diagnostic that the list asks for. -/
def Violation.AskedFor (v : Violation) (list : String) : Prop :=
  ∃ d ∈ Catalog.descriptors, d.code = v.code ∧ d.AskedFor list
  deriving Decidable

/-- The list asks for a diagnostic that the configuration reports. -/
def Config.Meets (c : Config) (list : String) : Prop :=
  ∃ d ∈ Catalog.descriptors, d.AskedFor list ∧ c.isEnabled d = true
  deriving Decidable

/-- What is left of a report if only what the list asks for is reported. -/
def Report.narrowed (c : Config) (list : String) : Report → Report :=
  Report.select (fun v => v.AskedFor list) (c.Meets list)

variable {c : Config} {list : String}

lemma Violation.askedFor_iff {v : Violation} {d : Descriptor} (hd : d ∈ Catalog.descriptors)
    (hcode : d.code = v.code) : v.AskedFor list ↔ d.AskedFor list := by
  refine ⟨fun ⟨e, he, hsame, hasked⟩ => ?_, fun h => ⟨d, hd, hcode, h⟩⟩
  by_contra h
  have hne : d ≠ e := by
    rintro rfl
    exact h hasked
  have hrank := Catalog.rank?_code hd he hne
  simp [RuleTable.rank?, hsame, hcode] at hrank

/-- What grading leaves is what it leaves with the whole configuration, less what the list does not
ask for. -/
lemma Config.gradedFor_narrow {r : Rule} (hr : r ∈ Catalog.rules) (v : Violation) :
    (c.narrow (some list)).gradedFor r v
      = (c.gradedFor r v).filter fun v => v.AskedFor list := by
  unfold gradedFor
  cases hfound : r.descriptors.find? fun d => d.code = v.code with
  | none => rfl
  | some d =>
    have hd : d ∈ Catalog.descriptors :=
      Catalog.mem_descriptors_iff.2 ⟨r, hr, List.mem_of_find?_eq_some hfound⟩
    have hcode : d.code = v.code := by simpa using List.find?_some hfound
    have hasked (s : Severity) : { v with severity := s }.AskedFor list ↔ d.AskedFor list :=
      Violation.askedFor_iff hd hcode
    have hnarrow := isEnabled_narrow c list hd
    rw [Option.bind_some, Option.bind_some, graded, graded, severity_narrow]
    by_cases ha : d.AskedFor list <;> by_cases he : c.isEnabled d = true <;>
      simp [Option.filter, hasked, ha, he, hnarrow]

namespace NotNull

lemma mem_descriptors_rule {d : Descriptor} : d ∈ rule.descriptors ↔ d ∈ Catalog.descriptors := by
  simp [Catalog.mem_descriptors_iff, Catalog.rules]

/-- The rule runs with what is left of a configuration if the list meets it. -/
lemma runs_narrow_iff (c : Config) (list : String) :
    (linter (c.narrow (some list))).runs rule = true ↔ c.Meets list := by
  rw [Linter.runs_iff]
  constructor
  · rintro ⟨d, hd, h⟩
    have hmem := mem_descriptors_rule.1 hd
    exact ⟨d, hmem, (Config.isEnabled_narrow c list hmem).1 h⟩
  · rintro ⟨d, hd, h⟩
    exact ⟨d, mem_descriptors_rule.2 hd, (Config.isEnabled_narrow c list hd).2 h⟩

lemma checked_linter (c : Config) (m : Model) :
    (linter c).checked m = if (linter c).runs rule then rule.eligible m else [] := by
  have hactive : (linter c).active = [rule].filter (linter c).runs := rfl
  rw [Linter.checked, hactive]
  by_cases h : (linter c).runs rule = true
  · simp [h, Rule.eligible]
  · simp [h]

/-- All members that the rule admits are checked, or none. -/
lemma checked_narrow (c : Config) (list : String) (m : Model) :
    (linter (c.narrow (some list))).checked m
      = if c.Meets list then (linter c).checked m else [] := by
  rw [checked_linter, checked_linter]
  by_cases h : c.Meets list
  · have hruns : (linter c).runs rule = true := by
      obtain ⟨d, hd, -, he⟩ := h
      exact Linter.runs_iff.2 ⟨d, mem_descriptors_rule.2 hd, he⟩
    rw [if_pos ((runs_narrow_iff c list).2 h), if_pos h, if_pos hruns]
  · rw [if_neg fun hruns => h ((runs_narrow_iff c list).1 hruns), if_neg h]

lemma filterMap_settle_narrow (c : Config) (list : String) (path : Path) (m : Model) :
    ((linter (c.narrow (some list))).reports path m).filterMap
        (linter (c.narrow (some list))).settle
      = (((linter c).reports path m).filterMap (linter c).settle).filter
          fun v => v.AskedFor list := by
  have hcodes (c : Config) : ((linter c).descriptors.map Descriptor.code).Nodup := by
    change (Catalog.rules.flatMap Rule.descriptors |>.map Descriptor.code).Nodup
    decide
  have hhonest : ∀ r ∈ Catalog.rules, r.Honest := fun r hr =>
    List.mem_singleton.1 hr ▸ Linter.honest_rule
  rw [Linter.filterMap_settle_reports (hcodes _) hhonest,
    Linter.filterMap_settle_reports (hcodes c) hhonest, List.filter_flatMap]
  refine List.flatMap_congr fun r hr => ?_
  rw [List.filter_filterMap]
  exact List.filterMap_congr fun v _ => Config.gradedFor_narrow hr v

/-- The report on a model that is left. -/
lemma check_narrow (c : Config) (list : String) (path : Path) (m : Model) :
    (linter (c.narrow (some list))).check path m = ((linter c).check path m).narrowed c list := by
  rw [Linter.check, Linter.check, Linter.conclude, Linter.conclude, Report.narrowed,
    Report.select_sort, filterMap_settle_narrow, checked_narrow]
  by_cases h : c.Meets list <;> simp [Report.select, h]

end NotNull

/-! ### What is left of a check -/

namespace CommandLine

/-- The options with a list of diagnostics to ask for, or without one. -/
def CheckOptions.asking (q : CheckOptions) (list? : Option String) : CheckOptions :=
  { q with rules := list? }

/-- What a run leaves, apart from what it tells on the way. -/
def Ending.silent (e : Ending) : Ending := { e with events := [] }

variable {f : Files} {here : Place} {o : Config.Origin} {c : Config} {q : CheckOptions}
  {list : String}

lemma follows_narrow :
    (analyzerFor here o c (q.asking none)).Follows (analyzerFor here o c (q.asking (some list)))
      (Report.narrowed c list) where
  search := by
    simp only [analyzerFor, CheckOptions.asking, Config.rootFor, Analyzer.searchOf,
      Config.scope_narrow]
  strict := rfl
  cancels _ _ := (NotNull.cancels_linter _).trans (NotNull.cancels_linter _).symm
  check := NotNull.check_narrow c list
  empty := Report.select_empty _ _
  append := Report.select_append _ _
  sort := Report.select_sort _ _

/-- Reports are printed and judged as ever. -/
lemma concludeCheck_narrow (form : Format) (r : Report) :
    concludeCheck f here (analyzerFor here o c (q.asking (some list))) form r
      = concludeCheck f here (analyzerFor here o c (q.asking none)) form r := by
  have hthreshold : (analyzerFor here o c (q.asking (some list))).linter.config.threshold
      = (analyzerFor here o c (q.asking none)).linter.config.threshold := by
    change (c.narrow (some list)).threshold = c.threshold
    rw [Config.threshold, Config.narrow_eq]
    rfl
  rw [concludeCheck, follows_narrow.search, hthreshold]
  rfl

/-- **Asking for some diagnostics filters the report.** Whatever the files, the configuration and
the list, a check that asks for the diagnostics of the list fails where the check fails that does
not ask, and else concludes with what is left of the report of that check. This is so with every
configuration, since exactly those diagnostics stay enabled that are asked for, at the severities
that they have. -/
theorem check_asking (f : Files) (here : Place) (o : Config.Origin) (q : CheckOptions)
    (list : String) :
    ((∃ e : Failure,
        (check f here o (q.asking none)).silent = e.ending [] f
        ∧ (check f here o (q.asking (some list))).silent = e.ending [] f)
      ∨ ∃ c r, Config.ofOrigin f here o = .ok c
        ∧ ((analyzerFor here o c (q.asking none)).run f here).result = .ok r
        ∧ (check f here o (q.asking none)).silent
          = (concludeCheck f here (analyzerFor here o c (q.asking none)) q.format r).silent
        ∧ (check f here o (q.asking (some list))).silent
          = (concludeCheck f here (analyzerFor here o c (q.asking none)) q.format
            (r.narrowed c list)).silent)
    ∧ ∀ c : Config,
      ((analyzerFor here o c (q.asking (some list))).run f here).result
        = ((analyzerFor here o c (q.asking none)).run f here).result.map (Report.narrowed c list)
      ∧ ∀ d ∈ Catalog.descriptors,
        ((c.narrow (some list)).isEnabled d = true ↔ d.AskedFor list ∧ c.isEnabled d = true)
        ∧ (c.narrow (some list)).severity d = c.severity d := by
  have hrun (c : Config) :
      ((analyzerFor here o c (q.asking (some list))).run f here).result
        = ((analyzerFor here o c (q.asking none)).run f here).result.map (Report.narrowed c list) :=
    follows_narrow.result_run f here
  refine ⟨?_, fun c => ⟨hrun c, fun d hd =>
    ⟨Config.isEnabled_narrow c list hd, Config.severity_narrow c list d⟩⟩⟩
  unfold check
  cases hc : Config.ofOrigin f here o with
  | error e => exact .inl ⟨loadFailure o e, rfl, rfl⟩
  | ok c =>
    dsimp only
    rw [hrun c]
    cases hr : ((analyzerFor here o c (q.asking none)).run f here).result with
    | error e => exact .inl ⟨runFailure e, rfl, rfl⟩
    | ok r =>
      refine .inr ⟨c, r, rfl, hr, rfl, ?_⟩
      simp only [Except.map, concludeCheck_narrow]
      rfl

/-! ### A disabled diagnostic is asked for -/

/-- A model in which a parameter lacks the attribute. -/
def oneText : String :=
  "\x7b\"assembly\": \"os\", \"types\": [\x7b\"name\": \"Os\",
      \"attributes\": [\x7b\"name\": \"PythonTypeAttribute\"\x7d],
      \"methods\": [\x7b\"name\": \"open\", \"accessibility\": \"public\",
        \"parameters\": [\x7b\"name\": \"path\", \"type\": \x7b\"name\": \"String\"\x7d,
          \"nullable_annotation\": \"not_annotated\",
          \"location\": \x7b\"file\": \"os.cs\", \"line\": 3, \"column\": 7\x7d\x7d]\x7d]\x7d]\x7d"

/-- A folder with the model. -/
def oneModel : Files where
  entries := [(["w"], .folder), (["w", "os.symbols.json"], .file oneText.toUTF8)]
  sorted := by decide
  named := by decide
  closed := by decide

/-- A configuration that disables the other diagnostic under its name. -/
def noRedundant : Config where
  rules := RuleTable.empty.disable "redundant-not-null"

/-- The options of a check of the folder. -/
def checkFolder : CheckOptions where
  path := some ⟨"/w"⟩

/-- The report on the folder. -/
def oneFinding : Report where
  violations := [NotNull.lackFinding noRedundant
    { name := "path", type := ⟨"String", none, false⟩, location := ⟨⟨"os.cs"⟩, 3, 7, 0, 0⟩ }]
  filesChecked := 1
  methodsChecked := 1

set_option maxRecDepth 4000 in
lemma check_oneText : ∃ m, Shaped.ofText (α := Model) oneText = .ok m
    ∧ (({} : Report) ++ (NotNull.linter noRedundant).check ⟨"/w/os.symbols.json"⟩ m).sort
      = oneFinding := by
  -- the characters of the text are what the reader takes
  obtain ⟨cs, htext, hreport⟩ : ∃ cs, oneText = String.ofList cs
      ∧ ((Json.readAll (Shaped.shape Model) cs).toOption.map fun v =>
        (({} : Report)
          ++ (NotNull.linter noRedundant).check ⟨"/w/os.symbols.json"⟩ (Shaped.ofVal v)).sort)
        = some oneFinding := ⟨_, rfl, by decide +kernel⟩
  obtain ⟨v, hv, hcheck⟩ := Option.map_eq_some_iff.1 hreport
  refine ⟨Shaped.ofVal v, ?_, hcheck⟩
  rw [← Except.toOption_eq_some_iff, Shaped.ofText, Json.read, htext, String.toList_ofList,
    Except.toOption_map, Except.toOption_mapError, hv]
  rfl

lemma result_checkFolder :
    ((analyzerFor [] .builtIn noRedundant (checkFolder.asking none)).run oneModel []).result
      = .ok oneFinding := by
  have hfiles : (analyzerFor [] .builtIn noRedundant (checkFolder.asking none)).search.files
      oneModel = .ok [⟨"/w/os.symbols.json"⟩] :=
    Except.toOption_eq_some_iff.1 (by decide +kernel)
  have hplace : oneModel.resolve [] ⟨"/w/os.symbols.json"⟩ = .ok ["w", "os.symbols.json"] :=
    Except.toOption_eq_some_iff.1 (by decide +kernel)
  have hnode : oneModel.node? ["w", "os.symbols.json"] = some (.file oneText.toUTF8) := by
    simp [Files.node?, oneModel, List.lookup_cons]
  have hread := Files.read_text hplace hnode
  obtain ⟨m, hm, hcheck⟩ := check_oneText
  rw [Analyzer.result_run_one hfiles hread hm]
  exact congrArg Except.ok hcheck

lemma narrowed_oneFinding :
    oneFinding.narrowed noRedundant "x, ipy02" = { filesChecked := 1 } := by
  have hmissing : ¬NotNull.missing.AskedFor "x, ipy02" := by decide +kernel
  have hdisabled : ¬noRedundant.isEnabled NotNull.redundant = true := by decide +kernel
  have hmeets : ¬noRedundant.Meets "x, ipy02" := by
    simp [Config.Meets, Catalog.descriptors_eq, hmissing, hdisabled]
  have hfinding (p : Parameter) :
      ¬(NotNull.lackFinding noRedundant p).AskedFor "x, ipy02" := fun h =>
    hmissing ((Violation.askedFor_iff (by simp [Catalog.descriptors_eq]) rfl).1 h)
  simp [Report.narrowed, Report.select, oneFinding, hfinding, hmeets]

/-- Asking for a disabled diagnostic does not enable it; then nothing is left of the report. -/
theorem check_asking_disabled :
    ((analyzerFor [] .builtIn noRedundant (checkFolder.asking none)).run oneModel []).result
        = .ok oneFinding
      ∧ ((analyzerFor [] .builtIn noRedundant (checkFolder.asking (some "x, ipy02"))).run
        oneModel []).result = .ok { filesChecked := 1 }
      ∧ (noRedundant.narrow (some "x, ipy02")).isEnabled NotNull.redundant = false := by
  obtain ⟨hrun, hdescriptors⟩ :=
    (check_asking oneModel [] .builtIn checkFolder "x, ipy02").2 noRedundant
  have hmem : NotNull.redundant ∈ Catalog.descriptors := by simp [Catalog.descriptors_eq]
  have hnarrow := (hdescriptors NotNull.redundant hmem).1
  have hdisabled : ¬noRedundant.isEnabled NotNull.redundant = true := by decide +kernel
  refine ⟨result_checkFolder, ?_, Bool.eq_false_iff.2 fun h => hdisabled (hnarrow.1 h).2⟩
  rw [hrun, result_checkFolder, ← narrowed_oneFinding]
  rfl

end CommandLine
end NotNullLint
