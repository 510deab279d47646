import Mathlib.Data.List.Perm.Basic
import NotNullLint.Proofs.Analysis.Cancellation
import NotNullLint.Proofs.NotNull.Delivery

/-!
How types are packed into models.

The convention looks at one type at a time, and neither at the assembly nor at the file that its
model came from. So two collections of models with the same types, however these are spread over
the files, come to the same report but for the number of files and the spelling of paths.
-/

namespace NotNullLint

/-! ### Runs on models only -/

namespace Analyzer

variable {a : Analyzer} {load : Path → Except LoadError Model}

/-- A run on models that make no rule ask to stop gathers the reports on all of them. -/
lemma result_checkAll_models {ps : List Path} {ms : List Model} {sum : Report}
    (hload : ps.map load = ms.map Except.ok) (hquiet : ∀ path m, a.linter.cancels path m = false) :
    (a.checkAll load false sum ps).result = .ok (sum ++ a.linter.gathered (ps.zip ms)) := by
  induction ps generalizing ms sum with
  | nil =>
    rw [List.zip_nil_left]
    exact congrArg Except.ok (Report.append_empty sum).symm
  | cons p ps ih =>
    obtain ⟨m, ms, rfl⟩ : ∃ m ms', ms = m :: ms' := by
      cases ms with
      | nil => cases hload
      | cons m ms => exact ⟨m, ms, rfl⟩
    obtain ⟨hm, hms⟩ := List.cons.inj hload
    have hcons := congrArg Prod.fst (ending_checkAll_cons_ok (a := a) hm sum ps)
    rw [hquiet] at hcons
    rw [List.zip_cons_cons, Linter.gathered_cons, ← Report.append_assoc]
    exact hcons.trans (ih hms)

lemma result_run_models {f : Files} {here : Place} {ps : List Path} {ms : List Model}
    (hfiles : a.search.files f = .ok ps) (hload : ps.map (Model.load f here) = ms.map Except.ok)
    (hquiet : ∀ path m, a.linter.cancels path m = false) :
    (a.run f here).result = .ok (a.linter.merged (ps.zip ms)) := by
  rw [result_run hfiles, result_checkAll_models hload hquiet, Report.empty_append,
    ← Linter.sort_gathered]
  rfl

end Analyzer

/-! ### Methods -/

namespace Linter

/-- Methods are counted type by type, whatever models the types stand in. -/
lemma methodsChecked_merged (l : Linter) (xs : List (Path × Model)) :
    (l.merged xs).methodsChecked
      = (((xs.flatMap fun x => x.2.types).flatMap TypeDecl.members).filter fun x =>
          l.active.any (·.admits x)).length.toUInt64 := by
  change xs.foldr (fun x n => (l.check x.1 x.2).methodsChecked + n) 0 = _
  induction xs with
  | nil => rfl
  | cons x xs ih =>
    have hone : (l.check x.1 x.2).methodsChecked = (l.checked x.2).length.toUInt64 := rfl
    rw [List.foldr_cons, ih, hone, checked, Model.members, List.flatMap_cons, List.flatMap_append,
      List.filter_append, List.length_append]
    exact (UInt64.ofNat_add _ _).symm

end Linter

/-! ### Findings -/

namespace NotNull

/-- What is found in a type. -/
def typeFindings (c : Config) (t : TypeDecl) : List Violation :=
  (t.methods.flatMap fun f => f.parameters.map fun p => (⟨t, f, p⟩ : Site)).filterMap
    fun s => if s.Exposed then settled c s.parameter else none

lemma perm_check (c : Config) (path : Path) (m : Model) :
    ((linter c).check path m).violations.Perm (m.types.flatMap (typeFindings c)) := by
  refine (Report.perm_sort _).trans (.of_eq ?_)
  change ((linter c).reports path m).filterMap (linter c).settle = _
  rw [filterMap_settle_reports, sites, List.filterMap_flatMap]
  rfl

lemma perm_merged (c : Config) (xs : List (Path × Model)) :
    ((linter c).merged xs).violations.Perm
      ((xs.flatMap fun x => x.2.types).flatMap (typeFindings c)) := by
  refine (List.mergeSort_perm _ _).trans ?_
  rw [List.flatMap_assoc]
  exact List.Perm.flatMap_left xs fun x _ => perm_check c x.1 x.2

lemma isFinding_of_mem_merged {c : Config} {xs : List (Path × Model)} :
    ∀ v ∈ ((linter c).merged xs).violations, IsFinding c v := by
  intro v hv
  obtain ⟨x, -, hx⟩ := List.mem_flatMap.1 ((List.mergeSort_perm _ _).subset hv)
  exact isFinding_of_mem (.refl _) v hx

/-- The same types, however they are packed. -/
lemma merged_of_sameTypes {c : Config} {xs ys : List (Path × Model)}
    (htypes : (xs.flatMap fun x => x.2.types).Perm (ys.flatMap fun y => y.2.types)) :
    List.Forall₂ (fun v w => v.same w = true) ((linter c).merged xs).violations
        ((linter c).merged ys).violations
      ∧ ((linter c).merged xs).methodsChecked = ((linter c).merged ys).methodsChecked := by
  constructor
  · refine forall₂_same_of_tie isFinding_of_mem_merged isFinding_of_mem_merged ?_
    refine forall₂_tie_of_perm ?_ ?_ ?_
    · exact ((perm_merged c xs).trans (htypes.flatMap_right _)).trans (perm_merged c ys).symm
    · exact List.pairwise_mergeSort Violation.notAfter_trans Violation.notAfter_total _
    · exact List.pairwise_mergeSort Violation.notAfter_trans Violation.notAfter_total _
  · rw [Linter.methodsChecked_merged, Linter.methodsChecked_merged]
    exact congrArg Nat.toUInt64 (((htypes.flatMap_right _).filter _).length_eq)

/-- **Packaging does not matter.** Two runs of the convention under one configuration, on files that
hold models with the same types, each type as often in the one as in the other, find the same and
count the same methods. -/
theorem run_of_sameTypes {a b : Analyzer} {c : Config} {f g : Files} {here there : Place}
    {ps qs : List Path} {ms ns : List Model} (ha : a.linter = linter c) (hb : b.linter = linter c)
    (hps : a.search.files f = .ok ps) (hqs : b.search.files g = .ok qs)
    (hms : ps.map (Model.load f here) = ms.map Except.ok)
    (hns : qs.map (Model.load g there) = ns.map Except.ok)
    (htypes : (ms.flatMap Model.types).Perm (ns.flatMap Model.types)) :
    ∃ r s, (a.run f here).result = .ok r ∧ (b.run g there).result = .ok s
      ∧ List.Forall₂ (fun v w => v.same w = true) r.violations s.violations
      ∧ r.methodsChecked = s.methodsChecked := by
  have hzip {us : List Path} {ws : List Model} {load : Path → Except LoadError Model}
      (h : us.map load = ws.map Except.ok) :
      ((us.zip ws).flatMap fun x => x.2.types) = ws.flatMap Model.types := by
    have hlength : ws.length ≤ us.length := by
      have hsame := congrArg List.length h
      rw [List.length_map, List.length_map] at hsame
      exact Nat.le_of_eq hsame.symm
    have hmodels : (us.zip ws).map Prod.snd = ws := List.map_snd_zip hlength
    conv_rhs => rw [← hmodels, List.flatMap_map]
  refine ⟨_, _, Analyzer.result_run_models hps hms ?_, Analyzer.result_run_models hqs hns ?_, ?_⟩
  · rw [ha]
    exact fun _ _ => cancels_linter c
  · rw [hb]
    exact fun _ _ => cancels_linter c
  · rw [ha, hb]
    exact merged_of_sameTypes (by rwa [hzip hms, hzip hns])

/-- A type of which scripts can call a method with a parameter that lacks the attribute. -/
def scripted : TypeDecl where
  name := "O"
  attributes := [⟨"PythonTypeAttribute", none⟩]
  methods := [{ name := "m", accessibility := .everyone
                parameters := [{ name := "p", type := ⟨"S", none, false⟩
                                 nullability := .notAnnotated
                                 location := ⟨⟨"f"⟩, 1, 1, 0, 0⟩ }] }]

/-- The one parameter of the type is a finding. -/
lemma length_typeFindings_scripted : (typeFindings {} scripted).length = 1 := by
  let site : Site := ⟨scripted, scripted.methods[0], scripted.methods[0].parameters[0]⟩
  have hexposed : site.Exposed :=
    ⟨rfl, by simp [site, scripted], by simp [site, scripted],
      by simp [site, scripted, Member.Generated, Attribute.TellGenerated]⟩
  have hlacks : Lacks site.parameter := by decide
  have henabled : ({} : Config).isEnabled missing = true := by
    rw [Config.isEnabled, RuleTable.isEnabled]
    simp [RuleTable.settingsFor, RuleTable.empty, missing]
  have hfound := (settled_eq {} site.parameter).trans (if_pos ⟨hlacks, henabled⟩)
  change ([site].filterMap fun s => if s.Exposed then settled {} s.parameter else none).length = 1
  rw [List.filterMap_cons, if_pos hexposed, hfound]
  rfl

def unscripted : TypeDecl where
  name := "N"
  methods := [{ name := "m" }]

/-- Two types in one file … -/
def onePackage : Files where
  entries := [(["w"], .folder),
    (["w", "all.symbols.json"], .file (Model.mk "A" [scripted, unscripted]).written)]
  sorted := by decide
  named := by decide
  closed := by decide

/-- … and the same in a file each, in the other order. -/
def twoPackages : Files where
  entries := [(["w"], .folder),
    (["w", "a.symbols.json"], .file (Model.mk "" [unscripted]).written),
    (["w", "b.symbols.json"], .file (Model.mk "" [scripted]).written)]
  sorted := by decide
  named := by decide
  closed := by decide

def lenientRun : Analyzer where
  linter := linter {}
  search := { root := ⟨"/w"⟩, includes := ({} : Scope).includes, excludes := [] }

lemma load_onePackage : [(⟨"/w/all.symbols.json"⟩ : Path)].map (Model.load onePackage [])
    = [(⟨"A", [scripted, unscripted]⟩ : Model)].map Except.ok := by
  have hall : Model.load onePackage [] ⟨"/w/all.symbols.json"⟩
      = .ok ⟨"A", [scripted, unscripted]⟩ :=
    Model.load_written (q := ["w", "all.symbols.json"]) rfl rfl
  rw [List.map_singleton, List.map_singleton, hall]

lemma load_twoPackages :
    [(⟨"/w/a.symbols.json"⟩ : Path), ⟨"/w/b.symbols.json"⟩].map (Model.load twoPackages [])
      = [(⟨"", [unscripted]⟩ : Model), ⟨"", [scripted]⟩].map Except.ok := by
  have ha : Model.load twoPackages [] ⟨"/w/a.symbols.json"⟩ = .ok ⟨"", [unscripted]⟩ :=
    Model.load_written (q := ["w", "a.symbols.json"]) rfl rfl
  have hb : Model.load twoPackages [] ⟨"/w/b.symbols.json"⟩ = .ok ⟨"", [scripted]⟩ :=
    Model.load_written (q := ["w", "b.symbols.json"]) rfl rfl
  simp only [List.map_cons, List.map_nil, ha, hb]

/-- One file or two, the report is the same. -/
theorem run_of_sameTypes_twoPackages :
    [scripted, unscripted].Perm [unscripted, scripted]
      ∧ ∃ r s, (lenientRun.run onePackage []).result = .ok r
        ∧ (lenientRun.run twoPackages []).result = .ok s
        ∧ List.Forall₂ (fun v w => v.same w = true) r.violations s.violations
        ∧ r.methodsChecked = s.methodsChecked := by
  have hperm : [scripted, unscripted].Perm [unscripted, scripted] := .swap _ _ _
  have hone : lenientRun.search.files onePackage = .ok [⟨"/w/all.symbols.json"⟩] :=
    (Search.standard_w rfl rfl rfl).files_of_modelNames [["all.symbols.json"]] (by decide) rfl
  have htwo : lenientRun.search.files twoPackages
      = .ok [⟨"/w/a.symbols.json"⟩, ⟨"/w/b.symbols.json"⟩] :=
    (Search.standard_w rfl rfl rfl).files_of_modelNames [["a.symbols.json"], ["b.symbols.json"]]
      (by decide) rfl
  exact ⟨hperm, run_of_sameTypes rfl rfl hone htwo load_onePackage load_twoPackages hperm⟩

end NotNull
end NotNullLint
