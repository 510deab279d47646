import Mathlib.Data.List.Forall2
import Mathlib.Data.List.Nodup
import NotNullLint.Analysis.Linter
import NotNullLint.Proofs.Config.Precedence
import NotNullLint.Proofs.Lists
import NotNullLint.Rule.Catalog

/-!
The configuration as a filter behind the rules.

A linter asks its configuration twice: it does not run a rule without an enabled diagnostic, and it
drops or grades what the others report by its code, wherever that code is advertised. As long as
codes are not shared and rules report under their own codes only, this comes to the same as running
every rule and grading each report by the diagnostic of the rule that made it.
-/

namespace NotNullLint

/-! ### All reports, graded -/

/-- The rule reports nothing but what it advertises. -/
def Rule.Honest (r : Rule) : Prop :=
  ∀ context x, ∀ v ∈ (r.visit context x).reports, ∃ d ∈ r.descriptors, d.code = v.code

/-- What a rule says of a model if it is shown every member that it admits, in order. -/
def Rule.reportsOn (r : Rule) (path : Path) (m : Model) : List Violation :=
  (r.eligible m).flatMap fun x => (r.visit (Linter.context path m) x).reports

namespace Config

/-- What is left of a finding of a diagnostic: nothing if that is disabled, else the finding with
the severity of the diagnostic. -/
def graded (c : Config) (d : Descriptor) (v : Violation) : Option Violation :=
  if c.isEnabled d then some { v with severity := c.severity d } else none

/-- What is left of the finding of a rule, by the diagnostic that the rule advertises for it. -/
def gradedFor (c : Config) (r : Rule) (v : Violation) : Option Violation :=
  (r.descriptors.find? fun d => d.code = v.code).bind fun d => c.graded d v

/-- The configurations differ in severities at most: what one of them enables or disables under a
key, so does the other. -/
def SameChoices (c c' : Config) : Prop :=
  ∀ key, c.rules.given Setting.enabled key = c'.rules.given Setting.enabled key

lemma SameChoices.isEnabled_eq {c c' : Config} (h : c.SameChoices c') (d : Descriptor) :
    c'.isEnabled d = c.isEnabled d := by
  simp only [isEnabled, RuleTable.isEnabled]
  rw [RuleTable.findSome?_settingsFor_congr fun key _ => h key]

end Config

namespace Linter

variable {l : Linter} {path : Path} {m : Model}

lemma reports_eq_flatMap (l : Linter) (path : Path) (m : Model) :
    l.reports path m = l.active.flatMap fun r => r.reportsOn path m := by
  simp only [reports, visits, shown, List.flatMap_map, List.map_flatMap, List.flatMap_assoc,
    Rule.reportsOn]

lemma runs_iff {r : Rule} :
    l.runs r = true ↔ ∃ d ∈ r.descriptors, l.config.isEnabled d = true := by
  simp [runs]

/-! ### The diagnostic of a report -/

lemma find?_code_eq {ds : List Descriptor} (hcodes : (ds.map Descriptor.code).Nodup)
    {d : Descriptor} (hd : d ∈ ds) : (ds.find? fun e => e.code = d.code) = some d := by
  cases hfound : ds.find? fun e => e.code = d.code with
  | none => simpa using List.find?_eq_none.1 hfound d hd
  | some e =>
    have hcode : e.code = d.code := by simpa using List.find?_some hfound
    rw [List.inj_on_of_nodup_map hcodes (List.mem_of_find?_eq_some hfound) hd hcode]

/-- Looked up among all rules or in its own rule, a report has the same diagnostic. -/
lemma settle_eq_gradedFor (hcodes : (l.descriptors.map Descriptor.code).Nodup) {r : Rule}
    (hr : r ∈ l.rules) {v : Violation} (hv : ∃ d ∈ r.descriptors, d.code = v.code) :
    l.settle v = l.config.gradedFor r v := by
  obtain ⟨d, hd, hcode⟩ := hv
  have hall : l.descriptor? v.code = some d :=
    hcode ▸ find?_code_eq hcodes (List.mem_flatMap.2 ⟨r, hr, hd⟩)
  have hcodesOwn : (r.descriptors.map Descriptor.code).Nodup := by
    rw [descriptors, List.map_flatMap, List.nodup_flatMap] at hcodes
    exact hcodes.1 r hr
  have hown : (r.descriptors.find? fun e => e.code = v.code) = some d :=
    hcode ▸ find?_code_eq hcodesOwn hd
  simp only [settle, hall, Config.gradedFor, hown, Option.bind_some, Config.graded]

/-- Nothing is left of what a rule reports that is not run. -/
lemma gradedFor_of_not_runs {r : Rule} (hruns : ¬l.runs r = true) (v : Violation) :
    l.config.gradedFor r v = none := by
  refine Option.bind_eq_none_iff.2 fun d hd => ?_
  have hdisabled : ¬l.config.isEnabled d = true := fun h =>
    hruns (runs_iff.2 ⟨d, List.mem_of_find?_eq_some hd, h⟩)
  rw [Config.graded, if_neg hdisabled]

/-- What the configuration leaves of all reports is what grading leaves, rule by rule. -/
lemma filterMap_settle_reports (hcodes : (l.descriptors.map Descriptor.code).Nodup)
    (hhonest : ∀ r ∈ l.rules, r.Honest) :
    (l.reports path m).filterMap l.settle
      = l.rules.flatMap fun r => (r.reportsOn path m).filterMap (l.config.gradedFor r) := by
  have hsettle (r : Rule) (hr : r ∈ l.rules) : (r.reportsOn path m).filterMap l.settle
      = (r.reportsOn path m).filterMap (l.config.gradedFor r) := by
    refine List.filterMap_congr fun v hv => ?_
    obtain ⟨x, -, hx⟩ := List.mem_flatMap.1 hv
    exact settle_eq_gradedFor hcodes hr (hhonest r hr _ x v hx)
  calc (l.reports path m).filterMap l.settle
      = l.active.flatMap fun r => (r.reportsOn path m).filterMap l.settle := by
        rw [reports_eq_flatMap, List.filterMap_flatMap]
    _ = l.active.flatMap fun r => (r.reportsOn path m).filterMap (l.config.gradedFor r) :=
        List.flatMap_congr fun r hr => hsettle r (List.mem_of_mem_filter hr)
    _ = l.rules.flatMap fun r => (r.reportsOn path m).filterMap (l.config.gradedFor r) :=
        flatMap_filter_of_nil fun r _ hruns =>
          List.filterMap_eq_nil_iff.2 fun v _ => gradedFor_of_not_runs hruns v

/-! ### A change of severities -/

/-- The linter with another configuration. -/
def withConfig (l : Linter) (c : Config) : Linter := { l with config := c }

variable {c : Config}

lemma active_withConfig (h : l.config.SameChoices c) : (l.withConfig c).active = l.active := by
  have hruns : (l.withConfig c).runs = l.runs := by
    funext r
    exact congrArg r.descriptors.any (funext h.isEnabled_eq)
  change l.rules.filter (l.withConfig c).runs = l.rules.filter l.runs
  rw [hruns]

lemma reports_withConfig (h : l.config.SameChoices c) :
    (l.withConfig c).reports path m = l.reports path m := by
  rw [reports_eq_flatMap, reports_eq_flatMap, active_withConfig h]

/-- A finding whatever its severity. -/
def unrated (v : Violation) : Violation := { v with severity := .info }

lemma map_unrated_settle (h : l.config.SameChoices c) (v : Violation) :
    ((l.withConfig c).settle v).map unrated = (l.settle v).map unrated := by
  have hd : (l.withConfig c).descriptor? v.code = l.descriptor? v.code := rfl
  have hc : (l.withConfig c).config = c := rfl
  cases hfound : l.descriptor? v.code with
  | none => simp [settle, hd, hfound]
  | some d =>
    cases he : l.config.isEnabled d <;>
      simp [settle, hd, hc, hfound, h.isEnabled_eq, he, unrated]

/-- Sorting does not look at severities. -/
lemma map_unrated_violations (l : Linter) (path : Path) (m : Model) :
    (l.check path m).violations.map unrated
      = ((l.reports path m).filterMap fun v => (l.settle v).map unrated).mergeSort
        Violation.notAfter := by
  have hsort := List.map_mergeSort (f := unrated) (r := Violation.notAfter)
    (s := Violation.notAfter) (l := (l.reports path m).filterMap l.settle) fun _ _ _ _ => rfl
  rw [List.map_filterMap] at hsort
  exact hsort

lemma forall₂_of_map_unrated {vs ws : List Violation} (h : vs.map unrated = ws.map unrated) :
    List.Forall₂ (fun v w => w = { v with severity := w.severity }) vs ws := by
  rw [← List.forall₂_eq_eq_eq, List.forall₂_map_left_iff, List.forall₂_map_right_iff] at h
  refine h.imp fun v w hvw => ?_
  obtain ⟨_, _, _, _, _, _⟩ := v
  obtain ⟨_, _, _, _, _, _⟩ := w
  cases hvw
  rfl

/-! ### The main statement -/

/-- **Configuration filters.** Whatever the rules, the model and the configuration, the findings
are those that grading leaves of all that the rules have to say, in order. With other severities
there are the same findings at the same places of the report, from as many methods. -/
theorem violations_eq_graded (path : Path) (m : Model)
    (hcodes : (l.descriptors.map Descriptor.code).Nodup) (hhonest : ∀ r ∈ l.rules, r.Honest) :
    (l.check path m).violations
        = (l.rules.flatMap fun r => (r.reportsOn path m).filterMap (l.config.gradedFor r)).mergeSort
          Violation.notAfter
      ∧ ∀ c, l.config.SameChoices c →
        List.Forall₂ (fun v w => w = { v with severity := w.severity }) (l.check path m).violations
          ((l.withConfig c).check path m).violations
        ∧ ((l.withConfig c).check path m).methodsChecked = (l.check path m).methodsChecked := by
  refine ⟨?_, fun c h => ⟨forall₂_of_map_unrated ?_, ?_⟩⟩
  · rw [← filterMap_settle_reports hcodes hhonest]
    rfl
  · rw [map_unrated_violations, map_unrated_violations, reports_withConfig h,
      funext (map_unrated_settle h)]
  · change ((l.withConfig c).checked m).length.toUInt64 = (l.checked m).length.toUInt64
    rw [checked, checked, active_withConfig h]

/-! ### Two rules -/

/-- A diagnostic about methods, and one about types. -/
def smallMethod : Descriptor where
  code := "NAM01"
  name := "small-method"
  title := ""
  template := "Method '\x7b0\x7d'"
  description := ""
  category := "Naming"
  defaultSeverity := .info
  enabledByDefault := true

def smallType : Descriptor :=
  { smallMethod with code := "NAM02", name := "small-type", template := "Type '\x7b0\x7d'" }

/-- A rule that reports every member under both. -/
def naming : Rule where
  name := "naming"
  descriptors := [smallMethod, smallType]
  seesGenerated := true
  visit _ x := { reports := x.method.location.toList.flatMap fun l =>
    [smallMethod.violation l [x.method.name], smallType.violation l [x.owner.name]] }

/-- A linter with one diagnostic of a rule disabled, and all of another. -/
def twoRules : Linter where
  rules := NotNull.rule :: [naming]
  config := { rules := ((RuleTable.empty.disable "IPY01").disable "ipy02").disable "small-type" }

/-- The same choices, with a severity. -/
def strictNaming : Config where
  rules := twoRules.config.rules.modify "NAM01" fun s => { s with severity := some .error }

/-- Two methods, the later one declared first. -/
def twoMethods : Model where
  types := [{ name := "os", attributes := [⟨"PythonTypeAttribute", none⟩]
              methods := [⟨"open", 9⟩, ⟨"close", 3⟩].map fun (name, line) =>
                { name, generated := true, location := some ⟨⟨"os.cs"⟩, line, 7, 0, 0⟩ } }]

def smallMethodAt (name : String) (line : UInt64) (severity : Severity) : Violation where
  code := "NAM01"
  rule := "small-method"
  severity := severity
  location := ⟨⟨"os.cs"⟩, line, 7, 0, 0⟩
  message := "Method '" ++ name ++ "'"

lemma honest_naming : naming.Honest := by
  intro context x v hv
  obtain ⟨l, -, hv⟩ := List.mem_flatMap.1 hv
  simp only [List.mem_cons, List.not_mem_nil, or_false] at hv
  obtain rfl | rfl := hv
  · exact ⟨smallMethod, by decide, rfl⟩
  · exact ⟨smallType, by decide, rfl⟩

lemma honest_rule : NotNull.rule.Honest := by
  intro context x v hv
  change v ∈ (NotNull.visit x).reports at hv
  unfold NotNull.visit at hv
  split at hv
  · obtain ⟨p, -, hp⟩ := List.mem_filterMap.1 hv
    obtain ⟨d, hd, rfl⟩ := Option.map_eq_some_iff.1 hp
    refine ⟨d, ?_, rfl⟩
    unfold NotNull.verdict at hd
    split at hd
    · cases hd
    · split at hd <;> cases hd <;> decide
  · cases hv

lemma sameChoices_strictNaming : twoRules.config.SameChoices strictNaming := by
  intro key
  simp only [RuleTable.given, strictNaming, RuleTable.get?_modify]
  split
  · rename_i h
    subst h
    decide
  · rfl

lemma gradedReports_twoMethods :
    (twoRules.rules.flatMap fun r =>
      (r.reportsOn ⟨"os.json"⟩ twoMethods).filterMap (twoRules.config.gradedFor r))
        = [smallMethodAt "open" 9 .info, smallMethodAt "close" 3 .info] := by
  decide +kernel

/-- What is left is sorted, and is there with the other severity too. -/
theorem violations_eq_graded_twoMethods :
    (twoRules.descriptors.map Descriptor.code).Nodup ∧ (∀ r ∈ twoRules.rules, r.Honest)
      ∧ twoRules.config.SameChoices strictNaming
      ∧ (twoRules.check ⟨"os.json"⟩ twoMethods).violations
        = [smallMethodAt "close" 3 .info, smallMethodAt "open" 9 .info]
      ∧ List.Forall₂ (fun v w => w = { v with severity := w.severity })
        (twoRules.check ⟨"os.json"⟩ twoMethods).violations
        ((twoRules.withConfig strictNaming).check ⟨"os.json"⟩ twoMethods).violations := by
  have hcodes : (twoRules.descriptors.map Descriptor.code).Nodup := by decide
  have hhonest : ∀ r ∈ twoRules.rules, r.Honest := by
    intro r hr
    obtain rfl | hr := List.mem_cons.1 hr
    · exact honest_rule
    · exact List.mem_singleton.1 hr ▸ honest_naming
  have horder :
      (smallMethodAt "open" 9 .info).notAfter (smallMethodAt "close" 3 .info) = false := by
    decide +kernel
  obtain ⟨hviolations, hsame⟩ := violations_eq_graded ⟨"os.json"⟩ twoMethods hcodes hhonest
  refine ⟨hcodes, hhonest, sameChoices_strictNaming, ?_, (hsame _ sameChoices_strictNaming).1⟩
  rw [hviolations, gradedReports_twoMethods]
  simp [List.mergeSort, List.MergeSort.Internal.splitInTwo, horder]

end Linter
end NotNullLint
