import Mathlib.Tactic.Lemma
import NotNullLint.Analysis.Linter
import NotNullLint.Proofs.Lists
import NotNullLint.Proofs.Report.Order
import NotNullLint.Rule.Catalog

/-!
What the not-null convention finds in a model, said without the linter: which parameters break it,
in terms of the declarations that they stand in, and what the finding about each of them says.

A linter with the whole catalog reports one such finding for each of these parameters, as often as
it is declared, unless the configuration disables the diagnostic.
-/

namespace NotNullLint

/-! ### Generated code -/

/-- Some attribute says that a tool wrote what it stands on. -/
def Attribute.TellGenerated (attributes : List Attribute) : Prop :=
  ∃ a ∈ attributes, a.name = "GeneratedCodeAttribute" ∨ a.name = "CompilerGeneratedAttribute"
  deriving Decidable

/-- The name of the file says that a tool wrote it, in letters of any case. -/
def Path.TellsGenerated (p : Path) : Prop :=
  ∃ name ∈ p.fileName?, ∃ ending ∈ [".g.cs", ".g.i.cs", ".designer.cs", ".generated.cs"],
    ending.toList <:+ Text.lowered name.toList
  deriving Decidable

/-- A tool wrote the member, as far as its host, its attributes, the name of its own file, or the
attributes of its type tell. -/
def Member.Generated (x : Member) : Prop :=
  x.method.generated = true ∨ Attribute.TellGenerated x.method.attributes
    ∨ (∃ l ∈ x.method.location, l.file.TellsGenerated)
    ∨ Attribute.TellGenerated x.owner.attributes
  deriving Decidable

lemma Attribute.markGenerated_iff {attributes : List Attribute} :
    markGenerated attributes = true ↔ TellGenerated attributes := by
  simp only [markGenerated, generatedNames, List.any_cons, List.any_nil, Bool.or_false,
    Bool.or_eq_true, named_iff, TellGenerated]
  constructor
  · rintro (⟨a, ha, h⟩ | ⟨a, ha, h⟩)
    · exact ⟨a, ha, .inl h⟩
    · exact ⟨a, ha, .inr h⟩
  · rintro ⟨a, ha, h | h⟩
    · exact .inl ⟨a, ha, h⟩
    · exact .inr ⟨a, ha, h⟩

lemma Path.marksGenerated_iff {p : Path} : p.marksGenerated = true ↔ p.TellsGenerated := by
  unfold marksGenerated TellsGenerated
  cases p.fileName? with
  | none => simp
  | some name => simp [generatedEndings]

lemma Member.isGenerated_iff {x : Member} : x.isGenerated = true ↔ x.Generated := by
  have hfile : (x.method.location.any fun l => l.file.marksGenerated) = true
      ↔ ∃ l ∈ x.method.location, l.file.TellsGenerated := by
    cases x.method.location <;> simp [Path.marksGenerated_iff]
  simp only [isGenerated, Method.isGenerated, Bool.or_eq_true, Attribute.markGenerated_iff, hfile,
    Generated, or_assoc]

namespace NotNull

/-! ### Parameters that break the convention -/

/-- A parameter where it is declared. -/
structure Site where
  owner : TypeDecl
  method : Method
  parameter : Parameter
  deriving DecidableEq, Repr

/-- The parameters of a model, each as often as it is declared. -/
def sites (m : Model) : List Site :=
  m.types.flatMap fun t => t.methods.flatMap fun f => f.parameters.map fun p => ⟨t, f, p⟩

/-- Scripts can call the method that declares the parameter, and people wrote it. -/
structure Site.Exposed (s : Site) : Prop where
  callable : s.method.accessibility = .everyone
  visible : ∃ a ∈ s.owner.attributes, a.name = "PythonTypeAttribute"
  shown : ∀ a ∈ s.method.attributes, a.name ≠ "PythonHiddenAttribute"
  handWritten : ¬Member.Generated ⟨s.owner, s.method⟩

instance (s : Site) : Decidable s.Exposed :=
  decidable_of_iff
    (s.method.accessibility = .everyone ∧ (∃ a ∈ s.owner.attributes, a.name = "PythonTypeAttribute")
      ∧ (∀ a ∈ s.method.attributes, a.name ≠ "PythonHiddenAttribute")
      ∧ ¬Member.Generated ⟨s.owner, s.method⟩)
    ⟨fun ⟨hc, hv, hs, hg⟩ => ⟨hc, hv, hs, hg⟩, fun h => ⟨h.callable, h.visible, h.shown,
      h.handWritten⟩⟩

/-- A script can pass null for the parameter: it is of no value type and is not the context. -/
def Nullable (p : Parameter) : Prop :=
  p.type.isValueType = false ∧ ¬(p.type.name = "CodeContext" ∧ p.type.module = some "IronPython")
  deriving Decidable

/-- The parameter has the attribute that refuses null. -/
def RefusesNull (p : Parameter) : Prop :=
  ∃ a ∈ p.attributes, a.name = "NotNullAttribute" ∧ a.module = some "Microsoft.Scripting"
  deriving Decidable

/-- Declared as never null, and yet null is not refused. -/
def Lacks (p : Parameter) : Prop :=
  Nullable p ∧ p.nullability = .notAnnotated ∧ ¬RefusesNull p
  deriving Decidable

/-- Declared as possibly null, and yet null is refused. -/
def Contradicts (p : Parameter) : Prop :=
  Nullable p ∧ p.nullability = .annotated ∧ RefusesNull p
  deriving Decidable

/-- What is said of a parameter that lacks the attribute. -/
def lackFinding (c : Config) (p : Parameter) : Violation where
  code := "IPY01"
  rule := "missing-not-null"
  severity := c.severity missing
  location := p.location
  message := "Parameter '" ++ p.name ++ "' does not have the NotNullAttribute"
  symbol := some p.name

/-- What is said of a parameter that the attribute contradicts. -/
def contradictionFinding (c : Config) (p : Parameter) : Violation where
  code := "IPY02"
  rule := "redundant-not-null"
  severity := c.severity redundant
  location := p.location
  message := "Parameter '" ++ p.name ++ "' should not have the NotNullAttribute"
  symbol := some p.name

/-- The findings about a model that a configuration leaves, each as often as it is due. -/
def findings (c : Config) (m : Model) : List Violation :=
  ((sites m).filter fun s => s.Exposed ∧ Lacks s.parameter ∧ c.isEnabled missing).map
      (fun s => lackFinding c s.parameter)
    ++ ((sites m).filter fun s => s.Exposed ∧ Contradicts s.parameter ∧ c.isEnabled redundant).map
      fun s => contradictionFinding c s.parameter

/-! ### What the rule says of one parameter -/

lemma concerns_iff {p : Parameter} : concerns p = true ↔ Nullable p := by
  simp [concerns, Nullable, TypeRef.isFrom, contextType, contextModule, imp_iff_not_or]

lemma lacks_iff {p : Parameter} :
    Lacks p ↔ concerns p = true ∧ p.nullability = .notAnnotated
      ∧ Attribute.namedFrom p.attributes notNull notNullModule = false := by
  rw [Lacks, concerns_iff, ← Bool.not_eq_true, Attribute.namedFrom_iff]
  rfl

lemma contradicts_iff {p : Parameter} :
    Contradicts p ↔ concerns p = true ∧ p.nullability = .annotated
      ∧ Attribute.namedFrom p.attributes notNull notNullModule = true := by
  rw [Contradicts, concerns_iff, Attribute.namedFrom_iff]
  rfl

lemma Contradicts.not_lacks {p : Parameter} (h : Contradicts p) : ¬Lacks p := by
  rintro ⟨-, hn, -⟩
  rw [h.2.1] at hn
  cases hn

lemma verdict_eq (p : Parameter) :
    verdict p
      = if Lacks p then some missing else if Contradicts p then some redundant else none := by
  simp only [lacks_iff, contradicts_iff, verdict]
  cases concerns p <;> cases p.nullability
    <;> cases Attribute.namedFrom p.attributes notNull notNullModule <;> rfl

/-- The name goes into the message as it is. -/
lemma message_missing (name : String) :
    missing.message [name]
      = "Parameter '" ++ name ++ "' does not have the NotNullAttribute" := by
  apply String.toList_injective
  simp only [Descriptor.message, Descriptor.fill, String.toList_ofList, String.toList_append]
  rfl

lemma message_redundant (name : String) :
    redundant.message [name]
      = "Parameter '" ++ name ++ "' should not have the NotNullAttribute" := by
  apply String.toList_injective
  simp only [Descriptor.message, Descriptor.fill, String.toList_ofList, String.toList_append]
  rfl

/-! ### What the configuration leaves of it -/

/-- The linter with all rules of the catalog. -/
def linter (c : Config) : Linter := { rules := Catalog.rules, config := c }

lemma settle_missing (c : Config) (p : Parameter) :
    (linter c).settle { missing.violation p.location [p.name] with symbol := some p.name }
      = if c.isEnabled missing then some (lackFinding c p) else none := by
  have hd : (linter c).descriptor? missing.code = some missing := rfl
  simp only [Linter.settle, Descriptor.violation, hd, message_missing]
  rfl

lemma settle_redundant (c : Config) (p : Parameter) :
    (linter c).settle { redundant.violation p.location [p.name] with symbol := some p.name }
      = if c.isEnabled redundant then some (contradictionFinding c p) else none := by
  have hd : (linter c).descriptor? redundant.code = some redundant := rfl
  simp only [Linter.settle, Descriptor.violation, hd, message_redundant]
  rfl

/-- The finding about a parameter that the configuration leaves. -/
def settled (c : Config) (p : Parameter) : Option Violation :=
  (finding p).bind (linter c).settle

lemma settled_eq (c : Config) (p : Parameter) :
    settled c p = if Lacks p ∧ c.isEnabled missing then some (lackFinding c p)
      else if Contradicts p ∧ c.isEnabled redundant then some (contradictionFinding c p)
      else none := by
  rw [settled, finding, verdict_eq]
  by_cases hl : Lacks p
  · have hc : ¬Contradicts p := fun hc => hc.not_lacks hl
    simp [hl, hc, settle_missing]
  · by_cases hc : Contradicts p <;> simp [hl, hc, settle_redundant]

/-- Whatever is said of a parameter is one of two things. -/
lemma settled_cases {c : Config} {p : Parameter} {v : Violation} (h : settled c p = some v) :
    v = lackFinding c p ∨ v = contradictionFinding c p := by
  rw [settled_eq] at h
  split at h
  · exact .inl (Option.some.inj h).symm
  · split at h
    · exact .inr (Option.some.inj h).symm
    · cases h

/-! ### What the linter makes of a model -/

lemma appliesTo_iff {x : Member} :
    appliesTo x = true ↔ x.method.accessibility = .everyone
      ∧ (∃ a ∈ x.owner.attributes, a.name = "PythonTypeAttribute")
      ∧ ∀ a ∈ x.method.attributes, a.name ≠ "PythonHiddenAttribute" := by
  simp [appliesTo, Attribute.named, visibleType, hiddenMember, and_assoc]

/-- The members with parameters to look at: those shown to the rule to which it applies. -/
lemma exposed_iff {s : Site} :
    s.Exposed ↔ rule.admits ⟨s.owner, s.method⟩ = true ∧ appliesTo ⟨s.owner, s.method⟩ = true := by
  have hadmits :
      rule.admits ⟨s.owner, s.method⟩ = true ↔ ¬Member.Generated ⟨s.owner, s.method⟩ := by
    rw [← Member.isGenerated_iff]
    simp [Rule.admits, rule]
  rw [hadmits, appliesTo_iff]
  exact ⟨fun h => ⟨h.handWritten, h.callable, h.visible, h.shown⟩,
    fun ⟨hg, hc, hv, hs⟩ => ⟨hc, hv, hs, hg⟩⟩

lemma sites_eq (m : Model) :
    sites m
      = m.members.flatMap fun x => x.method.parameters.map fun p => ⟨x.owner, x.method, p⟩ := by
  simp [sites, Model.members, TypeDecl.members, List.flatMap_assoc, List.flatMap_map]

lemma reports_eq (c : Config) (path : Path) (m : Model) :
    (linter c).reports path m
      = if (linter c).runs rule then (rule.eligible m).flatMap fun x => (visit x).reports
        else [] := by
  have hrules : (linter c).rules = [rule] := rfl
  rw [Linter.reports, Linter.visits, Linter.shown, Linter.active, hrules]
  by_cases h : (linter c).runs rule = true
  · simp only [List.filter_cons, h, if_true, List.filter_nil, List.flatMap_cons, List.flatMap_nil,
      List.append_nil, List.map_map, List.flatMap_map]
    rfl
  · simp [h]

/-- The rule never asks to stop. -/
lemma cancels_linter {path : Path} {m : Model} (c : Config) :
    (linter c).cancels path m = false := by
  refine List.any_eq_false.2 fun v hv => ?_
  obtain ⟨s, hs, rfl⟩ := List.mem_map.1 hv
  obtain ⟨r, hr, hx⟩ := List.mem_flatMap.1 hs
  obtain ⟨x, -, rfl⟩ := List.mem_map.1 hx
  have hrule : r = rule := List.mem_singleton.1 (List.mem_of_mem_filter hr)
  have hquiet : (visit x).cancels = false := by
    unfold visit
    split <;> rfl
  simp [hrule, rule, hquiet]

lemma filterMap_settle_visit (c : Config) (x : Member) :
    (visit x).reports.filterMap (linter c).settle
      = if appliesTo x then x.method.parameters.filterMap (settled c) else [] := by
  unfold visit
  split
  · rw [List.filterMap_filterMap]
    rfl
  · rfl

lemma settled_of_not_runs {c : Config} (h : ¬(linter c).runs rule = true) (p : Parameter) :
    settled c p = none := by
  have hruns : (linter c).runs rule = (c.isEnabled missing || c.isEnabled redundant) := by
    simp [Linter.runs, rule, linter]
  rw [hruns, Bool.or_eq_true, not_or] at h
  rw [settled_eq, if_neg fun hl => h.1 hl.2, if_neg fun hc => h.2 hc.2]

/-- The findings that pass the configuration, parameter by parameter. -/
lemma filterMap_settle_reports (c : Config) (path : Path) (m : Model) :
    ((linter c).reports path m).filterMap (linter c).settle
      = (sites m).filterMap fun s => if s.Exposed then settled c s.parameter else none := by
  rw [reports_eq, sites_eq, List.filterMap_flatMap]
  split
  · rename_i hruns
    rw [List.filterMap_flatMap, Rule.eligible, flatMap_filter]
    refine List.flatMap_congr fun x _ => ?_
    rw [filterMap_settle_visit, List.filterMap_map]
    simp only [Function.comp_def, exposed_iff]
    by_cases ha : rule.admits x = true <;> by_cases hv : appliesTo x = true <;> simp [ha, hv]
  · rename_i hruns
    simp [settled_of_not_runs hruns]

/-! ### The main statement -/

/-- A list taken apart by two properties that exclude each other. -/
lemma filterMap_perm {α β : Type} {p q : α → Prop} [DecidablePred p] [DecidablePred q]
    (hpq : ∀ a, p a → ¬q a) (f g : α → β) (as : List α) :
    (as.filterMap fun a => if p a then some (f a) else if q a then some (g a) else none).Perm
      ((as.filter p).map f ++ (as.filter q).map g) := by
  induction as with
  | nil => exact .nil
  | cons a as ih =>
    by_cases hp : p a
    · have hq : ¬q a := hpq a hp
      simpa [hp, hq] using ih
    · by_cases hq : q a
      · simpa [hp, hq] using (ih.cons (g a)).trans List.perm_middle.symm
      · simpa [hp, hq] using ih

/-- **What the convention reports.** Whatever the model and the configuration, the report holds one
finding for each declaration of a parameter that breaks the convention, as the configuration
leaves it, no other finding, and all of them in order. -/
theorem violations_check (path : Path) (m : Model) (c : Config) :
    ((linter c).check path m).violations.Perm (findings c m)
      ∧ ((linter c).check path m).violations.Pairwise fun a b => a.notAfter b = true := by
  refine ⟨(Report.perm_sort _).trans ?_, Report.pairwise_sort _⟩
  have hsite : (fun s : Site => if s.Exposed then settled c s.parameter else none)
      = fun s => if s.Exposed ∧ Lacks s.parameter ∧ c.isEnabled missing = true
          then some (lackFinding c s.parameter)
        else if s.Exposed ∧ Contradicts s.parameter ∧ c.isEnabled redundant = true
          then some (contradictionFinding c s.parameter) else none := by
    funext s
    rw [settled_eq]
    by_cases h : s.Exposed <;> simp [h]
  rw [filterMap_settle_reports, hsite]
  exact filterMap_perm (fun s hl hc => hc.2.1.not_lacks hl.2.1) _ _ _

end NotNull
end NotNullLint
