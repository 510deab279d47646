import NotNullLint.Proofs.NotNull.Delivery

/-!
What the findings of the convention depend on.

Two models that have the same tree of types, methods and parameters may differ in all their names
except those of parameters and of the types of parameters, in where their methods stand, and in
every attribute that neither the rule nor the test for generated code asks for at that place. The
reports on them are equal all the same.

The relation goes level by level, as the tree does: what is alike in two methods makes the rule
treat them in one way, and the list functions of the linter carry that on to the models.
-/

namespace NotNullLint

/-! ### Models that differ only in what is not looked at -/

/-- For each of the names, both lists or neither have an attribute of that name, whatever its
module, its place in the list and the number of times it is there. -/
def Attribute.AgreeOn (names : List String) (as bs : List Attribute) : Prop :=
  ∀ name ∈ names, (∃ a ∈ as, a.name = name) ↔ ∃ b ∈ bs, b.name = name
  deriving Decidable

/-- Of its attributes, only the one that refuses null counts in a parameter. -/
structure Parameter.Alike (p q : Parameter) : Prop where
  name : p.name = q.name
  type : p.type = q.type
  nullability : p.nullability = q.nullability
  location : p.location = q.location
  attributes : ⟨"NotNullAttribute", some "Microsoft.Scripting"⟩ ∈ p.attributes
    ↔ ⟨"NotNullAttribute", some "Microsoft.Scripting"⟩ ∈ q.attributes

/-- Name and place do not count in a method, unless just one of the two stands in a generated
file. -/
structure Method.Alike (f g : Method) : Prop where
  accessibility : f.accessibility = g.accessibility
  generated : f.generated = g.generated
  attributes : Attribute.AgreeOn
    ["PythonHiddenAttribute", "GeneratedCodeAttribute", "CompilerGeneratedAttribute"]
    f.attributes g.attributes
  file : (∃ l ∈ f.location, l.file.TellsGenerated) ↔ ∃ l ∈ g.location, l.file.TellsGenerated
  parameters : List.Forall₂ Parameter.Alike f.parameters g.parameters

/-- The name does not count in a type. -/
structure TypeDecl.Alike (t u : TypeDecl) : Prop where
  attributes : Attribute.AgreeOn
    ["PythonTypeAttribute", "GeneratedCodeAttribute", "CompilerGeneratedAttribute"]
    t.attributes u.attributes
  methods : List.Forall₂ Method.Alike t.methods u.methods

/-- Only the types count in a model. -/
structure Model.Alike (m n : Model) : Prop where
  types : List.Forall₂ TypeDecl.Alike m.types n.types

/-- Members alike: the attributes of the owners agree and the methods are alike. -/
structure Member.Alike (x y : Member) : Prop where
  owner : Attribute.AgreeOn
    ["PythonTypeAttribute", "GeneratedCodeAttribute", "CompilerGeneratedAttribute"]
    x.owner.attributes y.owner.attributes
  method : x.method.Alike y.method

lemma Attribute.AgreeOn.named_eq {names : List String} {as bs : List Attribute}
    (h : AgreeOn names as bs) {name : String} (hname : name ∈ names) :
    named as name = named bs name := by
  rw [Bool.eq_iff_iff, named_iff, named_iff]
  exact h name hname

lemma Attribute.AgreeOn.markGenerated_eq {names : List String} {as bs : List Attribute}
    (h : AgreeOn names as bs) (hnames : ∀ name ∈ generatedNames, name ∈ names) :
    markGenerated as = markGenerated bs := by
  have hany : ∀ name ∈ generatedNames, named as name = named bs name :=
    fun name hname => h.named_eq (hnames name hname)
  simp only [markGenerated, generatedNames, List.any_cons, List.any_nil] at hany ⊢
  rw [hany "GeneratedCodeAttribute" (by simp), hany "CompilerGeneratedAttribute" (by simp)]

lemma TypeDecl.Alike.members {t u : TypeDecl} (h : t.Alike u) :
    List.Forall₂ Member.Alike t.members u.members := by
  rw [TypeDecl.members, TypeDecl.members, List.forall₂_map_left_iff, List.forall₂_map_right_iff]
  exact h.methods.imp fun f g hfg => ⟨h.attributes, hfg⟩

lemma Model.Alike.members {m n : Model} (h : m.Alike n) :
    List.Forall₂ Member.Alike m.members n.members :=
  List.rel_flatMap h.types fun _ _ htu => htu.members

/-! ### What the rule makes of members that are alike -/

/-- A function that does not tell related elements apart does not tell related lists apart. -/
lemma flatMap_eq_of_forall₂ {α β γ : Type} {R : α → β → Prop} {f : α → List γ} {g : β → List γ}
    {as : List α} {bs : List β} (h : List.Forall₂ R as bs) (hfg : ∀ a b, R a b → f a = g b) :
    as.flatMap f = bs.flatMap g := by
  induction h with
  | nil => rfl
  | cons hab _ ih => rw [List.flatMap_cons, List.flatMap_cons, hfg _ _ hab, ih]

namespace NotNull

lemma isGenerated_eq {x y : Member} (h : x.Alike y) : x.isGenerated = y.isGenerated := by
  have hfile : (x.method.location.any fun l => l.file.marksGenerated)
      = y.method.location.any fun l => l.file.marksGenerated := by
    rw [Bool.eq_iff_iff, Option.any_eq_true, Option.any_eq_true]
    simpa only [Path.marksGenerated_iff, Option.mem_def, exists_prop] using h.method.file
  rw [Member.isGenerated, Member.isGenerated, Method.isGenerated, Method.isGenerated,
    h.method.generated, hfile, h.method.attributes.markGenerated_eq (by decide),
    h.owner.markGenerated_eq (by decide)]

lemma admits_eq {r : Rule} {x y : Member} (h : x.Alike y) : r.admits x = r.admits y := by
  rw [Rule.admits, Rule.admits, isGenerated_eq h]

lemma eligible_alike {r : Rule} {m n : Model} (h : m.Alike n) :
    List.Forall₂ Member.Alike (r.eligible m) (r.eligible n) := by
  refine List.rel_filter (fun x y hxy => ?_) h.members
  simp only [admits_eq hxy]

lemma appliesTo_eq {x y : Member} (h : x.Alike y) : appliesTo x = appliesTo y := by
  rw [appliesTo, appliesTo, h.method.accessibility, h.owner.named_eq (by decide),
    h.method.attributes.named_eq (by decide)]

lemma finding_eq {p q : Parameter} (h : p.Alike q) : finding p = finding q := by
  have hrefused : Attribute.namedFrom p.attributes notNull notNullModule
      = Attribute.namedFrom q.attributes notNull notNullModule := by
    have hmem : ∀ as : List Attribute, Attribute.namedFrom as notNull notNullModule = true
        ↔ ⟨"NotNullAttribute", some "Microsoft.Scripting"⟩ ∈ as := by
      intro as
      rw [Attribute.namedFrom_iff]
      exact ⟨fun ⟨a, ha, hn, hm⟩ => by cases a; cases hn; cases hm; exact ha,
        fun ha => ⟨_, ha, rfl, rfl⟩⟩
    rw [Bool.eq_iff_iff, hmem, hmem, h.attributes]
  rw [finding, finding, verdict, verdict, concerns, concerns, hrefused, h.type, h.nullability,
    h.name, h.location]

lemma visit_reports_eq {x y : Member} (h : x.Alike y) : (visit x).reports = (visit y).reports := by
  have hfound : x.method.parameters.filterMap finding = y.method.parameters.filterMap finding := by
    rw [List.filterMap_eq_flatMap_toList, List.filterMap_eq_flatMap_toList]
    exact flatMap_eq_of_forall₂ h.method.parameters fun p q hpq => by rw [finding_eq hpq]
  rw [visit, visit, appliesTo_eq h]
  split
  · exact hfound
  · rfl

/-! ### What the linter makes of models that are alike -/

variable {c : Config} {path path' : Path} {m n : Model}

lemma reports_eq_of_alike (h : m.Alike n) :
    (linter c).reports path m = (linter c).reports path' n := by
  rw [reports_eq, reports_eq,
    flatMap_eq_of_forall₂ (eligible_alike h) fun _ _ hxy => visit_reports_eq hxy]

lemma length_checked_eq (h : m.Alike n) :
    ((linter c).checked m).length = ((linter c).checked n).length := by
  refine (List.rel_filter (fun x y hxy => ?_) h.members).length_eq
  simp only [admits_eq hxy]

lemma conclude_eq_of_alike (h : m.Alike n) (found : List Violation) :
    (linter c).conclude m found = (linter c).conclude n found := by
  rw [Linter.conclude, Linter.conclude, length_checked_eq h]

/-- **What the findings depend on.** Whatever the configuration and the paths of the models, the
reports on two models that are alike are equal, counts included. They are also equal finding by
finding when the calls of the rule hand over their reports in any order at all, in either run; and
no check asks for the run to stop. -/
theorem check_eq_of_alike (c : Config) (path path' : Path) (h : m.Alike n) :
    (linter c).check path m = (linter c).check path' n
      ∧ (∀ found found', found.Perm ((linter c).reports path m) →
        found'.Perm ((linter c).reports path' n) →
        List.Forall₂ (fun v w => v.same w = true) ((linter c).conclude m found).violations
            ((linter c).conclude n found').violations
          ∧ ((linter c).conclude m found).filesChecked = ((linter c).conclude n found').filesChecked
          ∧ ((linter c).conclude m found).methodsChecked
            = ((linter c).conclude n found').methodsChecked)
      ∧ (linter c).cancels path m = false ∧ (linter c).cancels path' n = false := by
  refine ⟨?_, fun found found' hfound hfound' => ⟨?_, rfl, ?_⟩, cancels_linter c, cancels_linter c⟩
  · rw [Linter.check, Linter.check, reports_eq_of_alike h, conclude_eq_of_alike h]
  · have hperm : found.Perm found' := (reports_eq_of_alike h ▸ hfound).trans hfound'.symm
    have htie : List.Forall₂ (fun v w => compare v w = .eq)
        ((linter c).conclude m found).violations ((linter c).conclude n found').violations :=
      Report.forall₂_tie_sort (hperm.filterMap _)
    exact forall₂_same_of_tie (isFinding_of_mem hfound) (isFinding_of_mem hfound') htie
  · exact congrArg (fun k : Nat => k.toUInt64) (length_checked_eq h)

/-- A type with a method that scripts can call, and one that a tool wrote. -/
def openModel : Model where
  assembly := "Os"
  types := [{ name := "Os", attributes := [⟨"PythonTypeAttribute", none⟩]
              methods := [
                { name := "Open", accessibility := .everyone
                  parameters := [{ name := "path", type := ⟨"String", none, false⟩
                                   nullability := .notAnnotated
                                   location := ⟨⟨"os.cs"⟩, 3, 7, 0, 0⟩ }] },
                { name := "Close", attributes := [⟨"GeneratedCodeAttribute", none⟩] }] }]

/-- The same under other names, with attributes added and repeated, modules changed, and methods
put in other files. -/
def renamedModel : Model where
  assembly := "Nt"
  types := [{ name := "Nt"
              attributes := [⟨"Obsolete", none⟩, ⟨"PythonTypeAttribute", some "IronPython"⟩,
                ⟨"PythonTypeAttribute", none⟩]
              methods := [
                { name := "OpenFile", accessibility := .everyone
                  attributes := [⟨"NotNullAttribute", some "Microsoft.Scripting"⟩]
                  location := some ⟨⟨"nt.cs"⟩, 9, 1, 0, 0⟩
                  parameters := [{ name := "path", type := ⟨"String", none, false⟩
                                   nullability := .notAnnotated
                                   attributes := [⟨"NotNullAttribute", some "Elsewhere"⟩]
                                   location := ⟨⟨"os.cs"⟩, 3, 7, 0, 0⟩ }] },
                { name := "CloseFile"
                  attributes := [⟨"GeneratedCodeAttribute", some "System"⟩,
                    ⟨"GeneratedCodeAttribute", none⟩] }] }]

lemma openModel_alike : openModel.Alike renamedModel := by
  refine ⟨.cons ⟨by decide, .cons ⟨rfl, rfl, by decide, by decide, ?_⟩ (.cons ?_ .nil)⟩ .nil⟩
  · exact .cons ⟨rfl, rfl, rfl, rfl, by decide⟩ .nil
  · exact ⟨rfl, rfl, by decide, by decide, .nil⟩

/-- Both report the one parameter that lacks the attribute. -/
theorem check_eq_of_alike_renamed :
    openModel.Alike renamedModel
      ∧ (linter {}).check ⟨"os.json"⟩ openModel = (linter {}).check ⟨"nt.json"⟩ renamedModel
      ∧ ((linter {}).check ⟨"os.json"⟩ openModel).violations
        = [lackFinding {} { name := "path", type := ⟨"String", none, false⟩,
                            location := ⟨⟨"os.cs"⟩, 3, 7, 0, 0⟩ }] :=
  ⟨openModel_alike, (check_eq_of_alike {} ⟨"os.json"⟩ ⟨"nt.json"⟩ openModel_alike).1,
    by decide +kernel⟩

end NotNull
end NotNullLint
