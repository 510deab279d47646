import NotNullLint.CommandLine.Program
import NotNullLint.Proofs.Files.Folder
import NotNullLint.Proofs.Toml.Record

/-!
Which folder a check analyzes.

A path that was given wins, and a root that the configuration file names comes next, seen from the
folder of that file. With neither of them a check is meant for the working directory; but it goes to
the folder of the configuration file, which is another one as soon as the file was found above the
working directory, in the folder for the global file, or by its path.
-/

namespace NotNullLint

/-! ### The root that a configuration names -/

/-- The text that a tree is. -/
def Toml.text? : Toml → Option String
  | text s => some s
  | _ => none

/-- The root that a tree for a scope names, under its key or as the first of its values. -/
def Scope.rootIn (v : Toml) : Option Path :=
  (match v.items? with
    | some vs => vs.head?
    | none => v.entries?.bind fun es => es.lookup "root").bind fun t => t.text?.map Path.mk

namespace Config

/-- The root that the text of a configuration file names. -/
def rootNamed? (text : String) : Option Path :=
  (Toml.read? text).bind fun es => (es.lookup "analyzer").bind Scope.rootIn

lemma root_ofVal (w : Scope.members.Val) :
    (Scope.ofVal w).root = ((w.1 : Option String).map Path.mk).getD ⟨"."⟩ := rfl

lemma map_mk_of_readAs {slot : Option String} {t : Option Toml}
    (h : Toml.ReadAs (Shaped.shape Path) slot t) :
    slot.map Path.mk = t.bind fun t => t.text?.map Path.mk := by
  cases t with
  | none => rw [show slot = none from h]; rfl
  | some t =>
    obtain ⟨u, hu, hslot⟩ := h
    rw [hslot, Toml.readTree_text_ok hu]
    rfl

lemma root_of_readTree {v : Toml} {w : Scope.members.Val}
    (h : Toml.readTree (.record "AnalyzerConfig" Scope.members) v = .ok w) :
    (Scope.ofVal w).root = (Scope.rootIn v).getD ⟨"."⟩ := by
  rw [root_ofVal]
  congr 1
  cases hitems : v.items? with
  | some vs =>
    simp only [Toml.readTree, hitems] at h
    rw [map_mk_of_readAs (Toml.readValues_optional_ok h), Scope.rootIn, hitems]
  | none =>
    cases hentries : v.entries? with
    | none => simp only [Toml.readTree, hitems, hentries] at h; cases h
    | some es =>
      obtain ⟨found, hfound, hclose⟩ := Toml.readTree_record_ok hitems hentries h
      have hslot := (Toml.readMembers_cons hfound).2.2 rfl
      rw [← (Toml.close_optional_ok hclose).1] at hslot
      rw [map_mk_of_readAs hslot, Scope.rootIn, hitems, hentries]
      rfl

lemma root_of_members {es : Toml.Entries} {w : members.Val}
    (h : Toml.readTree (.record "Config" members) (.table .header es) = .ok w) :
    (ofVal w).scope.root = ((es.lookup "analyzer").bind Scope.rootIn).getD ⟨"."⟩ := by
  obtain ⟨found, hfound, hclose⟩ := Toml.readTree_record_ok rfl rfl h
  have hothers := (Toml.readMembers_cons hfound).1
  have hslot := (Toml.readMembers_cons hothers).2.2 rfl
  rw [Toml.lookup_filter_ne (by decide), ← (Toml.close_optional_ok
    (Toml.close_optional_ok hclose).2).1] at hslot
  have hscope : (ofVal w).scope = (w.2.1).elim {} Scope.ofVal := rfl
  rw [hscope]
  cases hlookup : es.lookup "analyzer" with
  | none =>
    rw [hlookup] at hslot
    rw [show w.2.1 = none from hslot]
    rfl
  | some v =>
    rw [hlookup] at hslot
    obtain ⟨u, hu, hslot⟩ := hslot
    rw [hslot]
    exact root_of_readTree hu

/-- A configuration has the root that its text names, or else the folder that it is seen from. -/
theorem root_ofText {text : String} {c : Config} (h : ofText text = .ok c) :
    c.scope.root = (rootNamed? text).getD ⟨"."⟩ := by
  unfold ofText at h
  cases hread : Toml.read? text with
  | none => simp only [hread] at h; cases h
  | some es =>
    simp only [hread] at h
    cases hw : Toml.readTree (.record "Config" members) (.table .header es) with
    | error m => simp only [hw] at h; cases h
    | ok w =>
      simp only [hw] at h
      cases h
      rw [root_of_members hw, rootNamed?, hread]
      rfl

/-- The root that the file of a configuration names. -/
def Origin.rootNamed? (f : Files) (here : Place) (o : Origin) : Option Path :=
  o.path?.bind fun p => (f.read here p).toOption.bind Config.rootNamed?

/-- The folder that a configuration is seen from: that of its file, if it has one. -/
def Origin.place (here : Place) (o : Origin) : Place :=
  match o.path? with
  | some p => (p.destination here).dropLast
  | none => here

lemma read_of_ofOrigin {f : Files} {here : Place} {o : Origin} {c : Config} {p : Path}
    (h : ofOrigin f here o = .ok c) (hpath : o.path? = some p) :
    ∃ text, f.read here p = .ok text ∧ ofText text = .ok c := by
  simp only [ofOrigin, hpath, Config.load] at h
  cases hread : f.read here p with
  | error e => rw [hread] at h; cases h
  | ok text =>
    rw [hread] at h
    exact ⟨text, rfl, Except.mapError_eq_ok_iff.1 h⟩

theorem root_ofOrigin {f : Files} {here : Place} {o : Origin} {c : Config}
    (h : ofOrigin f here o = .ok c) : c.scope.root = (o.rootNamed? f here).getD ⟨"."⟩ := by
  cases hpath : o.path? with
  | none =>
    rw [ofOrigin, hpath] at h
    cases h
    simp [Origin.rootNamed?, hpath]
  | some p =>
    obtain ⟨text, hread, hc⟩ := read_of_ofOrigin h hpath
    simp [Origin.rootNamed?, hpath, hread, Except.toOption, root_ofText hc]

lemma rootFor_none (c : Config) (o : Origin) :
    c.rootFor o none = ((o.path?.map Path.folder).getD ⟨""⟩).join c.scope.root := by
  have hempty : Path.join ⟨""⟩ c.scope.root = c.scope.root := by
    unfold Path.join
    split
    · rfl
    · simp
  unfold rootFor Origin.folder?
  cases o.path? with
  | none => exact hempty.symm
  | some p =>
    simp only [Option.bind_some, Option.map_some, Option.getD_some, Path.folder]
    cases p.parent? with
    | none => exact hempty.symm
    | some d => rfl

/-- A root in a configuration is seen from the folder of the file. -/
lemma destination_rootFor_none {f : Files} {here : Place} {o : Origin} {c : Config}
    (h : ofOrigin f here o = .ok c) :
    (c.rootFor o none).destination here = c.scope.root.destination (o.place here) := by
  rw [rootFor_none, Path.destination_join]
  congr 1
  unfold Origin.place
  cases hpath : o.path? with
  | none => exact Path.destination_empty here
  | some p =>
    obtain ⟨text, hread, -⟩ := read_of_ofOrigin h hpath
    exact Path.destination_folder hread

lemma scope_restrictTo (c : Config) (names : List String) :
    (c.restrictTo names).scope = c.scope := by
  unfold restrictTo
  generalize Catalog.descriptors.filter (fun d => !d.isNamed names) = ds
  induction ds generalizing c with
  | nil => rfl
  | cons d ds ih => exact ih (c.disable d.code)

lemma scope_narrow (c : Config) (rules : Option String) : (c.narrow rules).scope = c.scope := by
  cases rules with
  | none => rfl
  | some list => exact scope_restrictTo c (Catalog.namesIn list)

end Config

/-! ### The root of a check -/

namespace CommandLine

variable {f : Files} {here : Place} {o : Config.Origin} {c : Config}

/-- The folder that a check is meant for: a path that was given, or else the root that the
configuration file names, or else the working directory. -/
def intendedRoot (f : Files) (here : Place) (o : Config.Origin) : Option Path → Place
  | some p => p.destination here
  | none =>
    match o.rootNamed? f here with
    | some r => r.destination (o.place here)
    | none => here

lemma root_analyzerFor (here : Place) (o : Config.Origin) (c : Config) (q : CheckOptions) :
    (analyzerFor here o c q).search.root = here.path.join (c.rootFor o q.path) := by
  have hroot : (c.narrow q.rules).rootFor o q.path = c.rootFor o q.path := by
    simp only [Config.rootFor, Config.scope_narrow]
  rw [← hroot]
  rfl

lemma destination_root_given (hhere : f.HasFolder here) {q : CheckOptions} {p : Path}
    (hp : q.path = some p) :
    (analyzerFor here o c q).search.root.destination here = p.destination here := by
  rw [root_analyzerFor, hp, Path.destination_join, Path.destination_path hhere.names]
  rfl

lemma destination_root_configured (hc : Config.ofOrigin f here o = .ok c)
    (hhere : f.HasFolder here) {q : CheckOptions} (hp : q.path = none) :
    (analyzerFor here o c q).search.root.destination here
      = ((o.rootNamed? f here).getD ⟨"."⟩).destination (o.place here) := by
  rw [root_analyzerFor, hp, Path.destination_join, Path.destination_path hhere.names,
    Config.destination_rootFor_none hc, Config.root_ofOrigin hc]

/-- **Which folder a check analyzes.** It is the one that the check is meant for, unless neither a
path is given nor a root named, and the configuration file stands in another folder than the working
directory: then it is the folder of that file. -/
theorem destination_root (hc : Config.ofOrigin f here o = .ok c) (hhere : f.HasFolder here)
    (q : CheckOptions) :
    ((analyzerFor here o c q).search.root.destination here = intendedRoot f here o q.path
      ↔ (q.path = none → o.rootNamed? f here = none → o.place here = here))
    ∧ (q.path = none → o.rootNamed? f here = none →
      (analyzerFor here o c q).search.root.destination here = o.place here) := by
  cases hp : q.path with
  | some p =>
    refine ⟨iff_of_true ?_ (fun h => nomatch h), fun h => nomatch h⟩
    exact destination_root_given hhere hp
  | none =>
    rw [destination_root_configured hc hhere hp, intendedRoot]
    cases o.rootNamed? f here with
    | some r => exact ⟨iff_of_true rfl (fun _ h => nomatch h), fun _ h => nomatch h⟩
    | none => exact ⟨⟨fun h _ _ => h, fun h => h rfl rfl⟩, fun _ _ => rfl⟩

/-- Two projects with a folder each below their configuration file, which names a root in the first
of them only. -/
def twoProjects : Files where
  entries := [(["v"], .folder),
    (["v", "ipy-lint.toml"], .file "[analyzer]\nroot = \"obj\"\n".toUTF8),
    (["v", "sub"], .folder), (["w"], .folder), (["w", "ipy-lint.toml"], .file "".toUTF8),
    (["w", "sub"], .folder)]
  sorted := by decide
  named := by decide
  closed := by decide

/-- Where a check without a path finds its configuration in a folder of the two projects. -/
def foundFrom (here : Place) : Config.Origin :=
  Config.originOf twoProjects here defaultPath none none

lemma foundFrom_v : foundFrom ["v", "sub"] = .project ⟨"/v/ipy-lint.toml"⟩ := by decide +kernel

lemma foundFrom_w : foundFrom ["w", "sub"] = .project ⟨"/w/ipy-lint.toml"⟩ := by decide +kernel

/-- Below the first project, a check goes where it is meant to go. -/
theorem destination_root_named :
    ∃ c, Config.ofOrigin twoProjects ["v", "sub"] (foundFrom ["v", "sub"]) = .ok c
      ∧ (analyzerFor ["v", "sub"] (foundFrom ["v", "sub"]) c {}).search.root.destination
        ["v", "sub"] = ["v", "obj"] := by
  have hok : (Config.ofOrigin twoProjects ["v", "sub"] (foundFrom ["v", "sub"])).isOk = true := by
    rw [foundFrom_v]
    decide +kernel
  have hnamed : (foundFrom ["v", "sub"]).rootNamed? twoProjects ["v", "sub"] = some ⟨"obj"⟩ := by
    rw [foundFrom_v]
    decide +kernel
  have hintended : intendedRoot twoProjects ["v", "sub"] (foundFrom ["v", "sub"]) none
      = ["v", "obj"] := by
    rw [intendedRoot, hnamed, foundFrom_v]
    decide +kernel
  cases hc : Config.ofOrigin twoProjects ["v", "sub"] (foundFrom ["v", "sub"]) with
  | error e => rw [hc] at hok; cases hok
  | ok c =>
    refine ⟨c, rfl, hintended ▸ (destination_root hc (by decide) {}).1.2 fun _ h => ?_⟩
    rw [hnamed] at h
    cases h

/-- Below the second project, a check without a path does not analyze the working directory. -/
theorem destination_root_unnamed :
    ∃ c, Config.ofOrigin twoProjects ["w", "sub"] (foundFrom ["w", "sub"]) = .ok c
      ∧ (analyzerFor ["w", "sub"] (foundFrom ["w", "sub"]) c {}).search.root.destination
        ["w", "sub"] ≠ intendedRoot twoProjects ["w", "sub"] (foundFrom ["w", "sub"]) none := by
  have hok : (Config.ofOrigin twoProjects ["w", "sub"] (foundFrom ["w", "sub"])).isOk = true := by
    rw [foundFrom_w]
    decide +kernel
  have hunnamed : (foundFrom ["w", "sub"]).rootNamed? twoProjects ["w", "sub"] = none := by
    rw [foundFrom_w]
    decide +kernel
  cases hc : Config.ofOrigin twoProjects ["w", "sub"] (foundFrom ["w", "sub"]) with
  | error e => rw [hc] at hok; cases hok
  | ok c =>
    refine ⟨c, rfl, ?_⟩
    rw [destination_root_configured hc (by decide) rfl, intendedRoot, hunnamed, foundFrom_w]
    decide +kernel

end CommandLine
end NotNullLint
