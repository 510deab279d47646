import Mathlib.Data.List.Find
import NotNullLint.Config.Origin
import NotNullLint.Proofs.Files.Places

/-!
Where a configuration is found.

A file that was asked for counts, whether or not it is there. Else the analyzed folder and those above
it are searched, the nearest first, and of the two names in one folder the plain one counts. The
global file comes last. So a file further up never counts because of its name, and no global file as
long as some folder on the way holds a file of a project.
-/

namespace NotNullLint

/-! ### Files in a folder -/

/-- The path of that name in a folder leads to a file. -/
def Files.Holds (f : Files) (d : Place) (n : String) : Prop :=
  f.leadsToFile [] (Place.path (d ++ [n])) = true
  deriving Decidable

namespace Files

variable {f : Files} {here d q : Place} {n : String} {p : Path}

lemma leadsToFile_iff : f.leadsToFile here p = true
    ↔ ∃ q content, f.resolve here p = .ok q ∧ f.node? q = some (.file content) := by
  unfold leadsToFile find?
  cases f.resolve here p with
  | error e => simp
  | ok q =>
    cases hnode : f.node? q with
    | none => simp [hnode]
    | some node => cases node <;> simp [hnode]

/-- From wherever it is seen, the path of a place leads to the same. -/
lemma leadsToFile_path (q here : Place) : f.leadsToFile here q.path = f.leadsToFile [] q.path := by
  have habsolute : q.path.isAbsolute = true := by simp [Place.path, Path.isAbsolute]
  have hsame : f.resolve here q.path = f.resolve [] q.path := by
    rw [resolve, resolve, if_pos habsolute, if_pos habsolute]
  rw [leadsToFile, leadsToFile, find?, find?, hsame]

/-- A folder holds a file of a name if it stands there in the tree and the system takes its path. -/
theorem holds_iff (hnames : ∀ s ∈ d ++ [n], IsFileName s) :
    f.Holds d n ↔ (∃ content, f.node? (d ++ [n]) = some (.file content))
      ∧ Place.WithinLimits (d ++ [n]) := by
  rw [Holds, leadsToFile_iff]
  constructor
  · rintro ⟨q, content, hq, hnode⟩
    have hplace : q = d ++ [n] := (resolve_ok hq).trans (Path.destination_path hnames [])
    rw [hplace] at hq hnode
    exact ⟨⟨content, hnode⟩, (resolve_path_iff hnames (by simp [hnode])).1 hq⟩
  · rintro ⟨⟨content, hnode⟩, hlimits⟩
    exact ⟨d ++ [n], content, (resolve_path_iff hnames (by simp [hnode])).2 hlimits, hnode⟩

end Files

/-! ### The file of a project in a folder -/

namespace Config

/-- A folder holds a file of a project. -/
def HasProjectFile (f : Files) (d : Place) : Prop :=
  f.Holds d "ipy-lint.toml" ∨ f.Holds d ".ipy-lint.toml"
  deriving Decidable

/-- The file of a project in the folder `d` has the name `n`: the folder holds it, and the plain name
is preferred. -/
structure IsProjectFile (f : Files) (d : Place) (n : String) : Prop where
  holds : f.Holds d n
  preferred : n = "ipy-lint.toml" ∨ n = ".ipy-lint.toml" ∧ ¬f.Holds d "ipy-lint.toml"

variable {f : Files} {here d e q : Place} {n : String} {p found : Path}

/-- The names of a project's file are names of files. -/
lemma isFileName_of_mem_projectNames (h : n ∈ projectNames) : IsFileName n := by
  obtain rfl | rfl : n = "ipy-lint.toml" ∨ n = ".ipy-lint.toml" := by
    simpa [projectNames] using h
  · decide
  · decide

lemma names_append (hnames : ∀ s ∈ d, IsFileName s) (h : n ∈ projectNames) :
    ∀ s ∈ d ++ [n], IsFileName s := by
  simp only [List.mem_append, List.mem_singleton]
  rintro s (hs | rfl)
  · exact hnames s hs
  · exact isFileName_of_mem_projectNames h

lemma projectFile?_path (hnames : ∀ s ∈ d, IsFileName s) :
    projectFile? f here d.path
      = (projectNames.find? fun n => decide (f.Holds d n)).map fun n => Place.path (d ++ [n]) := by
  have hjoin : projectNames.map (fun n => d.path.join ⟨n⟩)
      = projectNames.map fun n => Place.path (d ++ [n]) :=
    List.map_congr_left fun n hn => Place.join_path (names_append hnames hn)
  have hholds (n : String) : f.leadsToFile here (Place.path (d ++ [n])) = decide (f.Holds d n) := by
    rw [Files.leadsToFile_path]
    exact Bool.decide_eq_true.symm
  rw [projectFile?, hjoin, List.find?_map]
  exact congrArg _ (List.find?_congr fun n _ => hholds n)

/-- The search in one folder gives its file of a project. -/
lemma projectFile?_eq_some_iff (hnames : ∀ s ∈ d, IsFileName s) :
    projectFile? f here d.path = some found
      ↔ ∃ n, IsProjectFile f d n ∧ Place.path (d ++ [n]) = found := by
  rw [projectFile?_path hnames, Option.map_eq_some_iff]
  refine exists_congr fun n => and_congr_left fun _ => ?_
  rw [projectNames, List.find?_cons, List.find?_cons, List.find?_nil]
  constructor
  · intro h
    split at h
    · rename_i hplain
      cases h
      exact ⟨of_decide_eq_true hplain, .inl rfl⟩
    rename_i hplain
    split at h
    · rename_i hdotted
      cases h
      exact ⟨of_decide_eq_true hdotted, .inr ⟨rfl, of_decide_eq_false hplain⟩⟩
    · cases h
  · rintro ⟨hholds, rfl | ⟨rfl, hplain⟩⟩
    · simp [hholds]
    · simp [hholds, hplain]

lemma projectFile?_eq_none_iff (hnames : ∀ s ∈ d, IsFileName s) :
    projectFile? f here d.path = none ↔ ¬HasProjectFile f d := by
  rw [projectFile?_path hnames]
  simp [projectNames, HasProjectFile]

/-! ### The nearest file of a project -/

/-- The nearest file of a project from the folder `q` on is that of the name `n` in the folder `d`: it
is `q` or above it, and no folder in between holds such a file. -/
structure IsNearest (f : Files) (q d : Place) (n : String) : Prop where
  file : IsProjectFile f d n
  above : d <+: q
  nearest : ∀ e, e <+: q → d.length < e.length → ¬HasProjectFile f e

lemma pairwise_inits (q : Place) : q.inits.Pairwise fun d e => d.length < e.length := by
  induction q using List.reverseRecOn with
  | nil => simp
  | append_singleton q n ih =>
    have hinits : (q ++ [n]).inits = q.inits ++ [q ++ [n]] := by simp [List.inits_append]
    rw [hinits, List.pairwise_append]
    refine ⟨ih, List.pairwise_singleton _ _, fun d hd e he => ?_⟩
    rw [List.mem_singleton.1 he, List.length_append]
    exact Nat.lt_succ_of_le ((List.mem_inits d q).1 hd).length_le

/-- What comes before a folder in a search is what is nearer. -/
lemma mem_nearer_iff {nearer farther : List Place} (h : q.inits.reverse = nearer ++ d :: farther) :
    e ∈ nearer ↔ e <+: q ∧ d.length < e.length := by
  have hmem : e <+: q ↔ e ∈ nearer ∨ e = d ∨ e ∈ farther := by
    rw [← List.mem_inits, ← List.mem_reverse, h]
    simp
  have hsorted : (nearer ++ d :: farther).Pairwise fun d e => e.length < d.length := by
    rw [← h, List.pairwise_reverse]
    exact pairwise_inits q
  rw [List.pairwise_append, List.pairwise_cons] at hsorted
  obtain ⟨-, ⟨hfarther, -⟩, hnearer⟩ := hsorted
  rw [hmem]
  constructor
  · exact fun he => ⟨.inl he, hnearer e he d List.mem_cons_self⟩
  · rintro ⟨he | rfl | he, hlonger⟩
    · exact he
    · exact absurd hlonger (Nat.lt_irrefl _)
    · exact absurd hlonger (Nat.lt_asymm (hfarther e he))

section

variable (hq : f.resolve here p = .ok q) (hfolder : f.HasFolder q)

include hfolder in
lemma names_above (hd : d <+: q) : ∀ s ∈ d, IsFileName s :=
  fun s hs => hfolder.names s (hd.mem hs)

include hq hfolder

lemma nearestProjectFile?_eq : nearestProjectFile? f here p
    = q.inits.reverse.findSome? fun d : Place => projectFile? f here d.path := by
  rw [nearestProjectFile?, standpoint, hq]
  simp only [Place.ancestors_path hfolder.names, List.findSome?_map, Function.comp_def]

/-- The search finds the nearest file of a project. -/
theorem nearestProjectFile?_eq_some_iff : nearestProjectFile? f here p = some found
    ↔ ∃ d n, IsNearest f q d n ∧ Place.path (d ++ [n]) = found := by
  rw [nearestProjectFile?_eq hq hfolder, List.findSome?_eq_some_iff]
  constructor
  · rintro ⟨nearer, d, farther, hinits, hfound, hnearer⟩
    have hd : d <+: q := by
      rw [← List.mem_inits, ← List.mem_reverse, hinits]
      simp
    obtain ⟨n, hfile, hpath⟩ := (projectFile?_eq_some_iff (names_above hfolder hd)).1 hfound
    refine ⟨d, n, ⟨hfile, hd, fun e he hlonger => ?_⟩, hpath⟩
    rw [← projectFile?_eq_none_iff (names_above hfolder he)]
    exact hnearer e ((mem_nearer_iff hinits).2 ⟨he, hlonger⟩)
  · rintro ⟨d, n, ⟨hfile, hd, hnearest⟩, hpath⟩
    have hmem : d ∈ q.inits.reverse := by simpa using hd
    obtain ⟨nearer, farther, hinits⟩ := List.append_of_mem hmem
    refine ⟨nearer, d, farther, hinits,
      (projectFile?_eq_some_iff (names_above hfolder hd)).2 ⟨n, hfile, hpath⟩, fun e he => ?_⟩
    obtain ⟨he, hlonger⟩ := (mem_nearer_iff hinits).1 he
    exact (projectFile?_eq_none_iff (names_above hfolder he)).2 (hnearest e he hlonger)

/-- The search finds nothing if no folder on the way holds a file of a project. -/
theorem nearestProjectFile?_eq_none_iff :
    nearestProjectFile? f here p = none ↔ ∀ d, d <+: q → ¬HasProjectFile f d := by
  rw [nearestProjectFile?_eq hq hfolder, List.findSome?_eq_none_iff]
  simp only [List.mem_reverse, List.mem_inits]
  exact forall₂_congr fun d hd => projectFile?_eq_none_iff (names_above hfolder hd)

end

/-! ### The source of a configuration -/

lemma globalFile?_eq_some_iff {folder? : Option Path} : globalFile? f here folder? = some found
    ↔ ∃ folder, folder? = some folder ∧ f.leadsToFile here (folder.join ⟨"config.toml"⟩) = true
      ∧ folder.join ⟨"config.toml"⟩ = found := by
  rw [globalFile?, Option.filter_eq_some_iff, Option.map_eq_some_iff, globalName]
  constructor
  · rintro ⟨⟨folder, hfolder, rfl⟩, hholds⟩
    exact ⟨folder, hfolder, hholds, rfl⟩
  · rintro ⟨folder, hfolder, hholds, rfl⟩
    exact ⟨⟨folder, hfolder, rfl⟩, hholds⟩

lemma globalFile?_eq_none_iff {folder? : Option Path} : globalFile? f here folder? = none
    ↔ ∀ folder, folder? = some folder
      → f.leadsToFile here (folder.join ⟨"config.toml"⟩) = false := by
  rw [Option.eq_none_iff_forall_ne_some]
  simp only [ne_eq, globalFile?_eq_some_iff, not_exists, not_and]
  constructor
  · exact fun h folder hfolder => Bool.eq_false_iff.2 fun hholds => h _ folder hfolder hholds rfl
  · exact fun h _ folder hfolder hholds _ => Bool.eq_false_iff.1 (h folder hfolder) hholds

/-- Where a configuration comes from, for the analyzed folder `q`: the file that was asked for; else
the nearest file of a project; else the file in the global folder; else nowhere. -/
inductive ComesFrom (f : Files) (here q : Place) : Option Path → Option Path → Origin → Prop
  | requested (p : Path) (globalFolder : Option Path) :
    ComesFrom f here q (some p) globalFolder (.requested p)
  | project {d : Place} {n : String} (globalFolder : Option Path) (nearest : IsNearest f q d n) :
    ComesFrom f here q none globalFolder (.project (Place.path (d ++ [n])))
  | global (folder : Path) (noProject : ∀ d, d <+: q → ¬HasProjectFile f d)
      (holds : f.leadsToFile here (folder.join ⟨"config.toml"⟩) = true) :
    ComesFrom f here q none (some folder) (.global (folder.join ⟨"config.toml"⟩))
  | builtIn (globalFolder : Option Path) (noProject : ∀ d, d <+: q → ¬HasProjectFile f d)
      (noGlobal : ∀ folder, globalFolder = some folder →
        f.leadsToFile here (folder.join ⟨"config.toml"⟩) = false) :
    ComesFrom f here q none globalFolder .builtIn

lemma comesFrom_originOf (hq : f.resolve here p = .ok q) (hfolder : f.HasFolder q)
    (request globalFolder : Option Path) :
    ComesFrom f here q request globalFolder (originOf f here p request globalFolder) := by
  cases request with
  | some r => exact .requested r globalFolder
  | none =>
    rw [originOf]
    cases hproject : nearestProjectFile? f here p with
    | some found =>
      obtain ⟨d, n, hnearest, rfl⟩ := (nearestProjectFile?_eq_some_iff hq hfolder).1 hproject
      exact .project globalFolder hnearest
    | none =>
      have hnone := (nearestProjectFile?_eq_none_iff hq hfolder).1 hproject
      cases hglobal : globalFile? f here globalFolder with
      | some found =>
        obtain ⟨folder, rfl, hholds, rfl⟩ := globalFile?_eq_some_iff.1 hglobal
        exact .global folder hnone hholds
      | none => exact .builtIn globalFolder hnone (globalFile?_eq_none_iff.1 hglobal)

lemma ComesFrom.originOf_eq {request globalFolder : Option Path} {o : Origin}
    (ho : ComesFrom f here q request globalFolder o) (hq : f.resolve here p = .ok q)
    (hfolder : f.HasFolder q) : originOf f here p request globalFolder = o := by
  cases ho with
  | requested r => rfl
  | project _ hnearest =>
    rw [originOf, (nearestProjectFile?_eq_some_iff hq hfolder).2 ⟨_, _, hnearest, rfl⟩]
  | global folder hnone hholds =>
    rw [originOf, (nearestProjectFile?_eq_none_iff hq hfolder).2 hnone,
      globalFile?_eq_some_iff.2 ⟨folder, rfl, hholds, rfl⟩]
  | builtIn _ hnone hnoGlobal =>
    rw [originOf, (nearestProjectFile?_eq_none_iff hq hfolder).2 hnone,
      globalFile?_eq_none_iff.2 hnoGlobal]

/-- **Where a configuration comes from** if the analyzed path leads to the folder `q`. A folder on the
way to it holds a file of a project if one stands in the tree under that name and the system takes
its path. -/
theorem originOf_eq_iff (hq : f.resolve here p = .ok q) (hfolder : f.HasFolder q)
    (request globalFolder : Option Path) (o : Origin) :
    (originOf f here p request globalFolder = o ↔ ComesFrom f here q request globalFolder o)
    ∧ ∀ d, d <+: q → ∀ n ∈ projectNames, (f.Holds d n
      ↔ (∃ content, f.node? (d ++ [n]) = some (.file content))
        ∧ Place.WithinLimits (d ++ [n])) := by
  refine ⟨⟨?_, fun ho => ho.originOf_eq hq hfolder⟩, fun d hd n hn => ?_⟩
  · rintro rfl
    exact comesFrom_originOf hq hfolder request globalFolder
  · exact Files.holds_iff (names_append (names_above hfolder hd) hn)

/-- A folder that is called like a project's file, below the file of a project with the dotted name
and that of another one with the plain name, and a global file. -/
def nestedProjects : Files where
  entries := [(["g"], .folder), (["g", "config.toml"], .file "".toUTF8),
    (["ipy-lint.toml"], .file "".toUTF8), (["w"], .folder),
    (["w", ".ipy-lint.toml"], .file "".toUTF8), (["w", "sub"], .folder),
    (["w", "sub", "ipy-lint.toml"], .folder)]
  sorted := by decide
  named := by decide
  closed := by decide

/-- The folder does not count, and the nearer file does. -/
theorem comesFrom_nestedProjects :
    ComesFrom nestedProjects ["w"] ["w", "sub"] none (some ⟨"/g"⟩)
      (.project ⟨"/w/.ipy-lint.toml"⟩) := by
  have hsub : nestedProjects.resolve ["w"] ⟨"sub"⟩ = .ok ["w", "sub"] := by decide +kernel
  have horigin : originOf nestedProjects ["w"] ⟨"sub"⟩ none (some ⟨"/g"⟩)
      = .project ⟨"/w/.ipy-lint.toml"⟩ := by decide +kernel
  exact (originOf_eq_iff hsub (by decide) none (some ⟨"/g"⟩) _).1.1 horigin

end Config
end NotNullLint
