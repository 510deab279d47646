import NotNullLint.Config.Basic
import NotNullLint.Proofs.Analysis.ModelFiles
import NotNullLint.Proofs.Glob.Spots

/-!
Which files the default pattern discovers.

The text of the root is read as part of the pattern. As long as nothing in it is a wildcard, a
search finds what stands below the root under names that end like those of model files, less what
is excluded, once each and in order; where the root lies makes no difference. A root with a wildcard
in its text may lead elsewhere.
-/

namespace NotNullLint

/-! ### Names below a place -/

/-- The last name is that of a model file. -/
def NamesModel (ns : List String) : Prop :=
  ∃ n ∈ ns.getLast?, ".symbols.json".toList <:+ n.toList
  deriving Decidable

namespace Files

variable {f : Files} {r : Place} {ns : List String}

/-- The ways down from a place, in order. -/
def namesBelow (f : Files) (r : Place) : List (List String) :=
  (f.below r).map (·.drop r.length)

lemma mem_namesBelow : ns ∈ f.namesBelow r ↔ ns ≠ [] ∧ (f.node? (r ++ ns)).isSome = true := by
  rw [namesBelow, List.mem_map]
  constructor
  · rintro ⟨q, hq, rfl⟩
    obtain ⟨ms, hne, rfl, hsome⟩ := mem_below_iff.1 hq
    rw [List.drop_left]
    exact ⟨hne, hsome⟩
  · rintro ⟨hne, hsome⟩
    exact ⟨r ++ ns, mem_below_iff.2 ⟨ns, hne, rfl, hsome⟩, List.drop_left⟩

lemma names_of_mem_namesBelow (h : ns ∈ f.namesBelow r) : ∀ n ∈ ns, IsFileName n := fun n hn =>
  names_of_node? (mem_namesBelow.1 h).2 n (List.mem_append_right r hn)

lemma pairwise_namesBelow (f : Files) (r : Place) :
    (f.namesBelow r).Pairwise fun ns ms => compare ns ms = .lt := by
  have horder : (f.below r).Pairwise fun p q => compare p q = .lt :=
    (List.pairwise_map.2 f.sorted).filter _
  refine List.pairwise_map.2 (horder.imp_of_mem fun {p q} hp hq hlt => ?_)
  obtain ⟨ns, -, rfl, -⟩ := mem_below_iff.1 hp
  obtain ⟨ms, -, rfl, -⟩ := mem_below_iff.1 hq
  rw [Path.compare_append] at hlt
  rwa [List.drop_left, List.drop_left]

/-- The ways down are told by where they lead. -/
lemma namesBelow_congr {g : Files} {t : Place}
    (h : ∀ ns, (g.node? (t ++ ns)).isSome = (f.node? (r ++ ns)).isSome) :
    g.namesBelow t = f.namesBelow r := by
  refine eq_of_mem_iff_of_lt (pairwise_namesBelow g t) (pairwise_namesBelow f r) fun ns => ?_
  rw [mem_namesBelow, mem_namesBelow, h]

end Files

/-! ### A root without wildcards as a pattern -/

namespace Search

/-- The search looks with the default pattern below a folder, to which a path without wildcards
leads. -/
structure Standard (s : Search) (f : Files) (r : Place) : Prop where
  includes : s.includes = ({} : Scope).includes
  absolute : s.root.isAbsolute = true
  plain : ∀ c ∈ s.root.text.toList, Glob.IsPlain c
  leads : f.resolve [] s.root = .ok r
  folder : f.node? r = some .folder

variable {s : Search} {f : Files} {r : Place}

/-- The default pattern. -/
abbrev everyModel : String := "**/*.symbols.json"

/-- Its last component. -/
def modelPattern : Glob.Pattern := .sequence :: Glob.literally ".symbols.json".toList

/-- The pieces of a path without wildcards have none. -/
lemma plain_of_mem_pieces {p : Path} (h : ∀ c ∈ p.text.toList, Glob.IsPlain c) {n : String}
    (hn : n ∈ p.pieces) : ∀ c ∈ n.toList, Glob.IsPlain c := by
  obtain ⟨piece, hpiece, rfl⟩ := List.mem_map.1 hn
  rw [String.toList_ofList]
  exact fun c hc => h c (Path.subset_of_mem_splitOn hpiece hc)

lemma toList_fromRoot (s : Search) (pattern : String) :
    (s.fromRoot pattern).toList = s.root.text.toList ++ '/' :: pattern.toList := by
  simp [fromRoot]

/-- The components of the root come first, and then those of the default pattern. -/
lemma components_fromRoot {ss : List String} (hpieces : s.root.pieces = "" :: ss)
    (hne : ss ≠ []) : Glob.components (s.fromRoot everyModel).toList
      = ss.map String.toList ++ ["**".toList, "*.symbols.json".toList] := by
  have hpattern : everyModel.toList.splitOn '/' = ["**".toList, "*.symbols.json".toList] := by
    decide
  obtain ⟨rest, hrest, hcut⟩ :=
    Path.toList_of_isAbsolute (Path.isAbsolute_of_pieces hpieces hne)
  rw [hpieces, List.tail_cons] at hcut
  rw [Glob.components, toList_fromRoot, hrest, List.cons_append, List.head?_cons, if_pos rfl,
    List.tail_cons, List.splitOn_append_cons_self, hcut, hpattern]
  simp

lemma parse_fromRoot (h : s.Standard f r) :
    Glob.parse (s.fromRoot everyModel).toList
      = .ok (Glob.literally s.root.text.toList ++ .char '/' :: .folders :: modelPattern) := by
  rw [toList_fromRoot]
  exact Glob.tokens_append_slash h.plain (fun _ _ => rfl) 0 true

/-- The root as its pieces spell it one by one. -/
def base (s : Search) : Path := s.root.pieces.tail.foldl (fun p n => p.join ⟨n⟩) ⟨"/"⟩

lemma base_spec (h : s.root.isAbsolute = true) :
    s.base.isAbsolute = true ∧ s.base.components = s.root.components := by
  obtain ⟨ss, hpieces, hne⟩ := Path.pieces_of_isAbsolute h
  have hslash : ∀ n ∈ ss, '/' ∉ n.toList := fun n hn =>
    Path.not_mem_of_mem_pieces (hpieces ▸ List.mem_cons_of_mem "" hn)
  have hroot : Path.isAbsolute ⟨"/"⟩ = true := rfl
  rw [base, hpieces, List.tail_cons, Path.components_of_pieces hpieces hne]
  exact Path.components_foldl_join hroot hslash

/-- The path of names below the root. -/
def pathOf (s : Search) (ns : List String) : Path := s.base.join (.ofNames ns)

/-- Following the root comes first, and then looking among all that is below it. -/
lemma Standard.find_eq (h : s.Standard f r) :
    Glob.find f (s.fromRoot everyModel)
      = .ok (((f.below r).map (Glob.Spot.down ⟨s.base, r⟩)).filter
          fun t => modelPattern.accepts t.name) := by
  obtain ⟨ss, hpieces, hne⟩ := Path.pieces_of_isAbsolute h.absolute
  have hparse : (Glob.components (s.fromRoot everyModel).toList).mapM Glob.parse
      = .ok (ss.map (Glob.literally ·.toList) ++ [[.folders], modelPattern]) := by
    have hplain : ∀ n ∈ ss, ∀ c ∈ n.toList, Glob.IsPlain c := fun n hn =>
      plain_of_mem_pieces h.plain (hpieces ▸ List.mem_cons_of_mem "" hn)
    rw [components_fromRoot hpieces hne, List.mapM_append, Glob.mapM_parse_plain hplain]
    rfl
  have hlast : (s.fromRoot everyModel).toList.getLast? ≠ some '/' := by
    have hend : ('/' :: everyModel.toList).getLast? = some 'n' := by decide
    simp [toList_fromRoot, List.getLast?_append, hend]
  have hwalk : ss.foldlM f.step [] = .ok r := by
    have hsteps := Files.foldlM_of_resolve h.leads
    rw [h.absolute, if_pos rfl, hpieces, List.foldlM_cons] at hsteps
    exact hsteps
  have hbase : ss.foldl (fun p n => p.join ⟨n⟩) ⟨"/"⟩ = s.base := by
    rw [base, hpieces, List.tail_cons]
  have hfolder : Glob.Spot.isFolder f ⟨s.base, r⟩ = true := by
    simp [Glob.Spot.isFolder, h.folder]
  have hexpand : Glob.expand f false
        (ss.map (Glob.literally ·.toList) ++ [[.folders], modelPattern]) ⟨⟨"/"⟩, []⟩ = _ :=
    Glob.expand_plain hwalk _
  rw [hbase, Glob.expand_deep rfl hfolder] at hexpand
  simp only [Glob.find, parse_fromRoot h, hparse, hlast, hexpand, bind, Except.bind, pure,
    Except.pure, decide_false]

/-- What is found under some names below the root. -/
lemma down_base {ns : List String} (hne : ns ≠ []) :
    (Glob.Spot.down ⟨s.base, r⟩ (r ++ ns)).path = s.pathOf ns
      ∧ modelPattern.accepts (Glob.Spot.down ⟨s.base, r⟩ (r ++ ns)).name
        = decide (NamesModel ns) := by
  have hdown : Glob.Spot.down ⟨s.base, r⟩ (r ++ ns) = ⟨s.pathOf ns, r ++ ns⟩ :=
    Glob.Spot.down_append ⟨s.base, r⟩ ns
  obtain ⟨ms, n, rfl⟩ := List.eq_nil_or_concat ns |>.resolve_left hne
  rw [hdown]
  refine ⟨rfl, ?_⟩
  rw [Bool.eq_iff_iff, modelPattern, Glob.accepts_sequence_literally, decide_eq_true_iff,
    NamesModel]
  simp [Glob.Spot.name, ← List.append_assoc]

/-- **What the default pattern finds**: what stands below the root under the name of a model
file. -/
theorem Standard.found_eq (h : s.Standard f r) :
    s.found f everyModel = .ok (((f.namesBelow r).filter NamesModel).map s.pathOf) := by
  have hfilter : (f.below r).filter
        ((fun t => modelPattern.accepts t.name) ∘ Glob.Spot.down ⟨s.base, r⟩)
      = (f.below r).filter ((fun ns => decide (NamesModel ns)) ∘ List.drop r.length) := by
    refine List.filter_congr fun q hq => ?_
    obtain ⟨ns, hne, rfl, -⟩ := Files.mem_below_iff.1 hq
    rw [Function.comp_apply, Function.comp_apply, List.drop_left]
    exact (down_base hne).2
  rw [found, h.find_eq, Except.map, List.filter_map, List.map_map, Files.namesBelow,
    List.filter_map, List.map_map, hfilter]
  refine congrArg Except.ok (List.map_congr_left fun q hq => ?_)
  obtain ⟨ns, hne, rfl, -⟩ := Files.mem_below_iff.1 (List.mem_of_mem_filter hq)
  rw [Function.comp_apply, Function.comp_apply, List.drop_left]
  exact (down_base hne).1

/-! ### What is discovered -/

/-- What stands under the names below the root is excluded. -/
def hides (s : Search) (ns : List String) : Bool :=
  s.excludes.any (patternExcludes ('/' :: (Path.ofNames ns).text.toList))

/-- The names below the root of what is discovered. -/
def modelNames (s : Search) (f : Files) (r : Place) : List (List String) :=
  ((f.namesBelow r).filter NamesModel).filter fun ns => !s.hides ns

section

variable {ns : List String}

lemma relativeTo?_pathOf (h : s.root.isAbsolute = true) (hns : ns ∈ f.namesBelow r) :
    (s.pathOf ns).relativeTo? s.root = some (.ofNames ns) := by
  obtain ⟨-, hcomponents⟩ := base_spec h
  exact Path.relativeTo?_join_ofNames hcomponents.symm
    (Files.names_of_mem_namesBelow hns) (Files.mem_namesBelow.1 hns).1

/-- Whether something is excluded can be told from its names below the root. -/
lemma excluded_pathOf (h : s.root.isAbsolute = true) (hns : ns ∈ f.namesBelow r) :
    s.excluded (s.pathOf ns) = s.hides ns := by
  rw [excluded, seen, relativeTo?_pathOf h hns, hides]

lemma components_pathOf (h : s.root.isAbsolute = true) (hns : ns ∈ f.namesBelow r) :
    (s.pathOf ns).components = s.root.components ++ ns.map .name := by
  obtain ⟨habsolute, hcomponents⟩ := base_spec h
  rw [← hcomponents]
  exact Path.components_join_ofNames habsolute (Files.names_of_mem_namesBelow hns)
    (Files.mem_namesBelow.1 hns).1

lemma destination_pathOf (h : s.Standard f r) (hns : ns ∈ f.namesBelow r) :
    (s.pathOf ns).destination [] = r ++ ns := by
  obtain ⟨habsolute, hcomponents⟩ := base_spec h.absolute
  rw [pathOf, Path.destination_join,
    Path.destination_of_components habsolute h.absolute hcomponents, ← Files.resolve_ok h.leads]
  obtain ⟨hne, -⟩ := Files.mem_namesBelow.1 hns
  exact Path.destination_ofNames (Files.names_of_mem_namesBelow hns) hne r

lemma pairwise_pathOf (h : s.root.isAbsolute = true) :
    ((f.namesBelow r).map s.pathOf).Pairwise fun p q => compare p q = .lt := by
  refine List.pairwise_map.2 ((Files.pairwise_namesBelow f r).imp_of_mem fun hns hms hlt => ?_)
  rw [pathOf, pathOf, Path.compare_join_ofNames (base_spec h).1
    (Files.names_of_mem_namesBelow hns) (Files.names_of_mem_namesBelow hms)
    (Files.mem_namesBelow.1 hns).1 (Files.mem_namesBelow.1 hms).1]
  exact hlt

end

lemma mem_modelNames {ns : List String} : ns ∈ s.modelNames f r
    ↔ (ns ≠ [] ∧ (f.node? (r ++ ns)).isSome = true) ∧ NamesModel ns ∧ s.hides ns = false := by
  simp only [modelNames, List.mem_filter, Files.mem_namesBelow, decide_eq_true_iff,
    Bool.not_eq_true', and_assoc]

lemma Standard.files_eq (h : s.Standard f r) :
    s.files f = .ok ((s.modelNames f r).map s.pathOf) := by
  have hsub : ((f.namesBelow r).filter NamesModel).Sublist (f.namesBelow r) := List.filter_sublist
  have hkept : ((f.namesBelow r).filter NamesModel).filter ((fun p => !s.excluded p) ∘ s.pathOf)
      = s.modelNames f r :=
    List.filter_congr fun ns hns => by
      rw [Function.comp_apply, excluded_pathOf h.absolute (hsub.subset hns)]
  have horder := (pairwise_pathOf h.absolute).sublist (hsub.map s.pathOf)
  rw [files_of_found h.includes h.found_eq horder, List.filter_map, hkept]

/-- What is discovered, by its names below the root. -/
lemma Standard.files_of_modelNames (h : s.Standard f r) (nss : List (List String)) {ps : List Path}
    (hnames : s.modelNames f r = nss) (hpaths : nss.map s.pathOf = ps) : s.files f = .ok ps := by
  rw [h.files_eq, hnames, hpaths]

/-- What is discovered can be told from what stands below the root and what is excluded there. -/
lemma modelNames_congr {t : Search} {g : Files} {r' : Place} (hexcludes : t.excludes = s.excludes)
    (hbelow : ∀ ns, (g.node? (r' ++ ns)).isSome = (f.node? (r ++ ns)).isSome) :
    t.modelNames g r' = s.modelNames f r := by
  rw [modelNames, modelNames, Files.namesBelow_congr hbelow]
  exact List.filter_congr fun ns _ => by rw [hides, hides, hexcludes]

lemma relativeTo?_modelNames (h : s.root.isAbsolute = true) :
    ((s.modelNames f r).map s.pathOf).map (·.relativeTo? s.root)
      = (s.modelNames f r).map fun ns => some (.ofNames ns) := by
  rw [List.map_map]
  refine List.map_congr_left fun ns hns => ?_
  exact relativeTo?_pathOf h (List.mem_of_mem_filter (List.mem_of_mem_filter hns))

/-- **Discovery is exact.** Below a root without wildcards in its path, the default pattern
discovers in order, and once each, what stands there under the name of a model file and is not
excluded. A tree that looks the same below another such root has the same files discovered. -/
theorem files_of_standard (h : s.Standard f r) :
    ∃ ps, s.files f = .ok ps
      ∧ ps.Pairwise (fun p q => compare p q = .lt)
      ∧ (∀ p, p ∈ ps ↔ ∃ ns, (f.node? (r ++ ns)).isSome = true ∧ NamesModel ns
        ∧ p = s.pathOf ns ∧ s.excluded p = false)
      ∧ (∀ ns, (f.node? (r ++ ns)).isSome = true → NamesModel ns →
        (s.pathOf ns).components = s.root.components ++ ns.map .name
          ∧ (s.pathOf ns).destination [] = r ++ ns)
      ∧ (∀ (t : Search) (g : Files) (r' : Place), t.Standard g r' → t.excludes = s.excludes →
        (∀ ns, (g.node? (r' ++ ns)).isSome = (f.node? (r ++ ns)).isSome) →
        ∃ qs, t.files g = .ok qs
          ∧ qs.map (·.relativeTo? t.root) = ps.map (·.relativeTo? s.root)) := by
  have hbelow {ns : List String} (hsome : (f.node? (r ++ ns)).isSome = true)
      (hmodel : NamesModel ns) : ns ∈ f.namesBelow r := by
    obtain ⟨n, hn, -⟩ := hmodel
    exact Files.mem_namesBelow.2 ⟨List.ne_nil_of_mem (List.mem_of_getLast? hn), hsome⟩
  refine ⟨_, h.files_eq, ?_, fun p => ?_, fun ns hsome hmodel => ?_,
    fun t g r' ht hexcludes hsame => ?_⟩
  · exact (pairwise_pathOf h.absolute).sublist
      ((List.filter_sublist.trans List.filter_sublist).map s.pathOf)
  · rw [List.mem_map]
    constructor
    · rintro ⟨ns, hns, rfl⟩
      obtain ⟨hin, hmodel, hhides⟩ := mem_modelNames.1 hns
      exact ⟨ns, hin.2, hmodel, rfl,
        (excluded_pathOf h.absolute (Files.mem_namesBelow.2 hin)).trans hhides⟩
    · rintro ⟨ns, hsome, hmodel, rfl, hkept⟩
      have hin := hbelow hsome hmodel
      rw [excluded_pathOf h.absolute hin] at hkept
      exact ⟨ns, mem_modelNames.2 ⟨Files.mem_namesBelow.1 hin, hmodel, hkept⟩, rfl⟩
  · have hin := hbelow hsome hmodel
    exact ⟨components_pathOf h.absolute hin, destination_pathOf h hin⟩
  · refine ⟨_, ht.files_eq, ?_⟩
    rw [relativeTo?_modelNames ht.absolute, relativeTo?_modelNames h.absolute,
      modelNames_congr hexcludes hsame]

/-- A search below `/w` with the default pattern. -/
lemma standard_w (hincludes : s.includes = ({} : Scope).includes) (hroot : s.root = ⟨"/w"⟩)
    (hfolder : f.node? ["w"] = some .folder) : s.Standard f ["w"] where
  includes := hincludes
  absolute := by
    rw [hroot]
    rfl
  plain := by simp [hroot, Glob.IsPlain]
  leads := by
    have hpieces : Path.pieces ⟨"/w"⟩ = ["", "w"] := by rfl
    have habsolute : Path.isAbsolute ⟨"/w"⟩ = true := rfl
    have hshort : ¬Files.maxPath ≤ "/w".utf8ByteSize := by decide
    have hstay : f.step [] "" = .ok [] := by rfl
    have hdown : f.step [] "w" = .ok ["w"] := by
      have htop : f.node? [] = some .folder := rfl
      have hname : ¬Files.maxName < "w".utf8ByteSize := by decide
      simp [Files.step, htop, hfolder, hname]
    simp [Files.resolve, hroot, hpieces, habsolute, hshort, hstay, hdown, bind, Except.bind, pure,
      Except.pure]
  folder := hfolder

/-! ### A folder with brackets in its name -/

/-- Two folders with a model file each. -/
def twoFolders : Files where
  entries := [(["a[b]"], .folder), (["a[b]", "m.symbols.json"], .file "\x7b\x7d".toUTF8),
    (["ab"], .folder), (["ab", "m.symbols.json"], .file "\x7b\x7d".toUTF8)]
  sorted := by decide
  named := by decide
  closed := by decide

/-- The default search below a root. -/
def standard (root : String) : Search where
  root := ⟨root⟩
  includes := ({} : Scope).includes
  excludes := Analyzer.defaultExcludes

/-- One of the folders somewhere else. -/
def movedFolder : Files where
  entries := [(["c"], .folder), (["c", "d"], .folder),
    (["c", "d", "m.symbols.json"], .file "\x7b\x7d".toUTF8)]
  sorted := by decide
  named := by decide
  closed := by decide

lemma standard_twoFolders : (standard "/./ab/").Standard twoFolders ["ab"] where
  includes := rfl
  absolute := rfl
  plain := by simp [standard, Glob.IsPlain]
  leads := Except.toOption_eq_some_iff.1 (by decide)
  folder := by decide

lemma standard_movedFolder : (standard "/c/d").Standard movedFolder ["c", "d"] where
  includes := rfl
  absolute := rfl
  plain := by simp [standard, Glob.IsPlain]
  leads := Except.toOption_eq_some_iff.1 (by decide)
  folder := by decide

/-- The file in the folder is discovered, and so is the one in the moved folder. -/
theorem files_of_standard_moved :
    (standard "/./ab/").Standard twoFolders ["ab"]
      ∧ (standard "/c/d").Standard movedFolder ["c", "d"]
      ∧ ∃ ps qs, (standard "/./ab/").files twoFolders = .ok ps
        ∧ (standard "/c/d").files movedFolder = .ok qs
        ∧ (∃ p ∈ ps, p.destination [] = ["ab", "m.symbols.json"])
        ∧ qs.map (·.relativeTo? ⟨"/c/d"⟩) = ps.map (·.relativeTo? ⟨"/./ab/"⟩) := by
  have hsame (ns : List String) : (movedFolder.node? (["c", "d"] ++ ns)).isSome
      = (twoFolders.node? (["ab"] ++ ns)).isSome := by
    cases ns with
    | nil => decide
    | cons n ms => simp [Files.node?, movedFolder, twoFolders, List.lookup_cons]
  obtain ⟨ps, hps, -, hmem, hpath, hmoved⟩ := files_of_standard standard_twoFolders
  obtain ⟨qs, hqs, hrelative⟩ := hmoved _ _ _ standard_movedFolder rfl hsame
  have hsome : (twoFolders.node? (["ab"] ++ ["m.symbols.json"])).isSome = true := by decide
  have hmodel : NamesModel ["m.symbols.json"] := by decide
  have hkept : (standard "/./ab/").excluded ((standard "/./ab/").pathOf ["m.symbols.json"])
      = false := by
    decide +kernel
  exact ⟨standard_twoFolders, standard_movedFolder, ps, qs, hps, hqs,
    ⟨_, (hmem _).2 ⟨_, hsome, hmodel, rfl, hkept⟩, (hpath _ hsome hmodel).2⟩, hrelative⟩

/-- Below a root with brackets in its name nothing is discovered; its text leads elsewhere. -/
theorem files_bracketRoot :
    (standard "/a[b]").includes = ({} : Scope).includes
      ∧ twoFolders.resolve [] (standard "/a[b]").root = .ok ["a[b]"]
      ∧ twoFolders.node? ["a[b]"] = some .folder
      ∧ (twoFolders.node? ["a[b]", "m.symbols.json"]).isSome = true
      ∧ NamesModel ["m.symbols.json"]
      ∧ (standard "/a[b]").excluded ⟨"/a[b]/m.symbols.json"⟩ = false
      ∧ (standard "/a[b]").files twoFolders = .ok [⟨"/ab/m.symbols.json"⟩] := by
  have hfound : (standard "/a[b]").found twoFolders everyModel
      = .ok [⟨"/ab/m.symbols.json"⟩] := Except.toOption_eq_some_iff.1 (by decide +kernel)
  have hkept : (standard "/a[b]").excluded ⟨"/ab/m.symbols.json"⟩ = false := by decide +kernel
  refine ⟨rfl, Except.toOption_eq_some_iff.1 (by decide), by decide, by decide, by decide,
    by decide +kernel, ?_⟩
  rw [files_of_found rfl hfound (List.pairwise_singleton _ _)]
  simp [hkept]

end Search
end NotNullLint
