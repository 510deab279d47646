import NotNullLint.Proofs.Analysis.Isolation
import NotNullLint.Proofs.Analysis.Repetition
import NotNullLint.Proofs.Files.Replaced

/-!
Trees that differ in a file that no search is after.

What a pattern finds has a name that its last component stands for, if that has wildcards. So the
default pattern finds files with the names of models only, and a file with another name may be put
into the tree or be replaced there: the search selects the same files, with the same texts.
-/

namespace NotNullLint

/-! ### The last component of a pattern -/

namespace Glob

variable {f : Files} {onlyFolders : Bool} {s t : Spot}

lemma eq_of_mem_expand_nil (h : t ∈ expand f onlyFolders [] s) : t = s := by
  rw [expand.eq_def] at h
  simp only at h
  split at h
  · cases h
  · exact List.mem_singleton.1 h

/-- **What a pattern finds has a name for its last component**, if that has wildcards and does not
start with a point. -/
theorem accepts_of_mem_expand {ps : List Pattern} {p : Pattern} (hlast : ps.getLast? = some p)
    (hliteral : p.literal? = none) (hdeep : isDeep p = false) (hpoint : p.head? ≠ some (.char '.'))
    (h : t ∈ expand f onlyFolders ps s) : p.accepts t.name = true := by
  fun_induction expand f onlyFolders ps s with
  | case1 => cases h
  | case2 => cases hlast
  | case3 p' ps s name hname r hr ih =>
    cases ps with
    | nil =>
      rw [← Option.some.inj (List.getLast?_singleton.symm.trans hlast), hname] at hliteral
      cases hliteral
    | cons q qs => exact ih (by rwa [List.getLast?_cons_cons] at hlast) h
  | case4 => cases h
  | case5 => cases h
  | case6 p' s hname hfolder hdeep' =>
    rw [← Option.some.inj (List.getLast?_singleton.symm.trans hlast), hdeep'] at hdeep
    cases hdeep
  | case7 p' s hname hfolder hdeep' q qs hq ih =>
    exact ih (by rwa [List.getLast?_cons_cons] at hlast) h
  | case8 p' s hname hfolder hdeep' q qs hq ih =>
    obtain ⟨r, hr, h⟩ := List.mem_flatMap.1 h
    rw [List.getLast?_cons_cons] at hlast
    split at h
    · rename_i haccepts
      cases qs with
      | nil =>
        obtain rfl : q = p := Option.some.inj (List.getLast?_singleton.symm.trans hlast)
        rwa [eq_of_mem_expand_nil h]
      | cons q' qs => exact ih r (by rwa [List.getLast?_cons_cons] at hlast) h
    · cases h
  | case9 p' ps s hname hfolder hdeep' ih =>
    cases ps with
    | nil =>
      obtain rfl : p' = p := Option.some.inj (List.getLast?_singleton.symm.trans hlast)
      rw [specials, if_neg hpoint, List.flatMap_nil, List.nil_append] at h
      obtain ⟨r, hr, h⟩ := List.mem_flatMap.1 h
      split at h
      · rename_i haccepts
        rwa [eq_of_mem_expand_nil h]
      · cases h
    | cons q qs =>
      rw [List.getLast?_cons_cons] at hlast
      obtain h | h := List.mem_append.1 h
      · obtain ⟨r, hr, h⟩ := List.mem_flatMap.1 h
        exact ih r hlast h
      · obtain ⟨r, hr, h⟩ := List.mem_flatMap.1 h
        split at h
        · exact ih r hlast h
        · cases h

end Glob

namespace Search

variable {s : Search} {f g : Files} {here q : Place} {p : Path} {ps : List Path}

/-- The default pattern leads to names of models. -/
lemma accepts_of_mem_found (habsolute : s.root.isAbsolute = true)
    (hfound : s.found f everyModel = .ok ps) (hp : p ∈ ps) :
    modelPattern.accepts (((p.destination []).getLast?).getD "").toList = true := by
  obtain ⟨ts, hfind, rfl⟩ := Except.map_eq_ok_iff.1 hfound
  obtain ⟨t, ht, rfl⟩ := List.mem_map.1 hp
  have hleads := (Glob.sound_of_mem_find hfind ht).leads []
  unfold Glob.find at hfind
  obtain ⟨-, -, hfind⟩ := Except.bind_eq_ok_iff.1 hfind
  obtain ⟨all, hall, hts⟩ := Except.bind_eq_ok_iff.1 hfind
  rw [← Except.ok.inj hts] at ht
  obtain ⟨ss, hpieces, hne⟩ := Path.pieces_of_isAbsolute habsolute
  rw [components_fromRoot hpieces hne] at hall
  obtain ⟨before, after, -, hafter, rfl⟩ := Except.mapM_append_eq_ok_iff.1 hall
  have hparse : ["**".toList, "*.symbols.json".toList].mapM Glob.parse
      = .ok [[.folders], modelPattern] := by rfl
  cases hparse.symm.trans hafter
  rw [hleads]
  refine Glob.accepts_of_mem_expand (p := modelPattern) (by simp) (by rfl) rfl ?_ ht
  simp [modelPattern]

/-- The search selects with the default pattern, and the place has no name of a model. -/
structure Misses (s : Search) (q : Place) : Prop where
  absolute : s.root.isAbsolute = true
  includes : s.includes = ({} : Scope).includes
  name : modelPattern.accepts ((q.getLast?).getD "").toList = false

/-- Such a search does not come to the place. -/
lemma Misses.destination_ne (h : s.Misses q) (hfiles : s.files f = .ok ps) (hp : p ∈ ps) :
    p.destination [] ≠ q := by
  obtain ⟨⟨lists, hlists, hp⟩, -⟩ := found_of_mem_files hfiles hp
  obtain ⟨found, hfound, hp⟩ := List.mem_flatten.1 hp
  obtain ⟨pattern, hpattern, hfound⟩ := Except.exists_of_mem_mapM hlists hfound
  rw [h.includes] at hpattern
  cases List.mem_singleton.1 hpattern
  rintro rfl
  have haccepts := accepts_of_mem_found h.absolute hfound hp
  rw [h.name] at haccepts
  cases haccepts

lemma Misses.files_without (h : s.Misses q) (hfolder : ¬f.HasFolder q) :
    s.files (f.without q hfolder) = s.files f := by
  rw [Search.files_without]
  cases hfiles : s.files f with
  | error e => rfl
  | ok ps =>
    refine congrArg Except.ok (List.filter_eq_self.2 fun p hp => ?_)
    exact bne_iff_ne.2 (h.destination_ne hfiles hp)

/-- **A search that misses the place** sees the same in trees that differ there only. -/
theorem Misses.sameIn (h : s.Misses q) (hfg : Files.SameBut q f g) (here : Place) :
    s.SameIn here f g where
  files := by
    rw [← h.files_without hfg.noFolder', ← hfg.without_eq, h.files_without]
  text ps hfiles p hp := by
    refine hfg.toOption_read fun hplace => h.destination_ne hfiles hp ?_
    rw [← hplace]
    exact Path.destination_of_isAbsolute (isAbsolute_of_mem_files hfiles hp) _ _

end Search
end NotNullLint
