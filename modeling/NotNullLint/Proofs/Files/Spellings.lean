import NotNullLint.Proofs.Files.Joined

/-!
Spellings of one path.

Absolute paths that name the same differ only in pieces that name nothing: empty ones and points. Such
a piece does not lead on, but wants a folder where it stands. So what one of the paths leads to, the
other one leads to as well, unless it ends with such a piece behind a file or its text is too long.
-/

namespace NotNullLint

namespace Path

variable {p q : Path} {ss ts : List String} {c : Char}

/-- The pieces that name something. -/
def telling (ss : List String) : List String := ss.filter fun s => (inner s).isSome

/-- How a component is written. -/
def spelling : Component → String
  | .parent => ".."
  | c => c.label

lemma spelling_of_inner {s : String} {d : Component} (h : inner s = some d) : spelling d = s := by
  unfold inner at h
  split at h
  · cases h
  split at h
  · rename_i hup
    cases h
    exact hup.symm
  · cases h
    rfl

/-- The pieces that name something can be told from what they name. -/
lemma telling_eq_map (ss : List String) : telling ss = (ss.filterMap inner).map spelling := by
  induction ss with
  | nil => rfl
  | cons s ss ih =>
    unfold telling at ih ⊢
    cases hs : inner s with
    | none => rw [List.filter_cons_of_neg (by simp [hs]), List.filterMap_cons_none hs, ih]
    | some d =>
      rw [List.filter_cons_of_pos (by simp [hs]), List.filterMap_cons_some hs, List.map_cons,
        spelling_of_inner hs, ih]

lemma telling_pieces_eq (hp : p.isAbsolute = true) (hq : q.isAbsolute = true)
    (h : p.components = q.components) : telling p.pieces = telling q.pieces := by
  obtain ⟨ss, hss, hssne⟩ := pieces_of_isAbsolute hp
  obtain ⟨ts, hts, htsne⟩ := pieces_of_isAbsolute hq
  rw [components_of_pieces hss hssne, components_of_pieces hts htsne] at h
  have hempty (us : List String) : ("" :: us).filterMap inner = us.filterMap inner := rfl
  rw [hss, hts, telling_eq_map, telling_eq_map, hempty, hempty, (List.cons.inj h).2]

/-! ### Characters -/

lemma mem_intercalate_slash {parts : List (List Char)} (h : c ∈ ['/'].intercalate parts)
    (hc : c ≠ '/') : ∃ part ∈ parts, c ∈ part := by
  induction parts with
  | nil => cases h
  | cons part parts ih =>
    by_cases hparts : parts = []
    · rw [hparts, List.intercalate_singleton] at h
      exact ⟨part, List.mem_cons_self, h⟩
    · rw [List.intercalate_cons_of_ne_nil hparts, List.append_assoc] at h
      rcases List.mem_append.1 h with h | h
      · exact ⟨part, List.mem_cons_self, h⟩
      · rcases List.mem_append.1 h with h | h
        · exact absurd (List.mem_singleton.1 h) hc
        · obtain ⟨other, hother, hin⟩ := ih h
          exact ⟨other, List.mem_cons_of_mem part hother, hin⟩

/-- What is in a text besides slashes and points is in a piece that names something. -/
lemma mem_text_iff (hslash : c ≠ '/') (hpoint : c ≠ '.') :
    c ∈ p.text.toList ↔ ∃ s ∈ telling p.pieces, c ∈ s.toList := by
  constructor
  · intro h
    have hparts : ['/'].intercalate (p.text.toList.splitOn '/') = p.text.toList :=
      List.intercalate_splitOn '/'
    rw [← hparts] at h
    obtain ⟨part, hpart, hin⟩ := mem_intercalate_slash h hslash
    have hpiece : String.ofList part ∈ p.pieces := List.mem_map_of_mem hpart
    refine ⟨String.ofList part, List.mem_filter.2 ⟨hpiece, ?_⟩, by rwa [String.toList_ofList]⟩
    have hne : String.ofList part ≠ "" := by
      intro hempty
      rw [String.ofList_eq_empty_iff.1 hempty] at hin
      cases hin
    have hne' : String.ofList part ≠ "." := by
      intro hhere
      have hpart' : part = ['.'] := by rw [← String.toList_ofList (l := part), hhere]; rfl
      rw [hpart'] at hin
      exact hpoint (List.mem_singleton.1 hin)
    rw [Option.isSome_iff_ne_none, Ne, inner_eq_none_iff]
    exact not_or.2 ⟨hne, hne'⟩
  · rintro ⟨s, hs, hin⟩
    obtain ⟨part, hpart, rfl⟩ := List.mem_map.1 (List.mem_of_mem_filter hs)
    rw [String.toList_ofList] at hin
    exact subset_of_mem_splitOn hpart hin

end Path

namespace Files

variable {f : Files} {here r : Place} {ss : List String} {p q : Path}

/-- A step over a piece that names nothing stays in a folder. -/
lemma step_of_inner_none {s : String} (hs : Path.inner s = none) (hfolder : f.node? here = some .folder) :
    f.step here s = .ok here := by
  rw [step, if_neg (not_not.2 hfolder), if_pos (Path.inner_eq_none_iff.1 hs)]

lemma foldlM_telling (h : ss.foldlM f.step here = .ok r) :
    (Path.telling ss).foldlM f.step here = .ok r := by
  induction ss generalizing here with
  | nil => exact h
  | cons s ss ih =>
    rw [List.foldlM_cons] at h
    obtain ⟨t, hstep, hrest⟩ := Except.bind_eq_ok_iff.1 h
    have ih := ih hrest
    unfold Path.telling at ih ⊢
    cases hs : Path.inner s with
    | none =>
      rw [step_ok hstep, Path.walk_of_inner_none hs] at ih
      rwa [List.filter_cons_of_neg (by simp [hs])]
    | some d =>
      rw [List.filter_cons_of_pos (by simp [hs]), List.foldlM_cons, hstep]
      exact ih

/-- Pieces that name nothing may be put back in, the last one in a folder. -/
lemma foldlM_of_telling (h : (Path.telling ss).foldlM f.step here = .ok r)
    (hend : ∀ s ∈ ss.getLast?, Path.inner s = none → f.node? r = some .folder) :
    ss.foldlM f.step here = .ok r := by
  induction ss generalizing here with
  | nil => exact h
  | cons s ss ih =>
    have hlater : ∀ u ∈ ss.getLast?, Path.inner u = none → f.node? r = some .folder := by
      intro u hu
      refine hend u ?_
      rw [List.getLast?_cons, Option.mem_def.1 hu]
      rfl
    unfold Path.telling at h ih
    rw [List.foldlM_cons]
    cases hs : Path.inner s with
    | some d =>
      rw [List.filter_cons_of_pos (by simp [hs]), List.foldlM_cons] at h
      obtain ⟨t, hstep, hrest⟩ := Except.bind_eq_ok_iff.1 h
      rw [hstep]
      exact ih hrest hlater
    | none =>
      rw [List.filter_cons_of_neg (by simp [hs])] at h
      have hfolder : f.node? here = some .folder := by
        cases htelling : ss.filter fun s => (Path.inner s).isSome with
        | cons u us =>
          -- the next piece that names something leads on from here
          rw [htelling, List.foldlM_cons] at h
          obtain ⟨t, hstep, -⟩ := Except.bind_eq_ok_iff.1 h
          exact node?_of_step hstep
        | nil =>
          rw [htelling] at h
          rw [Except.ok.inj h]
          have hnone : ∀ u ∈ s :: ss, Path.inner u = none := by
            intro u hu
            rcases List.mem_cons.1 hu with rfl | hu
            · exact hs
            · simpa using List.filter_eq_nil_iff.1 htelling u hu
          obtain ⟨u, hu⟩ := List.getLast?_isSome.2 (List.cons_ne_nil s ss) |>
            Option.isSome_iff_exists.1
          exact hend u hu (hnone u (List.mem_of_getLast? hu))
      rw [step_of_inner_none hs hfolder]
      exact ih h hlater

/-- **Another spelling leads to the same**, if it is not too long. -/
theorem resolve_of_components (hp : p.isAbsolute = true) (hq : q.isAbsolute = true)
    (h : p.components = q.components) (hr : f.resolve here p = .ok r)
    (hend : ∀ s ∈ q.pieces.getLast?, Path.inner s = none → f.node? r = some .folder) :
    f.resolve here q
      = if maxPath ≤ q.text.utf8ByteSize then .error .nameTooLong else .ok r := by
  have htelling := Path.telling_pieces_eq hp hq h
  have hwalk := foldlM_telling (foldlM_of_resolve hr)
  rw [if_pos hp, htelling] at hwalk
  have hnul : '\x00' ∉ q.text.toList := by
    rw [Path.mem_text_iff (by decide) (by decide), ← htelling,
      ← Path.mem_text_iff (by decide) (by decide)]
    intro hnul
    rw [resolve, if_pos hnul] at hr
    cases hr
  have hempty : q.text ≠ "" := by
    intro hempty
    rw [Path.isAbsolute, hempty] at hq
    cases hq
  rw [resolve, if_neg hnul, if_neg hempty, if_pos hq, foldlM_of_telling hwalk hend]

end Files
end NotNullLint
