import NotNullLint.Proofs.Files.Spellings

/-!
What the text of a path ends in.

A path is written as a directory part, a segment, and slashes and points behind it that name
nothing. If it has no segment, it is empty, the root or a point, again with such slashes and points
behind it. Whatever stands around it, the last segment is the last component: the name of the file,
unless it is `..`.
-/

namespace NotNullLint
namespace Path

variable {p : Path} {s t : String} {ss before after : List String} {tail : List Char}

/-! ### The text of a path -/

/-- A row of `/` and `/.`, which names nothing behind a component. -/
inductive Idle : List Char → Prop
  | nil : Idle []
  | slash {r : List Char} : Idle r → Idle ('/' :: r)
  | point {r : List Char} : Idle r → Idle ('/' :: '.' :: r)

/-- The path is written as a directory part, empty or with its slash, then the segment, then what
names nothing. -/
def EndsIn (p : Path) (s : String) : Prop :=
  IsSegment s ∧ ∃ dir tail, p.text.toList = dir ++ (s.toList ++ tail)
    ∧ (dir = [] ∨ ['/'] <:+ dir) ∧ Idle tail

/-- No segment is written: the path is empty, the root, or a point in front, and what names nothing
behind it. -/
def HasNoSegment (p : Path) : Prop :=
  Idle p.text.toList ∨ ∃ tail, p.text.toList = '.' :: tail ∧ Idle tail

/-! ### From the text to the pieces -/

lemma idle_iff : Idle tail ↔ ∃ after : List String, (∀ t ∈ after, inner t = none)
    ∧ tail = after.flatMap fun t => '/' :: t.toList := by
  constructor
  · intro h
    induction h with
    | nil => exact ⟨[], by simp, rfl⟩
    | slash _ ih =>
      obtain ⟨after, hafter, rfl⟩ := ih
      exact ⟨"" :: after, List.forall_mem_cons.2 ⟨rfl, hafter⟩, rfl⟩
    | point _ ih =>
      obtain ⟨after, hafter, rfl⟩ := ih
      exact ⟨"." :: after, List.forall_mem_cons.2 ⟨rfl, hafter⟩, rfl⟩
  · rintro ⟨after, hafter, rfl⟩
    induction after with
    | nil => exact .nil
    | cons t after ih =>
      obtain ⟨ht, hrest⟩ := List.forall_mem_cons.1 hafter
      obtain rfl | rfl := inner_eq_none_iff.1 ht
      · exact .slash (ih hrest)
      · exact .point (ih hrest)

/-- Around one piece, those before it have their slash behind them and those after it in front. -/
lemma intercalate_slash (before : List String) (s : String) (after : List String) :
    (String.intercalate "/" (before ++ s :: after)).toList
      = before.flatMap (fun t => t.toList ++ ['/'])
        ++ (s.toList ++ after.flatMap fun t => '/' :: t.toList) := by
  induction before with
  | nil =>
    induction after generalizing s with
    | nil => simp
    | cons t after ih =>
      have ih := ih t
      rw [List.nil_append] at ih ⊢
      rw [String.intercalate_cons_of_ne_nil (List.cons_ne_nil t after)]
      simp [ih]
  | cons t before ih =>
    rw [List.cons_append, String.intercalate_cons_of_ne_nil (by simp)]
    simp [ih]

lemma toList_of_pieces (h : p.pieces = before ++ s :: after) : p.text.toList
    = before.flatMap (fun t => t.toList ++ ['/'])
      ++ (s.toList ++ after.flatMap fun t => '/' :: t.toList) := by
  rw [text_eq, h, intercalate_slash]

lemma pieces_of_idle (hs : '/' ∉ s.toList) (hafter : ∀ t ∈ after, inner t = none)
    (h : p.text.toList = s.toList ++ after.flatMap fun t => '/' :: t.toList) :
    p.pieces = s :: after := by
  have htext : p = ⟨String.intercalate "/" (s :: after)⟩ := by
    refine congrArg mk (String.toList_injective ?_)
    rw [h]
    exact (intercalate_slash [] s after).symm
  have hslash : ∀ t ∈ s :: after, '/' ∉ t.toList := by
    refine List.forall_mem_cons.2 ⟨hs, fun t ht => ?_⟩
    obtain rfl | rfl := inner_eq_none_iff.1 (hafter t ht) <;> decide
  rw [htext, pieces_intercalate hslash (List.cons_ne_nil s after)]

/-- A path ends in the last of its pieces that names something. -/
lemma endsIn_iff : p.EndsIn s ↔ inner s ≠ none
    ∧ ∃ before after, p.pieces = before ++ s :: after ∧ ∀ t ∈ after, inner t = none := by
  constructor
  · rintro ⟨hs, dir, tail, htext, hdir, htail⟩
    obtain ⟨hs, hslash⟩ := isSegment_iff.1 hs
    obtain ⟨after, hafter, rfl⟩ := idle_iff.1 htail
    refine ⟨hs, ?_⟩
    rcases hdir with rfl | ⟨d, rfl⟩
    · exact ⟨[], after, pieces_of_idle hslash hafter htext, hafter⟩
    · -- the slash of the directory part ends its own pieces
      have hrest : pieces ⟨s ++ String.ofList (after.flatMap fun t => '/' :: t.toList)⟩
          = s :: after := pieces_of_idle hslash hafter (by simp)
      refine ⟨pieces ⟨String.ofList d⟩, after, ?_, hafter⟩
      rw [← hrest]
      exact pieces_of_toList (by simpa using htext)
  · rintro ⟨hs, before, after, hpieces, hafter⟩
    have hmem : s ∈ p.pieces := by simp [hpieces]
    refine ⟨isSegment_iff.2 ⟨hs, not_mem_of_mem_pieces hmem⟩, _, _, toList_of_pieces hpieces, ?_,
      idle_iff.2 ⟨after, hafter, rfl⟩⟩
    rcases List.eq_nil_or_concat before with rfl | ⟨front, t, rfl⟩
    · exact .inl rfl
    · refine .inr ⟨front.flatMap (fun t => t.toList ++ ['/']) ++ t.toList, ?_⟩
      simp

lemma hasNoSegment_iff : p.HasNoSegment ↔ ∀ s ∈ p.pieces, inner s = none := by
  constructor
  · rintro (htext | ⟨tail, htext, htail⟩)
    · obtain ⟨after, hafter, htext⟩ := idle_iff.1 htext
      rw [pieces_of_idle (s := "") (by decide) hafter htext]
      exact List.forall_mem_cons.2 ⟨rfl, hafter⟩
    · obtain ⟨after, hafter, rfl⟩ := idle_iff.1 htail
      rw [pieces_of_idle (s := ".") (by decide) hafter htext]
      exact List.forall_mem_cons.2 ⟨rfl, hafter⟩
  · intro h
    obtain ⟨s, after, hpieces⟩ := List.exists_cons_of_ne_nil p.pieces_ne_nil
    obtain ⟨hs, hafter⟩ := List.forall_mem_cons.1 (hpieces ▸ h)
    have htail : Idle (after.flatMap fun t => '/' :: t.toList) := idle_iff.2 ⟨after, hafter, rfl⟩
    have htext : p.text.toList = s.toList ++ after.flatMap fun t => '/' :: t.toList :=
      toList_of_pieces (hpieces.trans (List.nil_append _).symm)
    obtain rfl | rfl := inner_eq_none_iff.1 hs
    · exact .inl (by rwa [htext])
    · exact .inr ⟨_, htext, htail⟩

/-- Pieces name nothing, or there is a last one that does. -/
lemma exists_last_piece (ss : List String) : (∀ s ∈ ss, inner s = none)
    ∨ ∃ before s after, ss = before ++ s :: after ∧ inner s ≠ none
      ∧ ∀ t ∈ after, inner t = none := by
  induction ss with
  | nil => exact .inl (by simp)
  | cons t ss ih =>
    rcases ih with hss | ⟨before, s, after, rfl, hs, hafter⟩
    · by_cases ht : inner t = none
      · exact .inl (List.forall_mem_cons.2 ⟨ht, hss⟩)
      · exact .inr ⟨[], t, ss, rfl, ht, hss⟩
    · exact .inr ⟨t :: before, s, after, rfl, hs, hafter⟩

/-- **Every path** ends in a segment or has none. -/
theorem hasNoSegment_or_endsIn (p : Path) : p.HasNoSegment ∨ ∃ s, p.EndsIn s := by
  rcases exists_last_piece p.pieces with hnone | ⟨before, s, after, hpieces, hs, hafter⟩
  · exact .inl (hasNoSegment_iff.2 hnone)
  · exact .inr ⟨s, endsIn_iff.2 ⟨hs, before, after, hpieces, hafter⟩⟩

/-! ### From the pieces to the components -/

lemma components_eq (h : p.pieces = s :: ss) :
    p.components = (leading ss.isEmpty s).toList ++ ss.filterMap inner := by
  rw [components, marked_eq h, List.filterMap_cons, filterMap_others]
  cases leading ss.isEmpty s <;> rfl

/-- The last segment is the last component. -/
lemma EndsIn.getLast?_components (h : p.EndsIn s) : p.components.getLast? = inner s := by
  have hsegment := h.1
  obtain ⟨hs, before, after, hpieces, hafter⟩ := endsIn_iff.1 h
  obtain ⟨c, hc⟩ := Option.ne_none_iff_exists'.1 hs
  have hidle : after.filterMap inner = [] := List.filterMap_eq_nil_iff.2 hafter
  cases before with
  | nil =>
    rw [components_eq hpieces, hsegment.leading_eq, hidle, hc]
    rfl
  | cons t before =>
    rw [List.cons_append] at hpieces
    rw [components_eq hpieces, List.filterMap_append, List.filterMap_cons_some hc, hidle, hc,
      ← List.append_assoc, List.getLast?_concat]

lemma HasNoSegment.getLast?_components_ne (h : p.HasNoSegment) (n : String) :
    p.components.getLast? ≠ some (.name n) := by
  obtain ⟨s, after, hpieces⟩ := List.exists_cons_of_ne_nil p.pieces_ne_nil
  obtain ⟨hs, hafter⟩ := List.forall_mem_cons.1 (hpieces ▸ hasNoSegment_iff.1 h)
  rw [components_eq hpieces, List.filterMap_eq_nil_iff.2 hafter, List.append_nil]
  obtain rfl | rfl := inner_eq_none_iff.1 hs
  · cases after <;> simp [leading, inner]
  · simp [leading]

lemma fileName?_eq_some_iff_getLast? :
    p.fileName? = some s ↔ p.components.getLast? = some (.name s) := by
  unfold fileName?
  split
  · rename_i hlast
    rw [hlast]
    simp
  · rename_i hlast
    simpa using hlast s

lemma inner_eq_name_iff (h : inner t ≠ none) : inner t = some (.name s) ↔ t = s ∧ t ≠ ".." := by
  have hkeep : ¬(t = "" ∨ t = ".") := mt inner_eq_none_iff.2 h
  unfold inner
  rw [if_neg hkeep]
  split <;> simp_all

/-- A path ends in one segment. -/
lemma EndsIn.eq (hs : p.EndsIn s) (ht : p.EndsIn t) : s = t := by
  have hsame : inner s = inner t := hs.getLast?_components.symm.trans ht.getLast?_components
  obtain ⟨c, hc⟩ := Option.ne_none_iff_exists'.1 (endsIn_iff.1 hs).1
  exact (spelling_of_inner hc).symm.trans (spelling_of_inner (hsame.symm.trans hc))

/-- **The name of a file** is the segment that its path ends in. -/
theorem fileName?_eq_some_iff : p.fileName? = some s ↔ p.EndsIn s ∧ s ≠ ".." := by
  rw [fileName?_eq_some_iff_getLast?]
  constructor
  · intro h
    rcases p.hasNoSegment_or_endsIn with hnone | ⟨t, ht⟩
    · exact absurd h (hnone.getLast?_components_ne s)
    · rw [ht.getLast?_components, inner_eq_name_iff (endsIn_iff.1 ht).1] at h
      obtain ⟨rfl, hup⟩ := h
      exact ⟨ht, hup⟩
  · rintro ⟨h, hup⟩
    rw [h.getLast?_components, inner_eq_name_iff (endsIn_iff.1 h).1]
    exact ⟨rfl, hup⟩

/-- **No name** has a path that has no segment or ends in `..`. -/
theorem fileName?_eq_none_iff : p.fileName? = none ↔ p.HasNoSegment ∨ p.EndsIn ".." := by
  rw [Option.eq_none_iff_forall_ne_some]
  simp only [Ne, fileName?_eq_some_iff]
  constructor
  · intro h
    rcases p.hasNoSegment_or_endsIn with hnone | ⟨s, hs⟩
    · exact .inl hnone
    · obtain rfl : s = ".." := by_contra fun hup => h s ⟨hs, hup⟩
      exact .inr hs
  · rintro (hnone | hup) s ⟨hs, hne⟩
    · exact hnone.getLast?_components_ne s
        (fileName?_eq_some_iff_getLast?.1 (fileName?_eq_some_iff.2 ⟨hs, hne⟩))
    · exact hne (hs.eq hup)

end Path
end NotNullLint
