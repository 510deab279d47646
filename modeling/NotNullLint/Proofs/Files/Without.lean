import NotNullLint.Proofs.Glob.Spots

/-!
Files less one of them.

A file holds nothing else up, so without it all other places stay as they are. A path that does not
lead to it leads where it led before, and a pattern finds what it found before, less the file.
-/

namespace NotNullLint
namespace Files

variable {f : Files} {here p q r : Place}

lemma node?_eq_some_iff {n : Node} (hp : p ≠ []) : f.node? p = some n ↔ (p, n) ∈ f.entries := by
  refine ⟨mem_of_node? hp, fun h => ?_⟩
  obtain ⟨s, ss, rfl⟩ := List.exists_cons_of_ne_nil hp
  exact lookup_of_mem h

lemma hasFolder_iff : f.HasFolder p ↔ f.node? p = some .folder := by
  by_cases hp : p = []
  · subst hp
    exact iff_of_true (.inl rfl) rfl
  · rw [node?_eq_some_iff hp, HasFolder, or_iff_right hp]

lemma not_hasFolder {content : ByteArray} (h : f.node? q = some (.file content)) :
    ¬f.HasFolder q := by
  rw [hasFolder_iff, h]
  nofun

/-- The files less what stands at a place, which is no folder. -/
def without (f : Files) (q : Place) (h : ¬f.HasFolder q) : Files where
  entries := f.entries.filter (·.1 != q)
  sorted := f.sorted.filter _
  named e he := f.named e (List.mem_of_mem_filter he)
  closed e he := (f.closed e (List.mem_of_mem_filter he)).imp_right fun hfolder =>
    List.mem_filter.2 ⟨hfolder, bne_iff_ne.2 fun hq => h (.inr (hq ▸ hfolder))⟩

variable {h : ¬f.HasFolder q}

/-! ### Places -/

lemma node?_without_of_ne (hp : p ≠ q) : (f.without q h).node? p = f.node? p := by
  by_cases hroot : p = []
  · subst hroot
    rfl
  · ext n
    simp [node?_eq_some_iff hroot, without, hp]

lemma node?_without_self : (f.without q h).node? q = none := by
  have hq : q ≠ [] := fun hroot => h (.inl hroot)
  rw [Option.eq_none_iff_forall_ne_some]
  intro n hn
  simp [node?_eq_some_iff hq, without] at hn

lemma isSome_node?_without :
    ((f.without q h).node? p).isSome = true ↔ (f.node? p).isSome = true ∧ p ≠ q := by
  by_cases hp : p = q
  · subst hp
    simp [node?_without_self]
  · simp [node?_without_of_ne hp, hp]

lemma folder_without :
    (f.without q h).node? p = some .folder ↔ f.node? p = some .folder := by
  by_cases hp : p = q
  · subst hp
    rw [node?_without_self, ← hasFolder_iff, iff_false_right h]
    nofun
  · rw [node?_without_of_ne hp]

lemma entries_without :
    (f.without q h).entries.map (·.1) = (f.entries.map (·.1)).filter (· != q) := by
  rw [List.filter_map]
  rfl

lemma below_without : (f.without q h).below p = (f.below p).filter (· != q) := by
  rw [below, entries_without, List.filter_comm, below]

lemma children_without : (f.without q h).children p = (f.children p).filter (· != q) := by
  rw [children, entries_without, List.filter_comm, children]

/-! ### Paths -/

/-- A step goes from a folder to something that is there. -/
lemma step_eq_ok_iff {s : String} : f.step here s = .ok r
    ↔ f.node? here = some .folder ∧ s.utf8ByteSize ≤ maxName ∧ r = here.walk s
      ∧ (f.node? r).isSome = true := by
  by_cases hfolder : f.node? here = some .folder
  swap
  · exact iff_of_false (fun hstep => hfolder (node?_of_step hstep)) fun hstep => hfolder hstep.1
  rw [step, if_neg (not_not.2 hfolder), Place.walk]
  by_cases hstay : s = "" ∨ s = "."
  · have hshort : s.utf8ByteSize ≤ maxName := by
      obtain rfl | rfl := hstay <;> decide
    rw [if_pos hstay, if_pos hstay, Except.ok.injEq]
    exact ⟨fun he => ⟨hfolder, hshort, he.symm, by simp [← he, hfolder]⟩, fun he => he.2.2.1.symm⟩
  rw [if_neg hstay, if_neg hstay]
  by_cases hup : s = ".."
  · have hshort : s.utf8ByteSize ≤ maxName := by
      rw [hup]
      decide
    have habove : f.node? here.dropLast = some .folder := by
      by_cases hroot : here = []
      · rw [hroot]
        rfl
      · exact node?_dropLast hfolder hroot
    rw [if_pos hup, if_pos hup, Except.ok.injEq]
    exact ⟨fun he => ⟨hfolder, hshort, he.symm, by simp [← he, habove]⟩, fun he => he.2.2.1.symm⟩
  rw [if_neg hup, if_neg hup]
  by_cases hlong : maxName < s.utf8ByteSize
  · rw [if_pos hlong]
    exact iff_of_false (by rintro ⟨⟩) fun he => absurd he.2.1 (Nat.not_le.2 hlong)
  rw [if_neg hlong]
  by_cases hsome : (f.node? (here ++ [s])).isSome = true
  · rw [if_pos hsome, Except.ok.injEq]
    exact ⟨fun he => ⟨hfolder, Nat.not_lt.1 hlong, he.symm, he ▸ hsome⟩, fun he => he.2.2.1.symm⟩
  · rw [if_neg hsome]
    refine iff_of_false (by rintro ⟨⟩) ?_
    rintro ⟨-, -, rfl, hthere⟩
    exact hsome hthere

lemma step_without {s : String} :
    (f.without q h).step here s = .ok r ↔ f.step here s = .ok r ∧ r ≠ q := by
  rw [step_eq_ok_iff, step_eq_ok_iff, folder_without, isSome_node?_without]
  tauto

/-- A way through the files that ends elsewhere stays. -/
lemma foldlM_step_without {ss : List String} (hr : r ≠ q) (hwalk : ss.foldlM f.step here = .ok r) :
    ss.foldlM (f.without q h).step here = .ok r := by
  induction ss generalizing here with
  | nil => exact hwalk
  | cons s ss ih =>
    rw [List.foldlM_cons] at hwalk ⊢
    obtain ⟨t, hstep, hrest⟩ := Except.bind_eq_ok_iff.1 hwalk
    -- the way goes on from a folder, or ends
    have ht : t ≠ q := by
      rintro rfl
      cases ss with
      | nil => exact hr (Except.ok.inj hrest).symm
      | cons s' ss =>
        rw [List.foldlM_cons] at hrest
        obtain ⟨u, hnext, -⟩ := Except.bind_eq_ok_iff.1 hrest
        exact h (hasFolder_iff.2 (node?_of_step hnext))
    have hkept : (f.without q h).step here s = .ok t := step_without.2 ⟨hstep, ht⟩
    rw [hkept]
    exact ih hrest

lemma resolve_without {p : Path} (hr : r ≠ q) (hp : f.resolve here p = .ok r) :
    (f.without q h).resolve here p = .ok r := by
  have hwalk := foldlM_step_without (h := h) hr (foldlM_of_resolve hp)
  unfold resolve at hp ⊢
  split at hp
  · cases hp
  rename_i hnul
  split at hp
  · cases hp
  rename_i hempty
  split at hp
  · cases hp
  rename_i hlong
  rw [if_neg hnul, if_neg hempty, if_neg hlong, hwalk]

end Files

/-! ### Patterns -/

namespace Glob

variable {f : Files} {onlyFolders : Bool} {q : Place} {h : ¬f.HasFolder q} {s : Spot}

/-- The spot is not at the place. -/
def Spot.off (q : Place) (s : Spot) : Bool := s.place != q

lemma Spot.isFolder_without : s.isFolder (f.without q h) = s.isFolder f := by
  rw [isFolder, isFolder, Bool.eq_iff_iff, beq_iff_eq, beq_iff_eq, Files.folder_without]

lemma Spot.follow?_without (name : String) :
    s.follow? (f.without q h) name = (s.follow? f name).filter (Spot.off q) := by
  ext t
  rw [Option.filter_eq_some_iff, follow?_eq_some_iff, follow?_eq_some_iff, Files.step_without,
    off, bne_iff_ne]
  tauto

lemma map_down_without (ps : List Place) :
    (ps.filter (· != q)).map s.down = (ps.map s.down).filter (Spot.off q) := by
  rw [List.filter_map]
  rfl

lemma specials_without (p : Pattern) :
    specials (f.without q h) p s = (specials f p s).filter (Spot.off q) := by
  unfold specials
  split
  · rw [List.filter_filterMap]
    refine List.filterMap_congr fun name _ => ?_
    split
    · exact Spot.follow?_without name
    · rfl
  · rfl

/-- Nothing leads on from a file. -/
lemma filter_expand_self {ps : List Pattern} (hs : s.place = q) (h : ¬f.HasFolder q) :
    (expand f onlyFolders ps s).filter (Spot.off q) = [] := by
  have hfolder : s.isFolder f = false := by
    rw [Spot.isFolder, hs, beq_eq_false_iff_ne]
    exact fun hq => h (Files.hasFolder_iff.2 hq)
  have hstays : ∀ name, s.follow? f name = none := by
    intro name
    rw [Option.eq_none_iff_forall_ne_some]
    intro t ht
    have hnode := Files.node?_of_step (Spot.follow?_eq_some_iff.1 ht).1
    exact h (Files.hasFolder_iff.2 (hs ▸ hnode))
  rw [List.filter_eq_nil_iff]
  intro t ht
  suffices t = s by simp [Spot.off, this, hs]
  rw [expand.eq_def] at ht
  cases ps with
  | nil =>
    simp only at ht
    split at ht
    · cases ht
    · exact List.mem_singleton.1 ht
  | cons p ps =>
    simp only [hstays, hfolder] at ht
    split at ht <;> cases ht

/-- **A pattern finds what it found before**, less the file. -/
theorem expand_without {ps : List Pattern} (hs : s.place ≠ q) :
    expand (f.without q h) onlyFolders ps s = (expand f onlyFolders ps s).filter (Spot.off q) := by
  have hflat {ps : List Pattern} (ts : List Spot)
      (ih : ∀ t : Spot, t.place ≠ q → expand (f.without q h) onlyFolders ps t
        = (expand f onlyFolders ps t).filter (Spot.off q)) :
      (ts.filter (Spot.off q)).flatMap (expand (f.without q h) onlyFolders ps)
        = (ts.flatMap (expand f onlyFolders ps)).filter (Spot.off q) := by
    rw [flatMap_filter, List.filter_flatMap]
    refine List.flatMap_congr fun t _ => ?_
    split
    · rename_i ht
      exact ih t (bne_iff_ne.1 ht)
    · rename_i ht
      rw [filter_expand_self (by simpa [Spot.off] using ht) h]
  fun_induction expand f onlyFolders ps s with
  | case1 s hnone => simp [expand, Spot.isFolder_without, hnone]
  | case2 s hsome =>
    have hoff : Spot.off q s = true := bne_iff_ne.2 hs
    simp [expand, Spot.isFolder_without, hsome, hoff]
  | case3 p ps s name hliteral t ht ih =>
    rw [expand.eq_def]
    simp only [hliteral, Spot.follow?_without, ht]
    by_cases hplace : t.place = q
    · have hoff : Spot.off q t = false := by simp [Spot.off, hplace]
      simp [Option.filter, hoff, filter_expand_self hplace h]
    · have hoff : Spot.off q t = true := bne_iff_ne.2 hplace
      simpa [Option.filter, hoff] using ih hplace
  | case4 p ps s name hliteral hnone =>
    rw [expand.eq_def]
    simp [hliteral, Spot.follow?_without, hnone]
  | case5 p ps s hliteral hfolder =>
    rw [expand.eq_def]
    simp [hliteral, Spot.isFolder_without, hfolder]
  | case6 p s hliteral hfolder hdeep =>
    rw [expand.eq_def]
    simp only [hliteral, Spot.isFolder_without, hfolder, hdeep, Files.below_without,
      map_down_without, if_true, Bool.false_eq_true, if_false]
    exact List.filter_comm ..
  | case7 p s hliteral hfolder hdeep r rs hr ih =>
    rw [expand.eq_def]
    simp only [hliteral, Spot.isFolder_without, hfolder, hdeep, hr, if_true, Bool.false_eq_true,
      if_false]
    exact ih hs
  | case8 p s hliteral hfolder hdeep r rs hr ih =>
    rw [expand.eq_def]
    simp only [hliteral, Spot.isFolder_without, hfolder, hdeep, hr, Files.below_without,
      map_down_without, if_true, Bool.false_eq_true, if_false]
    rw [← flatMap_filter, ← flatMap_filter, List.filter_comm]
    exact hflat _ fun t => ih t
  | case9 p ps s hliteral hfolder hdeep ih =>
    rw [expand.eq_def]
    simp only [hliteral, Spot.isFolder_without, hfolder, hdeep, Files.children_without,
      map_down_without, specials_without, Bool.false_eq_true, if_false]
    rw [← flatMap_filter, ← flatMap_filter, List.filter_comm, List.filter_append,
      hflat _ fun t => ih t, hflat _ fun t => ih t]

/-- What an absolute pattern finds without the file. -/
lemma find_without (text : String) :
    find (f.without q h) text = (find f text).map (List.filter (Spot.off q)) := by
  have hroot : Spot.place ⟨⟨"/"⟩, []⟩ ≠ q := fun hq => h (.inl hq.symm)
  unfold find
  simp only [bind, pure, Except.pure, expand_without hroot]
  cases parse text.toList with
  | error e => rfl
  | ok p =>
    simp only [Except.bind]
    cases (components text.toList).mapM parse <;> rfl

end Glob
end NotNullLint
