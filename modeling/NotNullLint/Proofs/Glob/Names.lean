import NotNullLint.Proofs.Glob.Spots
import NotNullLint.Proofs.Glob.Whole

/-!
Files that a pattern finds under names.

As long as no component stands for `.` or `..`, or for nothing, files are found below where a
pattern starts, under names that its components stand for, one after the other. A slash or `**` at
the end asks for folders only.
-/

namespace NotNullLint

namespace Path

variable {p : Path} {n : String} {ns : List String}

/-- Joining puts what is relative behind a text of its own. -/
lemma exists_join_eq (p : Path) :
    ∃ front : String, ∀ q : Path, q.isAbsolute = false → p.join q = ⟨front ++ q.text⟩ := by
  by_cases hp : p.text = "" ∨ p.text.toList.getLast? = some '/'
  · exact ⟨p.text, fun q hq => by rw [join, if_neg (by simp [hq]), if_pos hp]⟩
  · exact ⟨p.text ++ "/", fun q hq => by rw [join, if_neg (by simp [hq]), if_neg hp]⟩

/-- After a name, what is joined stands behind a slash. -/
lemma join_slash (hn : IsFileName n) {q : Path} (hq : q.isAbsolute = false) :
    (p.join ⟨n⟩).join q = p.join ⟨n ++ "/" ++ q.text⟩ := by
  obtain ⟨hempty, -, -, hslash⟩ := hn
  obtain ⟨c, cs, hcs⟩ := List.exists_cons_of_ne_nil fun h => hempty (String.toList_eq_nil_iff.1 h)
  have hlong : isAbsolute ⟨n ++ "/" ++ q.text⟩ = false := by
    have hc : c ≠ '/' := by
      rintro rfl
      simp [hcs] at hslash
    simp [isAbsolute, hcs, hc]
  obtain ⟨front, hfront⟩ := exists_join_eq p
  have hne : front ++ n ≠ "" := by
    intro h
    have htoList := congrArg String.toList h
    simp [hcs] at htoList
  have hlast : (front ++ n).toList.getLast? ≠ some '/' := by
    intro h
    rw [String.toList_append, List.getLast?_append, hcs, List.getLast?_cons, Option.some_or] at h
    refine hslash (hcs ▸ List.mem_of_getLast? ?_)
    rwa [List.getLast?_cons]
  rw [hfront _ (isAbsolute_piece hslash), hfront _ hlong, join, if_neg (by simp [hq]),
    if_neg (not_or.2 ⟨hne, hlast⟩)]
  simp [String.append_assoc]

/-- Names are joined one by one. -/
lemma join_ofNames (h : ∀ n ∈ ns, IsFileName n) (hne : ns ≠ []) (p : Path) :
    p.join (ofNames ns) = ns.foldl (fun p n => p.join ⟨n⟩) p := by
  induction ns generalizing p with
  | nil => exact absurd rfl hne
  | cons n ns ih =>
    have hrest : ∀ m ∈ ns, IsFileName m := fun m hm => h m (List.mem_cons_of_mem n hm)
    by_cases hns : ns = []
    · simp [hns, ofNames]
    · rw [List.foldl_cons, ← ih hrest hns, join_slash (h n List.mem_cons_self)
        (isAbsolute_ofNames hrest), ofNames, ofNames, String.intercalate_cons_of_ne_nil hns]

end Path

namespace Glob

variable {f : Files} {onlyFolders : Bool} {s t : Spot} {p : Pattern} {ps : List Pattern}
  {n : String} {ns ms : List String}

/-! ### Spots under names -/

/-- The spot that names lead to from a spot. -/
def Spot.along (s : Spot) (ns : List String) : Spot :=
  ⟨ns.foldl (fun p n => p.join ⟨n⟩) s.path, s.place ++ ns⟩

lemma Spot.along_nil (s : Spot) : s.along [] = s := by simp [along]

lemma Spot.along_append (s : Spot) (ns ms : List String) :
    s.along (ns ++ ms) = (s.along ns).along ms := by
  simp [along]

lemma Spot.path_along (h : ∀ n ∈ ns, IsFileName n) (hne : ns ≠ []) :
    (s.along ns).path = s.path.join (.ofNames ns) :=
  (Path.join_ofNames h hne s.path).symm

lemma Spot.exists_along_of_below {q : Place} (hq : q ∈ f.below s.place) :
    ∃ ns, ns ≠ [] ∧ (∀ n ∈ ns, IsFileName n) ∧ s.down q = s.along ns := by
  obtain ⟨ns, hne, rfl, hsome⟩ := Files.mem_below_iff.1 hq
  have hnames : ∀ n ∈ ns, IsFileName n := fun n hn =>
    Files.names_of_node? hsome n (List.mem_append_right s.place hn)
  exact ⟨ns, hne, hnames, by rw [down_append, Path.join_ofNames hnames hne, along]⟩

lemma Spot.exists_along_of_child {q : Place} (hq : q ∈ f.children s.place) :
    ∃ n, IsFileName n ∧ s.down q = s.along [n] := by
  obtain ⟨ns, hne, hnames, hdown⟩ := exists_along_of_below (Files.children_subset_below hq)
  have hplace : q = s.place ++ ns := congrArg Spot.place hdown
  rw [Files.children, List.mem_filter, Bool.and_eq_true, beq_iff_eq, hplace,
    List.dropLast_append_of_ne_nil hne] at hq
  have hdrop : ns.dropLast = [] := List.append_right_eq_self.1 hq.2.1
  obtain ⟨ms, n, rfl⟩ := List.eq_nil_or_concat ns |>.resolve_left hne
  rw [List.concat_eq_append, List.dropLast_concat] at hdrop
  subst hdrop
  exact ⟨n, hnames n (by simp), hdown⟩

lemma Spot.name_along_concat (s : Spot) (ns : List String) (n : String) :
    (s.along (ns ++ [n])).name = n.toList := by
  simp [along, name, ← List.append_assoc]

/-! ### Components that stand for names -/

/-- The component stands for something, and not for `.` or `..`. -/
structure Names (p : Pattern) : Prop where
  ne_nil : p ≠ []
  ne_special : p.head? = some (.char '.') →
    p.accepts ['.'] = false ∧ p.accepts ['.', '.'] = false

instance (p : Pattern) : Decidable (Names p) :=
  decidable_of_iff (p ≠ [] ∧ (p.head? = some (.char '.') →
    p.accepts ['.'] = false ∧ p.accepts ['.', '.'] = false))
    ⟨fun h => ⟨h.1, h.2⟩, fun h => ⟨h.1, h.2⟩⟩

lemma eq_literally (h : p.literal? = some n) : p = literally n.toList := by
  unfold Pattern.literal? at h
  obtain ⟨cs, hcs, rfl⟩ := Option.map_eq_some_iff.1 h
  rw [String.toList_ofList]
  clear h
  induction p generalizing cs with
  | nil =>
    cases hcs
    rfl
  | cons token p ih =>
    rw [List.mapM_cons] at hcs
    obtain ⟨c, hc, hcs⟩ := Option.bind_eq_some_iff.1 hcs
    obtain ⟨ds, hds, hcs⟩ := Option.bind_eq_some_iff.1 hcs
    cases hcs
    split at hc
    · cases hc
      rw [literally, List.map_cons, ← literally, ← ih ds hds]
    · cases hc

/-- A component without wildcards leads under its name. -/
lemma Names.follow? (hp : Names p) (hn : p.literal? = some n) (h : s.follow? f n = some t) :
    IsFileName n ∧ p.accepts n.toList = true ∧ t = s.along [n] := by
  obtain ⟨hstep, hpath⟩ := Spot.follow?_eq_some_iff.1 h
  have hp' := eq_literally hn
  have haccepts : p.accepts n.toList = true := by
    rw [hp', accepts_literally]
  have hname : n ≠ "" ∧ n ≠ "." ∧ n ≠ ".." := by
    refine ⟨?_, ?_, ?_⟩
    · rintro rfl
      exact hp.ne_nil hp'
    · rintro rfl
      have hspecial := (hp.ne_special (by rw [hp']; rfl)).1
      exact Bool.false_ne_true (hspecial.symm.trans haccepts)
    · rintro rfl
      have hspecial := (hp.ne_special (by rw [hp']; rfl)).2
      exact Bool.false_ne_true (hspecial.symm.trans haccepts)
  have hplace : t.place = s.place ++ [n] := by
    rw [Files.step_ok hstep, Place.walk]
    simp [hname]
  refine ⟨⟨hname.1, hname.2.1, hname.2.2, Files.not_mem_of_step hstep⟩, haccepts, ?_⟩
  obtain ⟨path, place⟩ := t
  simp only at hpath hplace
  rw [hpath, hplace, Spot.along]
  rfl

/-- Components that stand for names find neither `.` nor `..`. -/
lemma Names.specials (hp : Names p) (s : Spot) : specials f p s = [] := by
  unfold Glob.specials
  split
  · rename_i hpoint
    obtain ⟨hhere, habove⟩ := hp.ne_special hpoint
    refine List.filterMap_eq_nil_iff.2 fun name hname => ?_
    have hnot : p.accepts name.toList = false := by
      rcases List.mem_cons.1 hname with rfl | hname
      · exact habove
      · rw [List.mem_singleton.1 hname]
        exact hhere
    rw [hnot, if_neg Bool.false_ne_true]
  · rfl

/-! ### What is found -/

/-- What plain components and more find lies where a path of the plain ones leads. -/
lemma exists_of_mem_expand_plain {names : List String}
    (h : t ∈ expand f onlyFolders (names.map (literally ·.toList) ++ ps) s) :
    ∃ q, t ∈ expand f onlyFolders ps ⟨names.foldl (fun p n => p.join ⟨n⟩) s.path, q⟩ := by
  induction names generalizing s with
  | nil => exact ⟨s.place, h⟩
  | cons name names ih =>
    rw [List.map_cons, List.cons_append, expand_literally] at h
    obtain ⟨r, hr, h⟩ := List.mem_flatMap.1 h
    have hpath := (Spot.follow?_eq_some_iff.1 (Option.mem_toList.1 hr)).2
    obtain ⟨q, hq⟩ := ih h
    rw [hpath] at hq
    exact ⟨q, hq⟩

lemma isFolder_of_mem_expand (honly : onlyFolders = true) (h : t ∈ expand f onlyFolders ps s) :
    t.isFolder f = true := by
  fun_induction expand f onlyFolders ps s with
  | case1 => cases h
  | case2 s hs =>
    rw [List.mem_singleton.1 h]
    simpa [honly] using hs
  | case3 p ps s name hname r hr ih => exact ih h
  | case4 => cases h
  | case5 => cases h
  | case6 p s => exact (List.mem_filter.1 h).2
  | case7 p s hliteral hfolder hdeep q qs hq ih => exact ih h
  | case8 p s hliteral hfolder hdeep q qs hq ih =>
    obtain ⟨r, hr, h⟩ := List.mem_flatMap.1 h
    split at h
    · exact ih r h
    · cases h
  | case9 p ps s hliteral hfolder hdeep ih =>
    rcases List.mem_append.1 h with h | h
    · obtain ⟨r, hr, h⟩ := List.mem_flatMap.1 h
      exact ih r h
    · obtain ⟨r, hr, h⟩ := List.mem_flatMap.1 h
      split at h
      · exact ih r h
      · cases h

lemma plain_of_not_deep (h : .folders ∈ p → p = [.folders]) (hdeep : ¬isDeep p = true) :
    .folders ∉ p := by
  intro hmem
  rw [h hmem] at hdeep
  exact hdeep rfl

/-- Folders may be any number of names before the next component. -/
lemma Along.downs (h : Along ([.folders] :: ps) ns) (ms : List String) :
    Along ([.folders] :: ps) (ms ++ ns) := by
  induction ms with
  | nil => exact h
  | cons m ms ih => exact .down ih

/-- **Files are found under names that the components stand for.** -/
theorem along_of_mem_expand (hps : ∀ p ∈ ps, Names p ∧ (.folders ∈ p → p = [.folders]))
    (h : t ∈ expand f onlyFolders ps s) (hfile : t.isFolder f = false) :
    ∃ ns, Along ps ns ∧ (∀ n ∈ ns, IsFileName n) ∧ t = s.along ns := by
  fun_induction expand f onlyFolders ps s with
  | case1 => cases h
  | case2 s hs =>
    rw [List.mem_singleton.1 h]
    exact ⟨[], .done, by simp, (Spot.along_nil s).symm⟩
  | case3 p ps s name hname r hr ih =>
    obtain ⟨⟨hp, -⟩, hps⟩ := List.forall_mem_cons.1 hps
    obtain ⟨hname', haccepts, rfl⟩ := hp.follow? hname hr
    obtain ⟨ns, halong, hns, rfl⟩ := ih hps h
    have hplain : .folders ∉ p := by
      rw [eq_literally hname]
      simp [literally]
    exact ⟨name :: ns, .name hplain haccepts halong, List.forall_mem_cons.2 ⟨hname', hns⟩,
      (Spot.along_append s [name] ns).symm⟩
  | case4 => cases h
  | case5 => cases h
  | case6 p s =>
    have hfolder := (List.mem_filter.1 h).2
    rw [hfile] at hfolder
    cases hfolder
  | case7 p s hliteral hfolder hdeep q qs hq ih =>
    obtain ⟨ns, halong, hns, ht⟩ := ih (List.forall_mem_cons.1 hps).2 h
    rw [eq_of_beq hdeep]
    exact ⟨ns, .stay halong, hns, ht⟩
  | case8 p s hliteral hfolder hdeep q qs hq ih =>
    obtain ⟨-, ⟨-, hfolders⟩, hps⟩ := (List.forall_mem_cons.1 hps).imp_right
      List.forall_mem_cons.1
    obtain ⟨r, hr, h⟩ := List.mem_flatMap.1 h
    obtain ⟨place, hplace, rfl⟩ := List.mem_map.1 hr
    obtain ⟨ms, hne, hms, hdown⟩ := Spot.exists_along_of_below hplace
    rw [hdown] at h
    split at h
    · rename_i haccepts
      obtain ⟨ns, halong, hns, rfl⟩ := ih _ hps h
      -- `**` stays where it is for all but the last of the names below
      obtain ⟨ms, n, rfl⟩ := (List.eq_nil_or_concat ms).resolve_left hne
      rw [List.concat_eq_append] at haccepts hms ⊢
      rw [Spot.name_along_concat] at haccepts
      have hstay := Along.stay (.name (plain_of_not_deep hfolders hq) haccepts halong)
      rw [eq_of_beq hdeep]
      refine ⟨ms ++ n :: ns, hstay.downs ms, ?_, ?_⟩
      · rw [List.append_cons]
        exact List.forall_mem_append.2 ⟨hms, hns⟩
      · rw [← Spot.along_append, ← List.append_cons]
    · cases h
  | case9 p ps s hliteral hfolder hdeep ih =>
    obtain ⟨⟨hp, hfolders⟩, hps⟩ := List.forall_mem_cons.1 hps
    rw [hp.specials, List.flatMap_nil, List.nil_append] at h
    obtain ⟨r, hr, h⟩ := List.mem_flatMap.1 h
    obtain ⟨place, hplace, rfl⟩ := List.mem_map.1 hr
    obtain ⟨n, hn, hdown⟩ := Spot.exists_along_of_child hplace
    rw [hdown] at h
    split at h
    · rename_i haccepts
      obtain ⟨ns, halong, hns, rfl⟩ := ih _ hps h
      have haccepts' : p.accepts n.toList = true := by
        rwa [← Spot.name_along_concat s [] n]
      exact ⟨n :: ns, .name (plain_of_not_deep hfolders hdeep) haccepts' halong,
        List.forall_mem_cons.2 ⟨hn, hns⟩, (Spot.along_append s [n] ns).symm⟩
    · cases h

end Glob
end NotNullLint
