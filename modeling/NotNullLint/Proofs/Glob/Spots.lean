import NotNullLint.Glob.Walk
import NotNullLint.Proofs.Files.Joined
import NotNullLint.Proofs.Glob.Plain
import NotNullLint.Proofs.Lists

/-!
Where a pattern leads.

From a spot a pattern goes on by one name at a time, or by the names of something below. Each such
step keeps a spot sound: its path starts at the root and leads to its place. Components without
wildcards lead where a path of them leads, and `**` before the last one leads to all that is below.
-/

namespace NotNullLint

/-! ### Places below a place -/

namespace Files

variable {f : Files} {p q : Place}

lemma mem_entries_iff : q ∈ f.entries.map (·.1) ↔ q ≠ [] ∧ (f.node? q).isSome = true := by
  rw [List.mem_map]
  constructor
  · rintro ⟨⟨r, n⟩, he, rfl⟩
    have hne := (f.named _ he).1
    obtain ⟨s, ss, rfl⟩ := List.exists_cons_of_ne_nil hne
    exact ⟨hne, Option.isSome_iff_exists.2 ⟨n, lookup_of_mem he⟩⟩
  · rintro ⟨hne, hsome⟩
    obtain ⟨n, hn⟩ := Option.isSome_iff_exists.1 hsome
    exact ⟨(q, n), mem_of_node? hne hn, rfl⟩

/-- What stands somewhere stands there under names of files. -/
lemma names_of_node? (h : (f.node? q).isSome = true) : ∀ s ∈ q, IsFileName s := by
  by_cases hq : q = []
  · simp [hq]
  · obtain ⟨n, hn⟩ := Option.isSome_iff_exists.1 h
    exact (f.named _ (mem_of_node? hq hn)).2

/-- Below a place is what stands there under further names. -/
lemma mem_below_iff :
    q ∈ f.below p ↔ ∃ ns, ns ≠ [] ∧ q = p ++ ns ∧ (f.node? q).isSome = true := by
  rw [below, List.mem_filter, mem_entries_iff, Bool.and_eq_true, List.isPrefixOf_iff_prefix,
    bne_iff_ne]
  constructor
  · rintro ⟨⟨-, hsome⟩, ⟨ns, rfl⟩, hne⟩
    exact ⟨ns, fun hns => hne (by rw [hns, List.append_nil]), rfl, hsome⟩
  · rintro ⟨ns, hns, rfl, hsome⟩
    exact ⟨⟨by simp [hns], hsome⟩, List.prefix_append p ns, by simpa using hns⟩

lemma children_subset_below : f.children p ⊆ f.below p := by
  intro q hq
  rw [children, List.mem_filter, Bool.and_eq_true, beq_iff_eq, bne_iff_ne] at hq
  obtain ⟨hentry, hparent, hne⟩ := hq
  obtain ⟨hroot, hsome⟩ := mem_entries_iff.1 hentry
  refine mem_below_iff.2 ⟨[q.getLast hroot], by simp, ?_, hsome⟩
  rw [← hparent, List.dropLast_append_getLast]

/-- A step takes a text without slashes. -/
lemma not_mem_of_step {here : Place} {s : String} (h : f.step here s = .ok q) :
    '/' ∉ s.toList := by
  unfold step at h
  split at h
  · cases h
  split at h
  · rename_i hstay
    obtain rfl | rfl := hstay <;> simp
  split at h
  · rename_i hup
    simp [hup]
  split at h
  · cases h
  split at h
  · rename_i hsome
    exact (names_of_node? hsome s (by simp)).2.2.2
  · cases h

end Files

namespace Path

/-- Names lead down. -/
lemma destination_ofNames {ns : List String} (h : ∀ n ∈ ns, IsFileName n) (hne : ns ≠ [])
    (here : Place) : (ofNames ns).destination here = here ++ ns := by
  rw [destination, isAbsolute_ofNames h, pieces_ofNames h hne]
  exact foldl_walk h here

end Path

namespace Glob

variable {f : Files} {onlyFolders : Bool} {s t : Spot}

/-- The path of the spot leads to its place, from everywhere. -/
structure Spot.Sound (s : Spot) : Prop where
  absolute : s.path.isAbsolute = true
  leads : ∀ here, s.path.destination here = s.place

namespace Spot

lemma follow?_eq_some_iff {name : String} : s.follow? f name = some t
    ↔ f.step s.place name = .ok t.place ∧ t.path = s.path.join ⟨name⟩ := by
  constructor
  · intro h
    unfold follow? at h
    split at h
    · rename_i q hstep
      cases h
      exact ⟨hstep, rfl⟩
    · cases h
  · rintro ⟨hstep, hpath⟩
    rw [follow?, hstep, ← hpath]

lemma Sound.follow? {name : String} (hs : s.Sound) (h : s.follow? f name = some t) : t.Sound := by
  obtain ⟨hstep, hpath⟩ := follow?_eq_some_iff.1 h
  refine ⟨hpath ▸ Path.isAbsolute_join hs.absolute, fun here => ?_⟩
  rw [hpath, Path.destination_join, hs.leads,
    Path.destination_piece (Files.not_mem_of_step hstep), Files.step_ok hstep]

lemma down_append (s : Spot) (ns : List String) :
    s.down (s.place ++ ns) = ⟨s.path.join (.ofNames ns), s.place ++ ns⟩ := by
  rw [down, List.drop_left, Path.ofNames]

lemma Sound.down {q : Place} (hs : s.Sound) (hq : q ∈ f.below s.place) : (s.down q).Sound := by
  obtain ⟨ns, hne, rfl, hsome⟩ := Files.mem_below_iff.1 hq
  have hnames : ∀ n ∈ ns, IsFileName n := fun n hn =>
    Files.names_of_node? hsome n (List.mem_append_right s.place hn)
  rw [down_append]
  refine ⟨Path.isAbsolute_join hs.absolute, fun here => ?_⟩
  rw [Path.destination_join, hs.leads, Path.destination_ofNames hnames hne]

end Spot

/-- Each step of a pattern keeps what is so of a spot. -/
structure Kept (f : Files) (P : Spot → Prop) : Prop where
  follow : ∀ {s t : Spot} {name : String}, P s → s.follow? f name = some t → P t
  down : ∀ {s : Spot} {q : Place}, P s → q ∈ f.below s.place → P (s.down q)

namespace Kept

variable {P : Spot → Prop}

lemma of_mem_specials {p : Pattern} (hP : Kept f P) (hs : P s) (h : t ∈ specials f p s) : P t := by
  unfold specials at h
  split at h
  · obtain ⟨name, -, hfollow⟩ := List.mem_filterMap.1 h
    split at hfollow
    · exact hP.follow hs hfollow
    · cases hfollow
  · cases h

/-- **What each step keeps, is so of all that is found.** -/
theorem of_mem_expand {ps : List Pattern} (hP : Kept f P) (hs : P s)
    (h : t ∈ expand f onlyFolders ps s) : P t := by
  have hbelow {s : Spot} (hs : P s) : ∀ r ∈ (f.below s.place).map s.down, P r := by
    intro r hr
    obtain ⟨q, hq, rfl⟩ := List.mem_map.1 hr
    exact hP.down hs hq
  fun_induction expand f onlyFolders ps s with
  | case1 => cases h
  | case2 s => exact List.mem_singleton.1 h ▸ hs
  | case3 p ps s name hname r hr ih => exact ih (hP.follow hs hr) h
  | case4 => cases h
  | case5 => cases h
  | case6 p s => exact hbelow hs t (List.mem_of_mem_filter h)
  | case7 p s hliteral hfolder hdeep q qs hq ih => exact ih hs h
  | case8 p s hliteral hfolder hdeep q qs hq ih =>
    obtain ⟨r, hr, h⟩ := List.mem_flatMap.1 h
    split at h
    · exact ih r (hbelow hs r hr) h
    · cases h
  | case9 p ps s hliteral hfolder hdeep ih =>
    obtain h | h := List.mem_append.1 h
    · obtain ⟨r, hr, h⟩ := List.mem_flatMap.1 h
      exact ih r (hP.of_mem_specials hs hr) h
    · obtain ⟨r, hr, h⟩ := List.mem_flatMap.1 h
      obtain ⟨q, hq, rfl⟩ := List.mem_map.1 hr
      split at h
      · exact ih _ (hP.down hs (Files.children_subset_below hq)) h
      · cases h

lemma of_mem_find {text : String} {ts : List Spot} (hP : Kept f P) (hroot : P ⟨⟨"/"⟩, []⟩)
    (hfind : find f text = .ok ts) (ht : t ∈ ts) : P t := by
  unfold find at hfind
  obtain ⟨-, -, hfind⟩ := Except.bind_eq_ok_iff.1 hfind
  obtain ⟨ps, -, hts⟩ := Except.bind_eq_ok_iff.1 hfind
  rw [← Except.ok.inj hts] at ht
  exact hP.of_mem_expand hroot ht

end Kept

lemma kept_sound (f : Files) : Kept f Spot.Sound := ⟨Spot.Sound.follow?, Spot.Sound.down⟩

lemma sound_root : Spot.Sound ⟨⟨"/"⟩, []⟩ := ⟨rfl, fun _ => rfl⟩

/-- What an absolute pattern finds is where its path leads. -/
theorem sound_of_mem_find {text : String} {ts : List Spot} (hfind : find f text = .ok ts)
    (ht : t ∈ ts) : t.Sound :=
  (kept_sound f).of_mem_find sound_root hfind ht

/-- The path of the spot ends with a slash, or a point, only at a folder. -/
def Spot.Whole (f : Files) (s : Spot) : Prop :=
  ∀ n ∈ s.path.pieces.getLast?, Path.inner n = none → f.node? s.place = some .folder

lemma kept_whole (f : Files) : Kept f fun s => s.Sound ∧ s.Whole f where
  follow {s t name} hs h := by
    obtain ⟨hstep, hpath⟩ := Spot.follow?_eq_some_iff.1 h
    have hslash := Files.not_mem_of_step hstep
    refine ⟨hs.1.follow? h, fun n hn hnone => ?_⟩
    obtain ⟨ss, hpieces, -⟩ :=
      Path.pieces_join (q := ⟨name⟩) hs.1.absolute (Path.isAbsolute_piece hslash)
    rw [hpath, hpieces, Path.pieces_piece hslash, ← List.cons_append, List.getLast?_concat] at hn
    cases hn
    -- a step that stays is taken in a folder
    rw [Files.step_ok hstep, Path.walk_of_inner_none hnone]
    exact Files.node?_of_step hstep
  down {s q} hs hq := by
    obtain ⟨ns, hne, rfl, hsome⟩ := Files.mem_below_iff.1 hq
    have hnames : ∀ n ∈ ns, IsFileName n := fun n hn =>
      Files.names_of_node? hsome n (List.mem_append_right s.place hn)
    refine ⟨hs.1.down hq, fun n hn hnone => ?_⟩
    obtain ⟨ss, hpieces, -⟩ := Path.pieces_join hs.1.absolute (Path.isAbsolute_ofNames hnames)
    rw [Spot.down_append, hpieces, Path.pieces_ofNames hnames hne, ← List.cons_append,
      List.getLast?_append_of_ne_nil _ hne] at hn
    rw [Path.inner_of_isFileName (hnames n (List.mem_of_getLast? hn))] at hnone
    cases hnone

lemma whole_of_mem_find {text : String} {ts : List Spot} (hfind : find f text = .ok ts)
    (ht : t ∈ ts) : t.Whole f :=
  ((kept_whole f).of_mem_find ⟨sound_root, fun _ _ _ => rfl⟩ hfind ht).2

/-! ### Plain components, and all that is below -/

lemma expand_literally (name : String) (ps : List Pattern) (s : Spot) :
    expand f onlyFolders (literally name.toList :: ps) s
      = (s.follow? f name).toList.flatMap (expand f onlyFolders ps) := by
  conv_lhs => rw [expand.eq_def]
  simp only [literal?_literally, String.ofList_toList]
  cases s.follow? f name <;> simp

/-- Plain components lead where a path of these pieces leads. -/
lemma expand_plain {names : List String} {q : Place} (h : names.foldlM f.step s.place = .ok q)
    (ps : List Pattern) :
    expand f onlyFolders (names.map (literally ·.toList) ++ ps) s
      = expand f onlyFolders ps ⟨names.foldl (fun p n => p.join ⟨n⟩) s.path, q⟩ := by
  induction names generalizing s with
  | nil =>
    cases h
    rfl
  | cons name names ih =>
    rw [List.foldlM_cons] at h
    obtain ⟨r, hstep, hrest⟩ := Except.bind_eq_ok_iff.1 h
    have hfollow : s.follow? f name = some ⟨s.path.join ⟨name⟩, r⟩ := by
      simp only [Spot.follow?, hstep]
    have hnext := ih (s := ⟨s.path.join ⟨name⟩, r⟩) hrest
    rw [List.map_cons, List.cons_append, expand_literally, hfollow]
    simpa using hnext

/-- After `**` a component is looked for among all that is below a folder. -/
lemma expand_deep {q : Pattern} (hq : isDeep q = false) (hfolder : s.isFolder f = true) :
    expand f false [[.folders], q] s
      = ((f.below s.place).map s.down).filter fun t => q.accepts t.name := by
  have hnil (t : Spot) : expand f false [] t = [t] := by simp [expand]
  have hliteral : Pattern.literal? [.folders] = none := rfl
  have hdeep : isDeep [.folders] = true := rfl
  conv_lhs => rw [expand.eq_def]
  simp only [hliteral, hfolder, hdeep, hq, hnil, Bool.not_true, Bool.false_eq_true, if_true,
    if_false]
  rw [← flatMap_filter, List.flatMap_singleton']

end Glob
end NotNullLint
