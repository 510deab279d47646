import NotNullLint.Proofs.Files.Folder

/-!
Paths that go on from an absolute path.

What such a path names is what its first part names, and then what its second part names. So seen
from any spelling of the first part it is the second part, and paths that go on from one folder are
in the order of what they go on with.
-/

namespace NotNullLint
namespace Path

/-! ### Pieces -/

lemma subset_of_mem_splitOn {α : Type} [DecidableEq α] {a : α} {as piece : List α}
    (h : piece ∈ as.splitOn a) : piece ⊆ as := by
  induction as generalizing piece with
  | nil =>
    rw [List.splitOn_nil, List.mem_singleton] at h
    simp [h]
  | cons b as ih =>
    rw [List.splitOn_cons_eq_if_modifyHead] at h
    split at h
    · obtain rfl | h := List.mem_cons.1 h
      · simp
      · exact List.subset_cons_of_subset b (ih h)
    · obtain ⟨first, others, hsplit⟩ := List.exists_cons_of_ne_nil (List.splitOn_ne_nil a as)
      rw [hsplit, List.modifyHead_cons] at h
      rw [hsplit] at ih
      obtain rfl | h := List.mem_cons.1 h
      · exact List.cons_subset_cons b (ih List.mem_cons_self)
      · exact List.subset_cons_of_subset b (ih (List.mem_cons_of_mem first h))

/-- The last piece is empty only behind the separator. -/
lemma getLast?_splitOn {α : Type} [DecidableEq α] {a : α} {as : List α} (hne : as ≠ [])
    (hlast : as.getLast? ≠ some a) : (as.splitOn a).getLast? ≠ some [] := by
  induction as with
  | nil => exact absurd rfl hne
  | cons b as ih =>
    obtain ⟨first, others, hsplit⟩ := List.exists_cons_of_ne_nil (List.splitOn_ne_nil a as)
    rw [List.splitOn_cons_eq_if_modifyHead, hsplit]
    rw [hsplit] at ih
    by_cases has : as = []
    · subst has
      have hb : b ≠ a := by simpa using hlast
      rw [List.splitOn_nil] at hsplit
      obtain ⟨rfl, rfl⟩ := List.cons.inj hsplit
      simp [hb]
    · obtain ⟨c, cs, rfl⟩ := List.exists_cons_of_ne_nil has
      rw [List.getLast?_cons_cons] at hlast
      have ih := ih has hlast
      split
      · rwa [List.getLast?_cons_cons]
      · cases others with
        | nil => simp
        | cons piece others =>
          rw [List.modifyHead_cons, List.getLast?_cons_cons]
          rwa [List.getLast?_cons_cons] at ih

lemma pieces_piece {s : String} (h : '/' ∉ s.toList) : pieces ⟨s⟩ = [s] := by
  have hsingle : ∀ t ∈ [s], '/' ∉ t.toList := by simpa using h
  simpa using pieces_intercalate hsingle (by simp)

lemma isAbsolute_piece {s : String} (h : '/' ∉ s.toList) : isAbsolute ⟨s⟩ = false := by
  simp [isAbsolute_eq (pieces_piece h)]

/-- A text without slashes leads one step further. -/
lemma destination_piece {s : String} (h : '/' ∉ s.toList) (here : Place) :
    destination here ⟨s⟩ = here.walk s := by
  simp [destination, pieces_piece h, isAbsolute_piece h]

/-! ### Absolute paths -/

lemma pieces_of_isAbsolute {p : Path} (h : p.isAbsolute = true) :
    ∃ ss, p.pieces = "" :: ss ∧ ss ≠ [] := by
  obtain ⟨s, ss, hpieces⟩ := List.exists_cons_of_ne_nil p.pieces_ne_nil
  rw [isAbsolute_eq hpieces, decide_eq_true_iff] at h
  exact ⟨ss, h.1 ▸ hpieces, h.2⟩

lemma isAbsolute_of_pieces {p : Path} {ss : List String} (h : p.pieces = "" :: ss) (hne : ss ≠ []) :
    p.isAbsolute = true := by
  rw [isAbsolute_eq h, decide_eq_true_iff]
  exact ⟨rfl, hne⟩

/-- Nothing stands before a slash in front. -/
lemma splitOn_slash_cons (text : List Char) :
    ('/' :: text).splitOn '/' = [] :: text.splitOn '/' := by
  rw [List.splitOn_cons_eq_if_modifyHead, if_pos (beq_self_eq_true '/')]

/-- The text of an absolute path is cut at its slashes after the first one. -/
lemma toList_of_isAbsolute {p : Path} (h : p.isAbsolute = true) :
    ∃ rest, p.text.toList = '/' :: rest ∧ rest.splitOn '/' = p.pieces.tail.map String.toList := by
  rw [isAbsolute, beq_iff_eq, List.head?_eq_some_iff] at h
  obtain ⟨rest, hrest⟩ := h
  refine ⟨rest, hrest, ?_⟩
  simp [pieces, hrest, splitOn_slash_cons, Function.comp_def]

lemma marked_of_pieces {p : Path} {ss : List String} (h : p.pieces = "" :: ss) (hne : ss ≠ []) :
    p.marked = ("", some .root) :: others ss := by
  rw [marked_eq h, List.isEmpty_eq_false_iff.2 hne]
  rfl

lemma filterMap_others (ss : List String) : (others ss).filterMap (·.2) = ss.filterMap inner := by
  rw [others, List.filterMap_map]
  rfl

lemma filterMap_root_others (ss : List String) :
    (("", some .root) :: others ss).filterMap (·.2) = .root :: ss.filterMap inner :=
  congrArg (List.cons Component.root) (filterMap_others ss)

lemma components_of_pieces {p : Path} {ss : List String} (h : p.pieces = "" :: ss) (hne : ss ≠ []) :
    p.components = .root :: ss.filterMap inner := by
  rw [components, marked_of_pieces h hne, filterMap_root_others]

/-! ### What a joined path names -/

/-- The pieces of a joined path are those of its parts, less an empty one at the end of the first
one. -/
lemma pieces_join {p q : Path} (hp : p.isAbsolute = true) (hq : q.isAbsolute = false) :
    ∃ ss, (p.join q).pieces = "" :: (ss ++ q.pieces)
      ∧ p.components = .root :: ss.filterMap inner := by
  obtain ⟨ss, hpieces, hne⟩ := pieces_of_isAbsolute hp
  have htext : p.text ≠ "" := by
    intro hempty
    have hp' : p = ⟨""⟩ := congrArg Path.mk hempty
    rw [hp'] at hp
    cases hp
  rw [components_of_pieces hpieces hne]
  unfold join
  rw [if_neg (by simp [hq])]
  split
  · -- the slash at the end stands for an empty piece
    rename_i hslash
    obtain ⟨s, hs⟩ := List.getLast?_eq_some_iff.1 (hslash.resolve_left htext)
    have hfirst : p.pieces = pieces ⟨String.ofList s⟩ ++ [""] :=
      pieces_of_toList (q := ⟨""⟩) (by simpa using hs)
    have hjoined : pieces ⟨p.text ++ q.text⟩ = pieces ⟨String.ofList s⟩ ++ q.pieces :=
      pieces_of_toList (by simp [hs])
    obtain ⟨t, ts, hts⟩ := List.exists_cons_of_ne_nil (pieces_ne_nil ⟨String.ofList s⟩)
    rw [hts, List.cons_append] at hfirst hjoined
    obtain ⟨rfl, hss⟩ := List.cons.inj (hpieces.symm.trans hfirst)
    have hlast : [""].filterMap inner = [] := rfl
    exact ⟨ts, hjoined, by rw [hss, List.filterMap_append, hlast, List.append_nil]⟩
  · have hjoined : pieces ⟨p.text ++ "/" ++ q.text⟩ = p.pieces ++ q.pieces :=
      pieces_of_toList (by simp)
    exact ⟨ss, by rw [hjoined, hpieces, List.cons_append], rfl⟩

lemma isAbsolute_join {p q : Path} (hp : p.isAbsolute = true) : (p.join q).isAbsolute = true := by
  cases hq : q.isAbsolute with
  | true => rw [join, if_pos hq, hq]
  | false =>
    obtain ⟨ss, hpieces, -⟩ := pieces_join hp hq
    exact isAbsolute_of_pieces hpieces (List.append_ne_nil_of_right_ne_nil ss q.pieces_ne_nil)

lemma marked_join {p q : Path} (hp : p.isAbsolute = true) (hq : q.isAbsolute = false) :
    ∃ ms, (p.join q).marked = ms ++ others q.pieces ∧ ms.filterMap (·.2) = p.components := by
  obtain ⟨ss, hpieces, hcomponents⟩ := pieces_join hp hq
  refine ⟨("", some .root) :: others ss, ?_, ?_⟩
  · rw [marked_of_pieces hpieces (List.append_ne_nil_of_right_ne_nil ss q.pieces_ne_nil), others,
      List.map_append]
    rfl
  · rw [hcomponents, filterMap_root_others]

/-- **Joining appends what is named.** -/
theorem components_join {p q : Path} (hp : p.isAbsolute = true) (hq : q.isAbsolute = false) :
    (p.join q).components = p.components ++ q.pieces.filterMap inner := by
  obtain ⟨ms, hmarked, hms⟩ := marked_join hp hq
  rw [components, hmarked, List.filterMap_append, hms, filterMap_others]

/-- Joining pieces one by one names what they name. -/
lemma components_foldl_join {p : Path} (hp : p.isAbsolute = true) {ss : List String}
    (h : ∀ s ∈ ss, '/' ∉ s.toList) :
    (ss.foldl (fun p s => p.join ⟨s⟩) p).isAbsolute = true
      ∧ (ss.foldl (fun p s => p.join ⟨s⟩) p).components = p.components ++ ss.filterMap inner := by
  induction ss generalizing p with
  | nil => simp [hp]
  | cons s ss ih =>
    have hs := h s List.mem_cons_self
    obtain ⟨habsolute, hcomponents⟩ :=
      ih (isAbsolute_join (q := ⟨s⟩) hp) fun t ht => h t (List.mem_cons_of_mem s ht)
    refine ⟨habsolute, ?_⟩
    rw [List.foldl_cons, hcomponents, components_join hp (isAbsolute_piece hs), pieces_piece hs,
      List.append_assoc, ← List.filterMap_append]
    rfl

/-! ### Seen from the first part -/

lemma trimStart_append {ms : List Piece} (h : ms.filterMap (·.2) = []) (ps : List Piece) :
    trimStart (ms ++ ps) = trimStart ps := by
  induction ms with
  | nil => rfl
  | cons m ms ih =>
    obtain ⟨s, c⟩ := m
    cases c with
    | none => exact ih h
    | some c => cases h

/-- What remains after the components of the first pieces are the others, up to empty ones. -/
lemma dropComponents_append (ms ps : List Piece) :
    (dropComponents (ms.filterMap (·.2)) (ms ++ ps)).map trimStart = some (trimStart ps) := by
  induction ms with
  | nil => simp [dropComponents]
  | cons m ms ih =>
    obtain ⟨s, c⟩ := m
    cases c with
    | some c => simpa [dropComponents] using ih
    | none =>
      have hskip : ((s, none) :: ms : List Piece).filterMap (·.2) = ms.filterMap (·.2) := rfl
      rw [hskip]
      cases hms : ms.filterMap (·.2) with
      | nil =>
        rw [dropComponents, Option.map_some]
        exact congrArg some (trimStart_append (hskip.trans hms) ps)
      | cons c cs => simpa [dropComponents, hms] using ih

/-- The path of names that follow each other. -/
def ofNames (ns : List String) : Path := ⟨String.intercalate "/" ns⟩

variable {ns : List String}

lemma pieces_ofNames (h : ∀ n ∈ ns, IsFileName n) (hne : ns ≠ []) : (ofNames ns).pieces = ns :=
  pieces_intercalate (fun n hn => (h n hn).2.2.2) hne

lemma nil_not_mem_splitOn_ofNames (h : ∀ n ∈ ns, IsFileName n) (hne : ns ≠ []) :
    [] ∉ (ofNames ns).text.toList.splitOn '/' := by
  intro hmem
  have hempty : "" ∈ (ofNames ns).pieces := List.mem_map.2 ⟨[], hmem, rfl⟩
  rw [pieces_ofNames h hne] at hempty
  exact (h "" hempty).1 rfl

lemma toList_ofNames_ne_nil (h : ∀ n ∈ ns, IsFileName n) (hne : ns ≠ []) :
    (ofNames ns).text.toList ≠ [] := by
  intro hnil
  have hfull := nil_not_mem_splitOn_ofNames h hne
  rw [hnil, List.splitOn_nil] at hfull
  exact hfull List.mem_cons_self

/-- Between names there is one slash. -/
lemma not_slashes_ofNames (h : ∀ n ∈ ns, IsFileName n) (hne : ns ≠ []) :
    ¬['/', '/'] <:+: '/' :: (ofNames ns).text.toList := by
  have hfull := nil_not_mem_splitOn_ofNames h hne
  rintro ⟨u, v, huv⟩
  cases u with
  | nil =>
    have htext : (ofNames ns).text.toList = [] ++ '/' :: v := (List.cons.inj huv).2.symm
    rw [htext, List.splitOn_append_cons_self, List.splitOn_nil] at hfull
    exact hfull List.mem_cons_self
  | cons c u =>
    have htext : (ofNames ns).text.toList = u ++ '/' :: ([] ++ '/' :: v) := by
      simpa using (List.cons.inj huv).2.symm
    rw [htext, List.splitOn_append_cons_self, List.splitOn_append_cons_self,
      List.splitOn_nil] at hfull
    exact hfull (List.mem_append_right _ List.mem_cons_self)

lemma isAbsolute_ofNames (h : ∀ n ∈ ns, IsFileName n) : (ofNames ns).isAbsolute = false := by
  cases ns with
  | nil => rfl
  | cons n ns =>
    rw [isAbsolute_eq (pieces_ofNames h (List.cons_ne_nil n ns)), decide_eq_false_iff_not]
    exact fun he => (h n List.mem_cons_self).1 he.1

lemma inner_of_isFileName {n : String} (h : IsFileName n) : inner n = some (.name n) :=
  inner_of_isName ⟨h.1, h.2.1, h.2.2.1⟩

lemma filterMap_inner_of_names (h : ∀ n ∈ ns, IsFileName n) :
    ns.filterMap inner = ns.map Component.name := by
  rw [← List.filterMap_eq_map]
  exact List.filterMap_congr fun n hn => inner_of_isFileName (h n hn)

lemma components_join_ofNames {p : Path} (hp : p.isAbsolute = true) (h : ∀ n ∈ ns, IsFileName n)
    (hne : ns ≠ []) : (p.join (ofNames ns)).components = p.components ++ ns.map .name := by
  rw [components_join hp (isAbsolute_ofNames h), pieces_ofNames h hne, filterMap_inner_of_names h]

/-! ### Seen from the first part, by segments -/

/-- The text can stand between slashes and counts there: a name, or `..`. -/
def IsSegment (s : String) : Prop := s ≠ "" ∧ s ≠ "." ∧ '/' ∉ s.toList

instance (s : String) : Decidable (IsSegment s) := inferInstanceAs (Decidable (_ ∧ _))

lemma isSegment_iff {s : String} : IsSegment s ↔ inner s ≠ none ∧ '/' ∉ s.toList := by
  rw [Ne, inner_eq_none_iff, not_or, and_assoc]
  rfl

lemma isSegment_of_isFileName {s : String} (h : IsFileName s) : IsSegment s :=
  ⟨h.1, h.2.1, h.2.2.2⟩

namespace IsSegment

variable {s : String}

lemma isSome_inner (h : IsSegment s) : (inner s).isSome = true :=
  Option.isSome_iff_ne_none.2 (isSegment_iff.1 h).1

lemma leading_eq (h : IsSegment s) (alone : Bool) : leading alone s = inner s := by
  obtain ⟨hempty, hhere, -⟩ := h
  simp [leading, hempty, hhere]

end IsSegment

lemma inner_ne_root (s : String) : inner s ≠ some .root := by
  unfold inner
  split
  · nofun
  · split <;> nofun

lemma marked_of_more {p : Path} {t : String} {ts : List String} (h : p.pieces = t :: ts)
    (hts : ts ≠ []) : p.marked = (t, leading false t) :: others ts := by
  rw [marked_eq h, List.isEmpty_eq_false_iff.2 hts]

/-- Whatever the first part of a path, segments behind it count as they do alone. -/
lemma marked_join_segments {q : Path} (hq : ∀ s ∈ q.pieces, IsSegment s) (p : Path) :
    ∃ ms, (p.join q).marked = ms ++ others q.pieces ∧ ms.filterMap (·.2) = p.components := by
  obtain ⟨s, ss, hpieces⟩ := List.exists_cons_of_ne_nil q.pieces_ne_nil
  have hs : IsSegment s := hq s (hpieces ▸ List.mem_cons_self)
  have hrelative : ¬q.isAbsolute = true := by
    rw [isAbsolute_eq hpieces, decide_eq_true_iff]
    exact fun h => hs.1 h.1
  have hmore (ts : List String) : ts ++ q.pieces ≠ [] :=
    List.append_ne_nil_of_right_ne_nil ts q.pieces_ne_nil
  have hothers (ts : List String) : others (ts ++ q.pieces) = others ts ++ others q.pieces :=
    List.map_append
  unfold join
  rw [if_neg hrelative]
  by_cases hempty : p.text = ""
  · have hp : p = ⟨""⟩ := congrArg Path.mk hempty
    rw [if_pos (.inl hempty), hempty, String.empty_append]
    refine ⟨[], ?_, ?_⟩
    · simp only [marked, hpieces, hs.leading_eq]
      rfl
    · rw [hp]
      rfl
  by_cases hend : p.text.toList.getLast? = some '/'
  · -- the slash at the end stands for an empty piece
    obtain ⟨front, hfront⟩ := List.getLast?_eq_some_iff.1 hend
    have hp : p.pieces = pieces ⟨String.ofList front⟩ ++ [""] :=
      pieces_of_toList (q := ⟨""⟩) (by simpa using hfront)
    have hjoined : pieces ⟨p.text ++ q.text⟩ = pieces ⟨String.ofList front⟩ ++ q.pieces :=
      pieces_of_toList (by simp [hfront])
    obtain ⟨t, ts, hts⟩ := List.exists_cons_of_ne_nil (pieces_ne_nil ⟨String.ofList front⟩)
    rw [hts, List.cons_append] at hp hjoined
    have hlast : (others [""]).filterMap (·.2) = [] := rfl
    have hcut : others (ts ++ [""]) = others ts ++ others [""] := List.map_append
    refine ⟨(t, leading false t) :: others ts, ?_, ?_⟩
    · rw [if_pos (.inr hend), marked_of_more hjoined (hmore ts), hothers, List.cons_append]
    · rw [components, marked_of_more hp (by simp), hcut, ← List.cons_append,
        List.filterMap_append, hlast, List.append_nil]
  · obtain ⟨t, ts, hts⟩ := List.exists_cons_of_ne_nil p.pieces_ne_nil
    have hjoined : pieces ⟨p.text ++ "/" ++ q.text⟩ = t :: (ts ++ q.pieces) := by
      rw [← List.cons_append, ← hts]
      exact pieces_of_toList (by simp)
    have hmarked : p.marked = (t, leading false t) :: others ts := by
      cases ts with
      | cons u us => exact marked_of_more hts (List.cons_ne_nil u us)
      | nil =>
        have ht : t ≠ "" := by
          rintro rfl
          rw [text_eq, hts] at hempty
          exact hempty rfl
        simp [marked, hts, leading, ht, others]
    refine ⟨(t, leading false t) :: others ts, ?_, ?_⟩
    · rw [if_neg (by simp [hempty, hend]), marked_of_more hjoined (hmore ts), hothers,
        List.cons_append]
    · rw [components, hmarked]

/-- Pieces that all count are spelled as they are. -/
lemma spell_segments {q : Path} (hq : ∀ s ∈ q.pieces, IsSegment s) :
    spell (trimEnd (trimStart (others q.pieces))) = q := by
  have hsome {s : String} (hs : IsSegment s) : ¬(inner s).isNone = true := by
    rw [Option.isNone_iff_eq_none, ← Option.not_isSome_iff_eq_none, not_not]
    exact hs.isSome_inner
  have hstart : trimStart (others q.pieces) = others q.pieces := by
    obtain ⟨s, ss, hpieces⟩ := List.exists_cons_of_ne_nil q.pieces_ne_nil
    rw [others, hpieces, List.map_cons]
    exact List.dropWhile_cons_of_neg (hsome (hq s (hpieces ▸ List.mem_cons_self)))
  have hend : trimEnd (others q.pieces) = others q.pieces := by
    obtain ⟨ss, s, hpieces⟩ := List.eq_nil_or_concat q.pieces |>.resolve_left q.pieces_ne_nil
    rw [List.concat_eq_append] at hpieces
    rw [others, hpieces, List.map_append]
    exact List.rdropWhile_concat_neg _ _ _ (hsome (hq s (by simp [hpieces])))
  rw [hstart, hend]
  unfold spell
  split
  · rename_i t hroot
    obtain ⟨s, hs⟩ : ∃ s, (t, some Component.root) = (s, inner s) := by
      have hmem : (t, some Component.root) ∈ others q.pieces := by simp [hroot]
      obtain ⟨s, -, hs⟩ := List.mem_map.1 hmem
      exact ⟨s, hs.symm⟩
    exact absurd (Prod.mk.inj hs).2.symm (inner_ne_root s)
  · rw [others, List.map_map]
    simp only [Function.comp_def, List.map_id']
    rw [← text_eq]

/-- **Seen from its first part**, in whatever spelling, a path is what it goes on with. -/
theorem relativeTo?_join {p base q : Path} (hbase : base.components = p.components)
    (hq : ∀ s ∈ q.pieces, IsSegment s) : (p.join q).relativeTo? base = some q := by
  obtain ⟨ms, hmarked, hms⟩ := marked_join_segments hq p
  have hdrop := dropComponents_append ms (others q.pieces)
  rw [hms] at hdrop
  obtain ⟨ps, hps, htrim⟩ := Option.map_eq_some_iff.1 hdrop
  rw [relativeTo?, hmarked, hbase, hps, Option.map_some, htrim, spell_segments hq]

lemma relativeTo?_join_ofNames {p base : Path} (hbase : base.components = p.components)
    (h : ∀ n ∈ ns, IsFileName n) (hne : ns ≠ []) :
    (p.join (ofNames ns)).relativeTo? base = some (ofNames ns) :=
  relativeTo?_join hbase fun s hs => isSegment_of_isFileName (h s (by rwa [← pieces_ofNames h hne]))

/-! ### The order of joined paths -/

lemma compare_append {α : Type} [Ord α] [Std.ReflOrd α] (as bs cs : List α) :
    compare (as ++ bs) (as ++ cs) = compare bs cs := by
  induction as with
  | nil => rfl
  | cons a as ih =>
    have hself : compare a a = .eq := Std.ReflCmp.compare_self
    rw [List.cons_append, List.cons_append, List.compare_eq_compareLex, List.compareLex_cons_cons,
      hself]
    exact ih

lemma compare_map_name (ns ms : List String) :
    compare (ns.map Component.name) (ms.map Component.name) = compare ns ms := by
  induction ns generalizing ms with
  | nil => cases ms <;> rfl
  | cons n ns ih =>
    cases ms with
    | nil => rfl
    | cons m ms =>
      simp only [List.map_cons, List.compare_eq_compareLex, List.compareLex_cons_cons] at ih ⊢
      rw [ih]
      rfl

/-- Paths that go on from one folder are in the order of what they go on with. -/
lemma compare_join_ofNames {p : Path} {ms : List String} (hp : p.isAbsolute = true)
    (hns : ∀ n ∈ ns, IsFileName n) (hms : ∀ m ∈ ms, IsFileName m) (hns' : ns ≠ [])
    (hms' : ms ≠ []) :
    compare (p.join (ofNames ns)) (p.join (ofNames ms)) = compare ns ms := by
  change compare (p.join (ofNames ns)).components (p.join (ofNames ms)).components = _
  rw [components_join_ofNames hp hns hns', components_join_ofNames hp hms hms', compare_append,
    compare_map_name]

/-! ### Where absolute paths lead -/

/-- One component of a path, whatever stands there. -/
def follow (here : Place) : Component → Place
  | .root => []
  | .here => here
  | .parent => here.dropLast
  | .name s => here ++ [s]

lemma walk_eq_follow (here : Place) (s : String) :
    here.walk s = (inner s).elim here (follow here) := by
  unfold Place.walk inner
  split
  · rfl
  · split <;> rfl

lemma foldl_walk_eq (here : Place) (ss : List String) :
    ss.foldl Place.walk here = (ss.filterMap inner).foldl follow here := by
  induction ss generalizing here with
  | nil => rfl
  | cons s ss ih =>
    rw [List.foldl_cons, ih, walk_eq_follow, List.filterMap_cons]
    cases inner s <;> rfl

/-- Where an absolute path leads can be told from what it names. -/
lemma destination_of_components {p q : Path} (hp : p.isAbsolute = true) (hq : q.isAbsolute = true)
    (h : p.components = q.components) (here : Place) :
    p.destination here = q.destination here := by
  have heq {r : Path} (hr : r.isAbsolute = true) :
      r.destination here = r.components.foldl follow here := by
    obtain ⟨ss, hpieces, hne⟩ := pieces_of_isAbsolute hr
    have hempty : Place.walk [] "" = [] := rfl
    rw [destination, if_pos hr, components_of_pieces hpieces hne, hpieces, List.foldl_cons, hempty,
      List.foldl_cons, foldl_walk_eq]
    rfl
  rw [heq hp, heq hq, h]

end Path
end NotNullLint
