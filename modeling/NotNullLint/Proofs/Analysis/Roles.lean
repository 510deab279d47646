import NotNullLint.Proofs.Analysis.Discovery
import NotNullLint.Proofs.Glob.Names

/-!
Patterns that include and exclude.

An include pattern is followed from the root on, component by component. An exclude pattern has to
stand for the whole of a path from the root on, with a slash in front, or to occur in it. So a
pattern excludes the files that it includes as long as it has no wildcards, or can take the slash in
front: it starts with one, or with a star. Any other pattern stands for the paths without the slash.
-/

namespace NotNullLint

/-! ### Texts without double stars -/

namespace Text

variable {c : Char} {s r : List Char}

/-- The text without its double stars. -/
def unstarred : List Char → List Char
  | '*' :: '*' :: r => unstarred r
  | c :: r => c :: unstarred r
  | [] => []

lemma replaceAll_stars (s : List Char) : replaceAll ['*', '*'] [] s = unstarred s := by
  unfold replaceAll
  fun_induction unstarred s with
  | case1 r ih => simpa [replaceFrom] using ih
  | case2 c r hstars ih =>
    have hprefix : ['*', '*'].isPrefixOf (c :: r) = false := by
      cases r with
      | nil => simp [List.isPrefixOf]
      | cons d r =>
        simp only [List.isPrefixOf, Bool.and_true, Bool.and_eq_false_iff, beq_eq_false_iff_ne]
        by_contra hboth
        simp only [ne_eq, not_or, not_not] at hboth
        exact hstars r hboth.1.symm (by rw [hboth.2])
    rw [replaceFrom, hprefix, if_neg Bool.false_ne_true, ih]
  | case3 => rfl

lemma unstarred_cons (hc : c ≠ '*') (r : List Char) : unstarred (c :: r) = c :: unstarred r :=
  unstarred.eq_2 c r fun _ h => absurd h hc

lemma unstarred_star (hr : r.head? ≠ some '*') : unstarred ('*' :: r) = '*' :: unstarred r := by
  refine unstarred.eq_2 '*' r fun t _ ht => hr ?_
  rw [ht, List.head?_cons]

lemma mem_unstarred (hc : c ≠ '*') (h : c ∈ s) : c ∈ unstarred s := by
  fun_induction unstarred s with
  | case1 r ih => exact ih (by simpa [hc] using h)
  | case2 d r _ ih =>
    rcases List.mem_cons.1 h with rfl | h
    · exact List.mem_cons_self
    · exact List.mem_cons_of_mem d (ih h)
  | case3 => cases h

lemma unstarred_of_not_mem (h : '*' ∉ s) : unstarred s = s := by
  induction s with
  | nil => rfl
  | cons c r ih =>
    rw [List.mem_cons, not_or] at h
    rw [unstarred_cons (Ne.symm h.1), ih h.2]

end Text

namespace Glob

variable {boundary : Bool} {s text : List Char} {ts : Pattern}

/-- A star stands alone, or is one of two that make a component. -/
lemma Reads.of_star {r : List Char} (h : Reads 0 boundary ('*' :: r) ts) :
    r.head? ≠ some '*'
      ∨ boundary = true ∧ ∃ t, r = '*' :: t ∧ (t = [] ∨ t.head? = some '/') := by
  cases h with
  | sequence hr => exact .inl hr
  | folders ht => exact .inr ⟨rfl, _, rfl, ht⟩
  | char hc => exact absurd rfl hc.2.1

/-- A pattern that does not start with a star keeps a star, or two slashes in a row, without its
double stars. -/
lemma Reads.star_or_slashes (h : Reads 0 boundary s ts) (hset : '[' ∉ s)
    (hstart : boundary = true → s.head? ≠ some '*') (hend : ¬['/', '*', '*'] <:+ s)
    (hstar : '*' ∈ s) : '*' ∈ Text.unstarred s ∨ ['/', '/'] <:+: Text.unstarred s := by
  have hkeep {c : Char} {r : List Char} (hc : c ≠ '*')
      (hr : '*' ∈ Text.unstarred r ∨ ['/', '/'] <:+: Text.unstarred r) :
      '*' ∈ Text.unstarred (c :: r) ∨ ['/', '/'] <:+: Text.unstarred (c :: r) := by
    rw [Text.unstarred_cons hc]
    exact hr.imp (List.mem_cons_of_mem c) List.infix_cons
  generalize hskip : 0 = skip at h
  induction h with
  | done => cases hstar
  | skipped => cases hskip
  | @anyChar _ r _ _ ih =>
    rw [List.mem_cons, not_or] at hset
    have hend' : ¬['/', '*', '*'] <:+ r := fun hr => hend (hr.trans (List.suffix_cons '?' r))
    have hstart' : false = true → r.head? ≠ some '*' := fun h => absurd h Bool.false_ne_true
    exact hkeep (by decide) (ih hset.2 hstart' hend' (by simpa using hstar) rfl)
  | sequence hr =>
    rw [Text.unstarred_star hr]
    exact .inl List.mem_cons_self
  | folders => exact absurd rfl (hstart rfl)
  | set => simp at hset
  | @char _ c r _ hc hrest ih =>
    rw [List.mem_cons, not_or] at hset
    have hr : '*' ∈ r := by simpa [hc.2.1.symm] using hstar
    have hend' : ¬['/', '*', '*'] <:+ r := fun hr => hend (hr.trans (List.suffix_cons c r))
    by_cases hhead : c = '/' ∧ r.head? = some '*'
    · -- without two stars between them, two slashes come together
      obtain ⟨rfl, hhead⟩ := hhead
      obtain ⟨r, rfl⟩ := List.head?_eq_some_iff.1 hhead
      obtain hr | ⟨-, t, rfl, ht⟩ := hrest.of_star
      · refine hkeep hc.2.1 ?_
        rw [Text.unstarred_star hr]
        exact .inl List.mem_cons_self
      · obtain rfl | ht := ht
        · exact absurd (List.suffix_refl _) hend
        · obtain ⟨t, rfl⟩ := List.head?_eq_some_iff.1 ht
          rw [Text.unstarred_cons hc.2.1, Text.unstarred, Text.unstarred_cons hc.2.1]
          exact .inr ⟨[], Text.unstarred t, rfl⟩
    · exact hkeep hc.2.1 (ih hset.2 (fun hc hr => hhead ⟨by simpa using hc, hr⟩) hend' hr rfl)

/-! ### Components after the root -/

/-- The text without a slash in front. -/
def unrooted (text : List Char) : List Char := if text.head? = some '/' then text.tail else text

lemma splitOn_eq (text : List Char) : text.splitOn '/'
    = (if text.head? = some '/' then [[]] else []) ++ (unrooted text).splitOn '/' := by
  unfold unrooted
  split
  · rename_i hslash
    obtain ⟨r, rfl⟩ := List.head?_eq_some_iff.1 hslash
    exact List.splitOn_append_cons_self [] r
  · rfl

/-- Without a slash at the end, the components are all that stands between slashes. -/
lemma components_eq (hne : text ≠ []) (hlast : text.getLast? ≠ some '/') :
    components text = (unrooted text).splitOn '/' := by
  have hrest : unrooted text ≠ [] ∧ (unrooted text).getLast? ≠ some '/' := by
    unfold unrooted
    split
    · rename_i hslash
      obtain ⟨r, rfl⟩ := List.head?_eq_some_iff.1 hslash
      cases r with
      | nil => simp at hlast
      | cons c r => exact ⟨List.cons_ne_nil c r, by rwa [List.getLast?_cons_cons] at hlast⟩
    · exact ⟨hne, hlast⟩
  exact if_neg (Path.getLast?_splitOn hrest.1 hrest.2)

end Glob

namespace Search

variable {s : Search} {f : Files} {pattern : String} {paths : List Path} {path : Path}

/-- No component of the pattern stands for nothing, `.` or `..`. -/
def NamesOnly (pattern : String) : Prop :=
  ∀ a ∈ Glob.components pattern.toList, ∀ p ∈ (Glob.parse a).toOption, Glob.Names p
  deriving Decidable

/-- The pattern also stands for a text with a slash in front: it has no wildcards, or it starts with
a slash, or with a star after any number of `?`. -/
def TakesSlash (pattern : String) : Prop :=
  (∀ c ∈ pattern.toList, Glob.IsPlain c) ∨ pattern.toList.head? = some '/'
    ∨ (pattern.toList.dropWhile (· == '?')).head? = some '*'

/-! ### What a pattern includes -/

/-- The components in front of those of a pattern: the root, and nothing for a slash in front. -/
def lead (s : Search) (pattern : String) : List String :=
  s.root.pieces.tail ++ if pattern.toList.head? = some '/' then [""] else []

lemma components_fromRoot_eq (habsolute : s.root.isAbsolute = true)
    (hlast : (s.fromRoot pattern).toList.getLast? ≠ some '/') :
    Glob.components (s.fromRoot pattern).toList
      = (s.lead pattern).map String.toList ++ (Glob.unrooted pattern.toList).splitOn '/' := by
  obtain ⟨rest, hrest, hcut⟩ := Path.toList_of_isAbsolute habsolute
  have htext : (s.fromRoot pattern).toList = '/' :: rest ++ '/' :: pattern.toList := by
    rw [toList_fromRoot, hrest]
  have hunrooted : Glob.unrooted ('/' :: rest ++ '/' :: pattern.toList)
      = rest ++ '/' :: pattern.toList := rfl
  rw [htext] at hlast ⊢
  rw [Glob.components_eq (by simp) hlast, hunrooted, List.splitOn_append_cons_self, hcut,
    Glob.splitOn_eq pattern.toList, lead, List.map_append, List.append_assoc]
  congr 2
  split <;> rfl

/-- The components of the pattern itself. -/
lemma components_eq_of_fromRoot (hlast : (s.fromRoot pattern).toList.getLast? ≠ some '/') :
    Glob.components pattern.toList = (Glob.unrooted pattern.toList).splitOn '/' := by
  rw [toList_fromRoot] at hlast
  refine Glob.components_eq (fun hempty => ?_) fun hslash => ?_
  · simp [hempty] at hlast
  · simp [List.getLast?_cons, hslash] at hlast

lemma mem_lead {n : String} (hn : n ∈ s.lead pattern) : n ∈ s.root.pieces ∨ n = "" := by
  rcases List.mem_append.1 hn with hn | hn
  · exact .inl (List.mem_of_mem_tail hn)
  · split at hn
    · exact .inr (List.mem_singleton.1 hn)
    · cases hn

lemma plain_of_mem_lead (hplain : ∀ c ∈ s.root.text.toList, Glob.IsPlain c) {n : String}
    (hn : n ∈ s.lead pattern) : ∀ c ∈ n.toList, Glob.IsPlain c := by
  rcases mem_lead hn with hn | rfl
  · exact plain_of_mem_pieces hplain hn
  · simp

/-- The lead goes to the root. -/
lemma components_lead (habsolute : s.root.isAbsolute = true) (pattern : String) :
    ((s.lead pattern).foldl (fun p n => p.join ⟨n⟩) (⟨"/"⟩ : Path)).isAbsolute = true
      ∧ ((s.lead pattern).foldl (fun p n => p.join ⟨n⟩) (⟨"/"⟩ : Path)).components
        = s.root.components := by
  obtain ⟨ss, hpieces, hne⟩ := Path.pieces_of_isAbsolute habsolute
  have hslash : ∀ n ∈ s.lead pattern, '/' ∉ n.toList := fun n hn => by
    rcases mem_lead hn with hn | rfl
    · exact Path.not_mem_of_mem_pieces hn
    · simp
  have hroot : Path.isAbsolute ⟨"/"⟩ = true := rfl
  obtain ⟨hbase, hcomponents⟩ := Path.components_foldl_join hroot hslash
  have hfirst : (if pattern.toList.head? = some '/' then [""] else []).filterMap Path.inner
      = [] := by
    split <;> rfl
  refine ⟨hbase, hcomponents.trans ?_⟩
  rw [lead, List.filterMap_append, hfirst, List.append_nil, hpieces, List.tail_cons,
    Path.components_of_pieces hpieces hne]
  rfl

/-- The components of the pattern, less a slash in front, stand for the names, one after the
other. -/
structure StandsFor (pattern : String) (ns : List String) : Prop where
  ne_nil : ns ≠ []
  names : ∀ n ∈ ns, IsFileName n
  along : ∃ ps, ((Glob.unrooted pattern.toList).splitOn '/').mapM Glob.parse = .ok ps
    ∧ Glob.Along ps ns

/-- **What a pattern includes** lies below the root under names that it stands for. -/
theorem exists_names_of_found (habsolute : s.root.isAbsolute = true)
    (hplain : ∀ c ∈ s.root.text.toList, Glob.IsPlain c) (hnames : NamesOnly pattern)
    (hfound : s.found f pattern = .ok paths) (hpath : path ∈ paths)
    (hfile : f.node? (path.destination []) ≠ some .folder) :
    ∃ ns, StandsFor pattern ns ∧ path.relativeTo? s.root = some (.ofNames ns) := by
  obtain ⟨ts, hfind, rfl⟩ := Except.map_eq_ok_iff.1 hfound
  obtain ⟨t, ht, rfl⟩ := List.mem_map.1 hpath
  have hsound := Glob.sound_of_mem_find hfind ht
  have hfolder : t.isFolder f = false := by
    rw [Glob.Spot.isFolder, ← hsound.leads [], beq_eq_false_iff_ne]
    exact hfile
  unfold Glob.find at hfind
  obtain ⟨-, -, hfind⟩ := Except.bind_eq_ok_iff.1 hfind
  obtain ⟨all, hall, hts⟩ := Except.bind_eq_ok_iff.1 hfind
  rw [← Except.ok.inj hts] at ht
  -- a slash at the end would have found folders only
  have hlast : (s.fromRoot pattern).toList.getLast? ≠ some '/' := fun hslash => by
    have hfolder' := Glob.isFolder_of_mem_expand (decide_eq_true hslash) ht
    rw [hfolder] at hfolder'
    cases hfolder'
  obtain ⟨before, ps, hbefore, hps, rfl⟩ :=
    Except.mapM_append_eq_ok_iff.1 (components_fromRoot_eq habsolute hlast ▸ hall)
  cases hbefore.symm.trans (Glob.mapM_parse_plain fun n => plain_of_mem_lead hplain)
  obtain ⟨q, ht⟩ := Glob.exists_of_mem_expand_plain ht
  have hps' : ∀ p ∈ ps, Glob.Names p ∧ (.folders ∈ p → p = [.folders]) := fun p hp => by
    obtain ⟨a, ha, hparse⟩ := Except.exists_of_mem_mapM hps hp
    have ha' : a ∈ Glob.components pattern.toList := components_eq_of_fromRoot hlast ▸ ha
    exact ⟨hnames a ha' p (Except.toOption_eq_some_iff.2 hparse), fun hfolders =>
      ((Glob.reads_of_parse hparse).eq_stars (Path.not_mem_splitOn ha) hfolders).2⟩
  obtain ⟨ns, halong, hns, rfl⟩ := Glob.along_of_mem_expand hps' ht hfolder
  have hne : ns ≠ [] := halong.ne_nil fun hnil => by
    obtain ⟨a, as, has⟩ := List.exists_cons_of_ne_nil
      (List.splitOn_ne_nil '/' (Glob.unrooted pattern.toList))
    rw [has] at hps
    obtain ⟨_, _, _, _, hcons⟩ := Except.mapM_cons_eq_ok_iff.1 hps
    cases hnil.symm.trans hcons
  refine ⟨ns, ⟨hne, hns, ps, hps, halong⟩, ?_⟩
  obtain ⟨-, hcomponents⟩ := components_lead habsolute pattern
  rw [Glob.Spot.path_along hns hne]
  exact Path.relativeTo?_join_ofNames hcomponents.symm hns hne

/-! ### What it excludes of that -/

namespace StandsFor

variable {ns : List String}

/-- As a whole, too, it stands for the names with slashes between them. -/
lemma reads (h : StandsFor pattern ns) : ∃ ts, Glob.Reads 0 true (Glob.unrooted pattern.toList) ts
    ∧ ts.accepts (Path.ofNames ns).text.toList = true := by
  obtain ⟨ps, hps, halong⟩ := h.along
  have hreads := Glob.reads_glue (List.splitOn_ne_nil '/' _) (fun a => Path.not_mem_splitOn) hps
  rw [List.intercalate_splitOn] at hreads
  refine ⟨Glob.glue ps, hreads, halong.accepts_glue ?_⟩
  rintro rfl
  cases halong
  exact h.ne_nil rfl

/-- It does not end with `**`, which stands for folders. -/
lemma not_stars_suffix (h : StandsFor pattern ns) :
    ¬['/', '*', '*'] <:+ Glob.unrooted pattern.toList := by
  rintro ⟨u, hu⟩
  obtain ⟨ps, hps, halong⟩ := h.along
  have hlast : ['*', '*'].splitOn '/' = [['*', '*']] := by decide
  rw [← hu, List.splitOn_append_cons_self, hlast] at hps
  obtain ⟨qs, rs, -, hrs, rfl⟩ := Except.mapM_append_eq_ok_iff.1 hps
  cases hrs
  exact halong.getLast?_ne (List.getLast?_concat ..)

end StandsFor

lemma patternAccepts_of_reads {ts : Glob.Pattern} (h : Glob.Reads 0 true pattern.toList ts)
    (text : List Char) : patternAccepts pattern text = ts.accepts text := by
  rw [patternAccepts, Glob.parse_of_reads h]

lemma unrooted_of_head (hslash : pattern.toList.head? ≠ some '/') :
    Glob.unrooted pattern.toList = pattern.toList := if_neg hslash

namespace StandsFor

variable {ns : List String}

/-- A pattern without wildcards stands for its own text. -/
lemma eq_of_plain (h : StandsFor pattern ns) (hslash : pattern.toList.head? ≠ some '/')
    (hplain : ∀ c ∈ pattern.toList, Glob.IsPlain c) :
    pattern.toList = (Path.ofNames ns).text.toList := by
  obtain ⟨ts, hreads, haccepts⟩ := h.reads
  rw [unrooted_of_head hslash] at hreads
  cases (Glob.parse_of_reads hreads).symm.trans (Glob.parse_plain hplain)
  exact (Glob.accepts_literally.1 haccepts).symm

/-- The text of such a pattern occurs in the path. -/
lemma excludes_of_plain (h : StandsFor pattern ns) (hslash : pattern.toList.head? ≠ some '/')
    (hplain : ∀ c ∈ pattern.toList, Glob.IsPlain c) :
    patternExcludes ('/' :: (Path.ofNames ns).text.toList) pattern = true := by
  have htext := h.eq_of_plain hslash hplain
  have hfragment : fragment pattern = (Path.ofNames ns).text.toList := by
    rw [fragment, Text.replaceAll_stars,
      Text.unstarred_of_not_mem fun hstar => (hplain '*' hstar).2.1 rfl, htext]
  have hroot : (Path.ofNames ns).text.toList ≠ ['/'] := fun hroot => by
    rw [htext, hroot] at hslash
    exact hslash rfl
  have hoccurs : Text.occursIn (Path.ofNames ns).text.toList
      ('/' :: (Path.ofNames ns).text.toList) = true :=
    Text.occursIn_iff.2 (List.suffix_cons '/' _).isInfix
  simp [patternExcludes, hfragment, hoccurs, hroot, Path.toList_ofNames_ne_nil h.names h.ne_nil]

lemma accepts_of_slash (h : StandsFor pattern ns) (hslash : pattern.toList.head? = some '/') :
    patternAccepts pattern ('/' :: (Path.ofNames ns).text.toList) = true := by
  obtain ⟨ts, hreads, haccepts⟩ := h.reads
  obtain ⟨r, hr⟩ := List.head?_eq_some_iff.1 hslash
  rw [hr] at hreads
  have hwhole : Glob.Reads 0 true pattern.toList (.char '/' :: ts) := by
    rw [hr]
    exact .char (by decide) hreads
  rw [patternAccepts_of_reads hwhole]
  simpa [Glob.Pattern.accepts, Glob.Token.admits] using haccepts

lemma accepts_of_star (h : StandsFor pattern ns) (hslash : pattern.toList.head? ≠ some '/')
    (hstar : (pattern.toList.dropWhile (· == '?')).head? = some '*') :
    patternAccepts pattern ('/' :: (Path.ofNames ns).text.toList) = true := by
  obtain ⟨ts, hreads, haccepts⟩ := h.reads
  rw [unrooted_of_head hslash] at hreads
  rw [patternAccepts_of_reads hreads]
  exact hreads.accepts_cons hstar (fun _ => rfl) haccepts

/-- **A pattern that takes the slash excludes what it includes.** -/
theorem excludes (h : StandsFor pattern ns) (htakes : TakesSlash pattern) :
    patternExcludes ('/' :: (Path.ofNames ns).text.toList) pattern = true := by
  by_cases hslash : pattern.toList.head? = some '/'
  · rw [patternExcludes, h.accepts_of_slash hslash, Bool.true_or]
  · rcases htakes with hplain | hslash' | hstar
    · exact h.excludes_of_plain hslash hplain
    · exact absurd hslash' hslash
    · rw [patternExcludes, h.accepts_of_star hslash hstar, Bool.true_or]

/-- The text of any other pattern is in no path without wildcards. -/
lemma not_occursIn_of_not_takesSlash (h : StandsFor pattern ns) (htakes : ¬TakesSlash pattern)
    (hplain : ∀ c ∈ (Path.ofNames ns).text.toList, Glob.IsPlain c) :
    Text.occursIn (fragment pattern) ('/' :: (Path.ofNames ns).text.toList) = false := by
  simp only [TakesSlash, not_or] at htakes
  obtain ⟨hwild, hslash, hstar⟩ := htakes
  rw [Bool.eq_false_iff, ne_eq, Text.occursIn_iff, fragment, Text.replaceAll_stars]
  intro hpart
  have hkept {c : Char} (hc : ¬Glob.IsPlain c) : c ∉ Text.unstarred pattern.toList := fun hmem => by
    rcases List.mem_cons.1 (hpart.subset hmem) with rfl | hmem
    · exact hc (by decide)
    · exact hc (hplain c hmem)
  have hany : '?' ∉ pattern.toList := fun hmem =>
    hkept (by decide) (Text.mem_unstarred (by decide) hmem)
  have hset : '[' ∉ pattern.toList := fun hmem =>
    hkept (by decide) (Text.mem_unstarred (by decide) hmem)
  have hmem : '*' ∈ pattern.toList := by
    by_contra hnone
    refine hwild fun c hc => ⟨?_, ?_, ?_⟩
    · rintro rfl
      exact hany hc
    · rintro rfl
      exact hnone hc
    · rintro rfl
      exact hset hc
  have hstart : pattern.toList.head? ≠ some '*' := fun hhead => hstar (by
    obtain ⟨r, hr⟩ := List.head?_eq_some_iff.1 hhead
    rw [hr]
    rfl)
  obtain ⟨ts, hreads, -⟩ := h.reads
  have hend := h.not_stars_suffix
  rw [unrooted_of_head hslash] at hreads hend
  obtain hmem | hslashes := hreads.star_or_slashes hset (fun _ => hstart) hend hmem
  · exact hkept (by decide) hmem
  · exact Path.not_slashes_ofNames h.names h.ne_nil (hslashes.trans hpart)

/-- So only what it stands for is excluded. -/
lemma excludes_eq_accepts (h : StandsFor pattern ns) (htakes : ¬TakesSlash pattern)
    (hplain : ∀ c ∈ (Path.ofNames ns).text.toList, Glob.IsPlain c) :
    patternExcludes ('/' :: (Path.ofNames ns).text.toList) pattern
      = patternAccepts pattern ('/' :: (Path.ofNames ns).text.toList) := by
  rw [patternExcludes, h.not_occursIn_of_not_takesSlash htakes hplain, Bool.and_false,
    Bool.or_false]

/-- The pattern stands for the names as they are. -/
lemma accepts (h : StandsFor pattern ns) (hslash : pattern.toList.head? ≠ some '/') :
    patternAccepts pattern (Path.ofNames ns).text.toList = true := by
  obtain ⟨ts, hreads, haccepts⟩ := h.reads
  rw [unrooted_of_head hslash] at hreads
  rwa [patternAccepts_of_reads hreads]

end StandsFor

/-- What starts with a letter of its own does not stand for a text that starts with a slash. -/
lemma not_patternAccepts_slash {c : Char} (hhead : pattern.toList.head? = some c)
    (hc : Glob.IsPlain c) (hslash : c ≠ '/') (text : List Char) :
    patternAccepts pattern ('/' :: text) = false := by
  obtain ⟨r, hr⟩ := List.head?_eq_some_iff.1 hhead
  unfold patternAccepts
  split
  · rename_i p hp
    rw [hr] at hp
    cases Glob.reads_of_parse hp with
    | anyChar => exact absurd rfl hc.1
    | sequence => exact absurd rfl hc.2.1
    | folders => exact absurd rfl hc.2.1
    | set => exact absurd rfl hc.2.2
    | char => simp [Glob.Pattern.accepts, Glob.Token.admits, hslash.symm]
  · rfl

lemma seen_of_relativeTo? {rel : Path} (h : path.relativeTo? s.root = some rel) :
    s.seen path = '/' :: rel.text.toList := by
  rw [seen, h]

/-- What a search includes with patterns that take the slash, and excludes with the same, are
folders. -/
lemma folder_of_mem_files (habsolute : s.root.isAbsolute = true)
    (hplain : ∀ c ∈ s.root.text.toList, Glob.IsPlain c)
    (hall : ∀ pattern ∈ s.includes,
      NamesOnly pattern ∧ TakesSlash pattern ∧ pattern ∈ s.excludes)
    (hfiles : s.files f = .ok paths) (hpath : path ∈ paths) :
    f.node? (path.destination []) = some .folder := by
  by_contra hfile
  obtain ⟨⟨lists, hlists, hin⟩, hkept⟩ := found_of_mem_files hfiles hpath
  obtain ⟨found, hfound, hmem⟩ := List.mem_flatten.1 hin
  obtain ⟨pattern, hpattern, hfound⟩ := Except.exists_of_mem_mapM hlists hfound
  obtain ⟨hnames, htakes, hexcludes⟩ := hall pattern hpattern
  obtain ⟨ns, hstands, hrel⟩ := exists_names_of_found habsolute hplain hnames hfound hmem hfile
  have hgone : s.excluded path = true := by
    rw [excluded, seen_of_relativeTo? hrel]
    exact List.any_eq_true.2 ⟨pattern, hexcludes, hstands.excludes htakes⟩
  rw [hkept] at hgone
  cases hgone

/-- **Patterns in both roles.** Below a root without wildcards in its path, a pattern stands for the
path from the root on of every file that it includes. It excludes the file if it takes a slash in
front of that. Any other pattern excludes a file without wildcards in its path only if it stands for
the path with the slash as well, and never if it starts with a letter of its own. A search that
excludes what it includes, with patterns that take the slash, leaves no file. -/
theorem patternExcludes_of_found (habsolute : s.root.isAbsolute = true)
    (hplain : ∀ c ∈ s.root.text.toList, Glob.IsPlain c) (f : Files) :
    (∀ pattern paths path, NamesOnly pattern → s.found f pattern = .ok paths → path ∈ paths →
      f.node? (path.destination []) ≠ some .folder →
      ∃ rel, path.relativeTo? s.root = some rel
        ∧ (pattern.toList.head? ≠ some '/' → patternAccepts pattern rel.text.toList = true)
        ∧ (TakesSlash pattern → patternExcludes (s.seen path) pattern = true)
        ∧ (¬TakesSlash pattern → (∀ c ∈ rel.text.toList, Glob.IsPlain c) →
          patternExcludes (s.seen path) pattern
              = patternAccepts pattern ('/' :: rel.text.toList)
            ∧ ∀ c ∈ pattern.toList.head?, Glob.IsPlain c →
              patternExcludes (s.seen path) pattern = false))
      ∧ ((∀ pattern ∈ s.includes, NamesOnly pattern ∧ TakesSlash pattern ∧ pattern ∈ s.excludes) →
        ∀ paths, s.files f = .ok paths → ∀ path ∈ paths,
          f.node? (path.destination []) = some .folder) := by
  refine ⟨fun pattern paths path hnames hfound hpath hfile => ?_,
    fun hall paths hfiles path => folder_of_mem_files habsolute hplain hall hfiles⟩
  obtain ⟨ns, hstands, hrel⟩ := exists_names_of_found habsolute hplain hnames hfound hpath hfile
  rw [seen_of_relativeTo? hrel]
  refine ⟨_, hrel, hstands.accepts, hstands.excludes, fun htakes hletters => ?_⟩
  have heq := hstands.excludes_eq_accepts htakes hletters
  refine ⟨heq, fun c hhead hletter => heq.trans ?_⟩
  have hslash : c ≠ '/' := by
    rintro rfl
    exact htakes (.inr (.inl hhead))
  exact not_patternAccepts_slash hhead hletter hslash _

/-- A folder with a model. -/
def oneModel : Files where
  entries := [(["r"], .folder), (["r", "ab.symbols.json"], .file "\x7b\x7d".toUTF8)]
  sorted := by decide
  named := by decide
  closed := by decide

/-- A search in the folder for what is not to be found. -/
def contrary (pattern : String) : Search where
  root := ⟨"/r"⟩
  includes := [pattern]
  excludes := [pattern]

/-- The model is excluded by a star at the start, and not by one after a letter. -/
theorem patternExcludes_of_found_star :
    (contrary "*.symbols.json").root.isAbsolute = true
      ∧ (∀ c ∈ (contrary "*.symbols.json").root.text.toList, Glob.IsPlain c)
      ∧ (∃ path, (contrary "*.symbols.json").found oneModel "*.symbols.json" = .ok [path]
        ∧ (contrary "a*.symbols.json").found oneModel "a*.symbols.json" = .ok [path]
        ∧ oneModel.node? (path.destination []) ≠ some .folder
        ∧ patternExcludes ((contrary "*.symbols.json").seen path) "*.symbols.json" = true
        ∧ patternExcludes ((contrary "a*.symbols.json").seen path) "a*.symbols.json" = false)
      ∧ ∃ paths, (contrary "*.symbols.json").files oneModel = .ok paths
        ∧ ∀ path ∈ paths, oneModel.node? (path.destination []) = some .folder := by
  have hplain : ∀ c ∈ "/r".toList, Glob.IsPlain c := by simp [Glob.IsPlain]
  obtain ⟨hfile, hsearch⟩ :=
    patternExcludes_of_found (s := contrary "*.symbols.json") rfl hplain oneModel
  obtain ⟨hfile', -⟩ :=
    patternExcludes_of_found (s := contrary "a*.symbols.json") rfl hplain oneModel
  have hfound : (contrary "*.symbols.json").found oneModel "*.symbols.json"
      = .ok [⟨"/r/ab.symbols.json"⟩] := Except.toOption_eq_some_iff.1 (by decide +kernel)
  have hfound' : (contrary "a*.symbols.json").found oneModel "a*.symbols.json"
      = .ok [⟨"/r/ab.symbols.json"⟩] := Except.toOption_eq_some_iff.1 (by decide +kernel)
  have hnode : oneModel.node? (Path.destination [] ⟨"/r/ab.symbols.json"⟩) ≠ some .folder := by
    decide +kernel
  have hnames : NamesOnly "*.symbols.json" := by decide +kernel
  have hnames' : NamesOnly "a*.symbols.json" := by decide +kernel
  have htakes : TakesSlash "*.symbols.json" := .inr (.inr (by decide +kernel))
  have htakes' : ¬TakesSlash "a*.symbols.json" := by
    rintro (hall | hslash | hstar)
    · exact (hall '*' (by decide +kernel)).2.1 rfl
    · exact absurd hslash (by decide +kernel)
    · exact absurd hstar (by decide +kernel)
  obtain ⟨-, -, -, hexcludes, -⟩ :=
    hfile "*.symbols.json" _ _ hnames hfound List.mem_cons_self hnode
  obtain ⟨rel, hrel, -, -, hkeeps⟩ :=
    hfile' "a*.symbols.json" _ _ hnames' hfound' List.mem_cons_self hnode
  have hrel' : Path.relativeTo? ⟨"/r/ab.symbols.json"⟩ ⟨"/r"⟩ = some ⟨"ab.symbols.json"⟩ := by
    decide +kernel
  cases hrel.symm.trans hrel'
  have hfiles : (contrary "*.symbols.json").files oneModel
      = .ok ([⟨"/r/ab.symbols.json"⟩].filter fun p => !(contrary "*.symbols.json").excluded p) :=
    files_of_found rfl hfound (List.pairwise_singleton _ _)
  have hletters : ∀ c ∈ "ab.symbols.json".toList, Glob.IsPlain c := by simp [Glob.IsPlain]
  exact ⟨rfl, hplain, ⟨_, hfound, hfound', hnode, hexcludes htakes,
      (hkeeps htakes' hletters).2 'a' rfl (by decide)⟩,
    _, hfiles, hsearch (by simpa [contrary] using ⟨hnames, htakes⟩) _ hfiles⟩

/-- A pattern that starts with a letter does not exclude the file that it includes. -/
theorem files_contrary_letter :
    (∀ c ∈ (contrary "a*.symbols.json").root.text.toList, Glob.IsPlain c)
      ∧ NamesOnly "a*.symbols.json"
      ∧ (contrary "a*.symbols.json").includes = (contrary "a*.symbols.json").excludes
      ∧ oneModel.node? (Path.destination [] ⟨"/r/ab.symbols.json"⟩)
        = some (.file "\x7b\x7d".toUTF8)
      ∧ (contrary "a*.symbols.json").found oneModel "a*.symbols.json"
        = .ok [⟨"/r/ab.symbols.json"⟩]
      ∧ (contrary "a*.symbols.json").excluded ⟨"/r/ab.symbols.json"⟩ = false
      ∧ (contrary "a*.symbols.json").files oneModel = .ok [⟨"/r/ab.symbols.json"⟩] := by
  have hfound : (contrary "a*.symbols.json").found oneModel "a*.symbols.json"
      = .ok [⟨"/r/ab.symbols.json"⟩] := Except.toOption_eq_some_iff.1 (by decide +kernel)
  have hkept : (contrary "a*.symbols.json").excluded ⟨"/r/ab.symbols.json"⟩ = false := by
    decide +kernel
  refine ⟨by simp [contrary, Glob.IsPlain], by decide +kernel, rfl, by decide +kernel, hfound,
    hkept, ?_⟩
  rw [files_of_found rfl hfound (List.pairwise_singleton _ _)]
  simp [hkept]

end Search
end NotNullLint
