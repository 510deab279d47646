import NotNullLint.Proofs.Analysis.Roles
import NotNullLint.Proofs.Files.Segments

/-!
What exclude patterns take away.

A pattern excludes what it stands for, and besides what its text without double stars occurs in. For
a pattern that asks for all that is in folders of some name the two come to the same: it excludes a
path exactly if one of the folders on the way from the root on has that name. The text of other
patterns may lie along a path that the pattern does not stand for, as `bin` does within `cabinet`.
-/

namespace NotNullLint

namespace Path

lemma mem_ancestors_self (p : Path) : p ∈ p.ancestors := by
  unfold ancestors
  cases p.components.length with
  | zero => exact List.mem_singleton_self p
  | succ n => exact List.mem_cons_self

end Path

namespace Text

variable {D : String} {p s r : List Char} {ns : List String}

/-- Three stretches, the outer ones empty, lie where the middle one is whole and not the last. -/
lemma fits_folder : Fits [[], D.toList, []] (p :: ns.map String.toList) ↔ D ∈ ns.dropLast := by
  induction ns generalizing p with
  | nil =>
    rw [List.map_nil, fits_cons]
    simp [Begins, not_fits_nil]
  | cons n ns ih =>
    have hbegins : Begins [D.toList, []] (n.toList :: ns.map String.toList)
        ↔ D = n ∧ Begins [[]] (ns.map String.toList) := by
      rw [← String.toList_inj]
      rfl
    rw [List.map_cons, fits_cons, hbegins, ih]
    cases ns with
    | nil => simp [Begins]
    | cons m ns => simp [Begins]

/-- Two stretches, the first one empty, lie where another piece starts with the second one. -/
lemma fits_start : Fits [[], s] (p :: ns.map String.toList) ↔ ∃ n ∈ ns, s <+: n.toList := by
  induction ns generalizing p with
  | nil =>
    rw [List.map_nil, fits_cons]
    simp [Begins, not_fits_nil]
  | cons n ns ih =>
    have hbegins : Begins [s] (n.toList :: ns.map String.toList) ↔ s <+: n.toList := Iff.rfl
    rw [List.map_cons, fits_cons, hbegins, ih, List.exists_mem_cons_iff]
    simp

/-- Two stretches, the second one empty, lie where a piece ends with the first one and is not the
last. -/
lemma fits_end : Fits [s, []] (ns.map String.toList) ↔ ∃ n ∈ ns.dropLast, s <:+ n.toList := by
  induction ns with
  | nil => simp [not_fits_nil]
  | cons n ns ih =>
    rw [List.map_cons, fits_cons, ih]
    cases ns with
    | nil => simp [Begins]
    | cons m ns => simp [Begins]

lemma unstarred_append (hs : '*' ∉ s) (r : List Char) : unstarred (s ++ r) = s ++ unstarred r := by
  induction s with
  | nil => rfl
  | cons c s ih =>
    rw [List.mem_cons, not_or] at hs
    rw [List.cons_append, unstarred_cons (Ne.symm hs.1), ih hs.2, List.cons_append]

end Text

namespace Glob

variable {text s : List Char} {p : Pattern}

lemma star_not_mem (h : ∀ c ∈ text, IsPlain c) : '*' ∉ text := fun hstar => (h '*' hstar).2.1 rfl

/-- What starts with a text stands for that text and what the rest stands for. -/
lemma accepts_literally_append :
    Pattern.accepts (literally text ++ p) s = true ↔ ∃ r, s = text ++ r ∧ p.accepts r = true := by
  induction text generalizing s with
  | nil => simp [literally]
  | cons c text ih =>
    have ih' {r : List Char} := ih (s := r)
    unfold literally at ih'
    cases s with
    | nil => simp [literally, Pattern.accepts]
    | cons d s =>
      simp only [literally, List.map_cons, List.cons_append, Pattern.accepts, Token.admits,
        Bool.and_eq_true, beq_iff_eq, ih', List.cons.injEq]
      constructor
      · rintro ⟨rfl, r, rfl, hr⟩
        exact ⟨r, ⟨rfl, rfl⟩, hr⟩
      · rintro ⟨r, ⟨rfl, rfl⟩, hr⟩
        exact ⟨rfl, r, rfl, hr⟩

/-- A text and a slash, and then anything. -/
lemma accepts_literally_folders :
    Pattern.accepts (literally text ++ [.char '/', .folders]) s = true ↔ text ++ ['/'] <+: s := by
  rw [accepts_literally_append]
  constructor
  · rintro ⟨r, rfl, hr⟩
    cases r with
    | nil => simp [Pattern.accepts] at hr
    | cons c r =>
      have hc : c = '/' := by simpa [Pattern.accepts, Token.admits] using hr
      exact ⟨r, by simp [hc]⟩
  · rintro ⟨r, rfl⟩
    exact ⟨'/' :: r, by simp, by simp [Pattern.accepts, Token.admits]⟩

end Glob

namespace Search

variable {s : Search} {root : Path} {ns cs : List String} {pattern D : String} {text : List Char}

/-! ### All that is in folders of one name -/

/-- The pattern for all that is in folders of that name. -/
def inside (D : String) : String := "**/" ++ D ++ "/**"

lemma toList_inside (D : String) :
    (inside D).toList = '*' :: '*' :: '/' :: (D.toList ++ ['/', '*', '*']) := by
  simp [inside]

lemma parse_inside (hD : ∀ c ∈ D.toList, Glob.IsPlain c) :
    Glob.parse (inside D).toList
      = .ok (.folders :: (Glob.literally D.toList ++ [.char '/', .folders])) := by
  have hrest : Glob.tokens 0 0 true (D.toList ++ ['/', '*', '*'])
      = .ok (Glob.literally D.toList ++ [.char '/', .folders]) :=
    Glob.tokens_append_slash hD (fun _ _ => rfl) 0 true
  have hreads := (Glob.reads_of_tokens hrest).stars_slash
  have hcons : Glob.cons .folders (Glob.literally D.toList ++ [.char '/', .folders])
      = .folders :: (Glob.literally D.toList ++ [.char '/', .folders]) := by
    cases D.toList <;> rfl
  rw [hcons] at hreads
  rw [toList_inside]
  exact Glob.parse_of_reads hreads

/-- Wherever the name stands between slashes, the pattern stands for the whole. -/
lemma patternAccepts_inside (hD : ∀ c ∈ D.toList, Glob.IsPlain c) :
    patternAccepts (inside D) text = true
      ↔ D.toList ++ ['/'] <+: text ∨ '/' :: (D.toList ++ ['/']) <:+: text := by
  simp only [patternAccepts, parse_inside hD]
  rw [Glob.accepts_folders]
  constructor
  · rintro (hnil | hwhole | ⟨r, hr, haccepts⟩)
    · simp at hnil
    · exact .inl (Glob.accepts_literally_folders.1 hwhole)
    · have hstart := Glob.accepts_literally_folders.1 haccepts
      exact .inr ((List.cons_prefix_cons.2 ⟨rfl, hstart⟩).isInfix.trans hr.isInfix)
  · rintro (hstart | hin)
    · exact .inr (.inl (Glob.accepts_literally_folders.2 hstart))
    · obtain ⟨t, hstart, hend⟩ := List.infix_iff_prefix_suffix.1 hin
      obtain ⟨u, rfl⟩ := hstart
      refine .inr (.inr ⟨D.toList ++ ['/'] ++ u, hend, ?_⟩)
      exact Glob.accepts_literally_folders.2 (List.prefix_append _ u)

lemma fragment_inside (hD : ∀ c ∈ D.toList, Glob.IsPlain c) :
    fragment (inside D) = '/' :: (D.toList ++ ['/']) := by
  rw [fragment, Text.replaceAll_stars, toList_inside, Text.unstarred,
    Text.unstarred_cons (by decide), Text.unstarred_append (Glob.star_not_mem hD)]
  rfl

lemma patternExcludes_iff : patternExcludes text pattern = true
    ↔ patternAccepts pattern text = true
      ∨ (fragment pattern ≠ [] ∧ fragment pattern ≠ ['/']) ∧ fragment pattern <:+: text := by
  simp only [patternExcludes, Bool.or_eq_true, Bool.and_eq_true, bne_iff_ne, Text.occursIn_iff]

/-- Looking for its text adds nothing to such a pattern. -/
lemma patternExcludes_inside (hD : ∀ c ∈ D.toList, Glob.IsPlain c) :
    patternExcludes text (inside D) = true ↔ patternAccepts (inside D) text = true := by
  rw [patternExcludes_iff, fragment_inside hD]
  constructor
  · rintro (haccepts | ⟨-, hin⟩)
    · exact haccepts
    · exact (patternAccepts_inside hD).2 (.inr hin)
  · exact .inl

lemma splitOn_append_slash (h : '/' ∉ text) : (text ++ ['/']).splitOn '/' = [text, []] := by
  rw [List.splitOn_append_cons_self, List.splitOn_nil, List.splitOn_eq_singleton h]
  rfl

/-- **Folders are excluded by their names.** -/
theorem patternExcludes_inside_iff (hns : ∀ n ∈ ns, Path.IsSegment n) (hne : ns ≠ [])
    (hsegment : Path.IsSegment D) (hD : ∀ c ∈ D.toList, Glob.IsPlain c) :
    patternExcludes ('/' :: (Path.ofNames ns).text.toList) (inside D) = true
      ↔ D ∈ ns.dropLast := by
  obtain ⟨hempty, -, hslash⟩ := hsegment
  have hstart : ¬D.toList ++ ['/'] <+: '/' :: (Path.ofNames ns).text.toList := by
    obtain ⟨c, d, hcd⟩ := List.exists_cons_of_ne_nil (mt String.toList_eq_nil_iff.1 hempty)
    rw [hcd, List.cons_append, List.cons_prefix_cons]
    rintro ⟨rfl, -⟩
    exact hslash (hcd ▸ List.mem_cons_self)
  have hparts : ('/' :: (D.toList ++ ['/'])).splitOn '/' = [[], D.toList, []] := by
    rw [Path.splitOn_slash_cons, splitOn_append_slash hslash]
  rw [patternExcludes_inside hD, patternAccepts_inside hD, or_iff_right hstart,
    Path.infix_slash_iff, Path.pieces_ofNames_segments hns hne, hparts, Text.fits_folder]

/-- **Folders are excluded by their names, exactly.** Below the root, in whatever spelling, the
pattern for all that is in folders of some name excludes a path if one of the folders on the way has
that name, and no other path. That holds for each such pattern among others, for a list of them, and
so for the default patterns. -/
theorem excluded_join_ofNames (hroot : s.root.components = root.components)
    (hcs : ∀ c ∈ cs, Path.IsSegment c) (hne : cs ≠ []) :
    (∀ D, Path.IsSegment D → (∀ c ∈ D.toList, Glob.IsPlain c) →
      (patternExcludes (s.seen (root.join (.ofNames cs))) (inside D) = true ↔ D ∈ cs.dropLast))
    ∧ (∀ Ds : List String, (∀ D ∈ Ds, Path.IsSegment D ∧ ∀ c ∈ D.toList, Glob.IsPlain c) →
      s.excludes = Ds.map inside →
      (s.excluded (root.join (.ofNames cs)) = true ↔ ∃ D ∈ Ds, D ∈ cs.dropLast))
    ∧ (s.excludes = Analyzer.defaultExcludes →
      (s.excluded (root.join (.ofNames cs)) = true
        ↔ "target" ∈ cs.dropLast ∨ "bin" ∈ cs.dropLast)) := by
  have hpieces : ∀ c ∈ (Path.ofNames cs).pieces, Path.IsSegment c := by
    rwa [Path.pieces_ofNames_segments hcs hne]
  have hseen := seen_of_relativeTo? (Path.relativeTo?_join hroot hpieces)
  have hone : ∀ D, Path.IsSegment D → (∀ c ∈ D.toList, Glob.IsPlain c) →
      (patternExcludes (s.seen (root.join (.ofNames cs))) (inside D) = true
        ↔ D ∈ cs.dropLast) := by
    intro D hsegment hD
    rw [hseen]
    exact patternExcludes_inside_iff hcs hne hsegment hD
  have hlist : ∀ Ds : List String, (∀ D ∈ Ds, Path.IsSegment D ∧ ∀ c ∈ D.toList, Glob.IsPlain c) →
      s.excludes = Ds.map inside →
      (s.excluded (root.join (.ofNames cs)) = true ↔ ∃ D ∈ Ds, D ∈ cs.dropLast) := by
    intro Ds hDs hexcludes
    rw [excluded, hexcludes, List.any_map, List.any_eq_true]
    exact exists_congr fun D => and_congr_right fun hD => hone D (hDs D hD).1 (hDs D hD).2
  refine ⟨hone, hlist, fun hexcludes => ?_⟩
  have hdefaults : ∀ D ∈ ["target", "bin"],
      Path.IsSegment D ∧ ∀ c ∈ D.toList, Glob.IsPlain c := by
    simp [Path.IsSegment, Glob.IsPlain]
  rw [hlist ["target", "bin"] hdefaults hexcludes]
  simp

/-- Below a root in a folder `bin` with the default patterns: what a folder `target` holds is
excluded, and neither a file of that name nor what a folder `targets` holds. -/
theorem excluded_join_ofNames_target :
    let s : Search := ⟨⟨"/bin/r"⟩, ["**/*.symbols.json"], Analyzer.defaultExcludes⟩
    s.excluded (Path.join ⟨"/bin//r/"⟩ (.ofNames ["a", "target", "m.symbols.json"])) = true
      ∧ s.excluded (Path.join ⟨"/bin//r/"⟩ (.ofNames ["targets", "target"])) = false := by
  intro s
  have hroot : s.root.components = (Path.mk "/bin//r/").components := by decide +kernel
  have hnames : ∀ c ∈ ["a", "target", "m.symbols.json"], Path.IsSegment c := by decide +kernel
  have hnames' : ∀ c ∈ ["targets", "target"], Path.IsSegment c := by decide +kernel
  obtain ⟨-, -, hin⟩ := excluded_join_ofNames hroot hnames (List.cons_ne_nil _ _)
  obtain ⟨-, -, hout⟩ := excluded_join_ofNames hroot hnames' (List.cons_ne_nil _ _)
  refine ⟨(hin rfl).2 (.inl (by decide)), ?_⟩
  rw [Bool.eq_false_iff, Ne, hout rfl]
  decide

/-! ### Text that lies along a path -/

/-- The text of the pattern may be found where the pattern stands for nothing: it is more than a
slash, and the pattern does not ask for all that is in folders of one name. -/
structure Loose (pattern : String) : Prop where
  ne_nil : fragment pattern ≠ []
  ne_slash : fragment pattern ≠ ['/']
  ne_inside : ∀ D : String, (∀ c ∈ D.toList, Glob.IsPlain c) → pattern ≠ inside D

/-- The text of a loose pattern occurs in the path: inside of one piece, or from the end of one over
whole ones to the start of another. -/
def LiesAlong (pattern : String) (rel : Path) : Prop :=
  Loose pattern
    ∧ Text.Fits ((fragment pattern).splitOn '/') ([] :: rel.pieces.map String.toList)

/-- The pattern stands for the path or for one of the folders that it is in, each with or without a
slash in front. -/
def Reaches (pattern : String) (rel : Path) : Prop :=
  ∃ q ∈ rel.ancestors, patternAccepts pattern q.text.toList = true
    ∨ patternAccepts pattern ('/' :: q.text.toList) = true

instance (pattern : String) (rel : Path) : Decidable (Reaches pattern rel) :=
  inferInstanceAs (Decidable (∃ q ∈ rel.ancestors, _ ∨ _))

variable {rel p : Path} {L : String}

lemma patternExcludes_iff_liesAlong : patternExcludes ('/' :: rel.text.toList) pattern = true
    ↔ patternAccepts pattern ('/' :: rel.text.toList) = true ∨ LiesAlong pattern rel := by
  by_cases hinside : ∃ D : String, (∀ c ∈ D.toList, Glob.IsPlain c) ∧ pattern = inside D
  · obtain ⟨D, hD, rfl⟩ := hinside
    have hloose : ¬LiesAlong (inside D) rel := fun h => h.1.ne_inside D hD rfl
    rw [patternExcludes_inside hD, or_iff_left hloose]
  · rw [patternExcludes_iff, Path.infix_slash_iff]
    refine or_congr_right (and_congr_left fun _ => ⟨fun h => ?_, fun h => ⟨h.ne_nil, h.ne_slash⟩⟩)
    exact ⟨h.1, h.2, fun D hD heq => hinside ⟨D, hD, heq⟩⟩

lemma reaches_of_accepts (h : patternAccepts pattern ('/' :: rel.text.toList) = true) :
    Reaches pattern rel :=
  ⟨rel, Path.mem_ancestors_self rel, .inr h⟩

/-- Wildcards that are left in the text of a pattern are looked for as they are. -/
lemma LiesAlong.plain (h : LiesAlong pattern rel) (hrel : ∀ c ∈ rel.text.toList, Glob.IsPlain c) :
    ∀ c ∈ fragment pattern, Glob.IsPlain c := by
  intro c hc
  rcases List.mem_cons.1 (((Path.infix_slash_iff rel _).2 h.2).subset hc) with rfl | hc
  · decide
  · exact hrel c hc

section

variable (hempty : L ≠ "") (hslash : '/' ∉ L.toList) (hplain : ∀ c ∈ L.toList, Glob.IsPlain c)

include hempty hslash hplain

lemma liesAlong_name : LiesAlong L rel ↔ ∃ n ∈ rel.pieces, L.toList <:+: n.toList := by
  have hnil : L.toList ≠ [] := mt String.toList_eq_nil_iff.1 hempty
  have hstar := Glob.star_not_mem hplain
  have hfragment : fragment L = L.toList := by
    rw [fragment, Text.replaceAll_stars, Text.unstarred_of_not_mem hstar]
  have hloose : Loose L := by
    refine ⟨by rwa [hfragment], fun h => ?_, fun D _ h => ?_⟩
    · rw [hfragment] at h
      exact hslash (h ▸ List.mem_cons_self)
    · rw [h, toList_inside] at hstar
      exact hstar List.mem_cons_self
  rw [LiesAlong, and_iff_right hloose, hfragment, List.splitOn_eq_singleton hslash,
    Text.fits_singleton, List.exists_mem_cons_iff]
  simp [hnil]

lemma liesAlong_start :
    LiesAlong ("**/" ++ L) rel ↔ ∃ n ∈ rel.pieces, L.toList <+: n.toList := by
  have hstar := Glob.star_not_mem hplain
  have htext : ("**/" ++ L).toList = '*' :: '*' :: '/' :: L.toList := by simp
  have hfragment : fragment ("**/" ++ L) = '/' :: L.toList := by
    rw [fragment, Text.replaceAll_stars, htext, Text.unstarred, Text.unstarred_cons (by decide),
      Text.unstarred_of_not_mem hstar]
  have hloose : Loose ("**/" ++ L) := by
    refine ⟨by simp [hfragment], by simpa [hfragment] using hempty, fun D _ h => ?_⟩
    have hL : L.toList = D.toList ++ ['/', '*', '*'] := by
      have h' := congrArg String.toList h
      rw [htext, toList_inside] at h'
      simpa using h'
    rw [hL] at hstar
    exact hstar (by simp)
  have hparts : ('/' :: L.toList).splitOn '/' = [[], L.toList] := by
    rw [Path.splitOn_slash_cons, List.splitOn_eq_singleton hslash]
  rw [LiesAlong, and_iff_right hloose, hfragment, hparts, Text.fits_start]

lemma liesAlong_end :
    LiesAlong (L ++ "/**") rel ↔ ∃ n ∈ rel.pieces.dropLast, L.toList <:+ n.toList := by
  have hnil : L.toList ≠ [] := mt String.toList_eq_nil_iff.1 hempty
  have hstar := Glob.star_not_mem hplain
  have htext : (L ++ "/**").toList = L.toList ++ ['/', '*', '*'] := by simp
  have hfragment : fragment (L ++ "/**") = L.toList ++ ['/'] := by
    rw [fragment, Text.replaceAll_stars, htext, Text.unstarred_append hstar]
    rfl
  have hloose : Loose (L ++ "/**") := by
    refine ⟨by simp [hfragment], by simpa [hfragment] using hempty, fun D _ h => ?_⟩
    obtain ⟨c, r, hcr⟩ := List.exists_cons_of_ne_nil hnil
    have h' := congrArg String.toList h
    rw [htext, toList_inside, hcr, List.cons_append] at h'
    rw [hcr, (List.cons.inj h').1] at hstar
    exact hstar List.mem_cons_self
  rw [LiesAlong, and_iff_right hloose, hfragment, splitOn_append_slash hslash, Text.fits_cons,
    Text.fits_end]
  simp [hnil]

end

/-- **What exclude patterns take away.** A path below the root is excluded exactly if a pattern
stands for it, with a slash in front, or lies along it. So if no pattern lies along the path, it is
excluded only if a pattern stands for it or for a folder that it is in; and none does that has a
wildcard left in its text, if the path has none. What is only a name lies along all paths with a
piece that the name is part of; with double stars on one side, that the piece starts or ends with. -/
theorem excluded_iff_liesAlong (hrel : p.relativeTo? s.root = some rel) :
    (s.excluded p = true ↔ ∃ pattern ∈ s.excludes,
      patternAccepts pattern ('/' :: rel.text.toList) = true ∨ LiesAlong pattern rel)
    ∧ ((∀ pattern ∈ s.excludes, ¬LiesAlong pattern rel) → s.excluded p = true →
      ∃ pattern ∈ s.excludes, Reaches pattern rel)
    ∧ ((∀ c ∈ rel.text.toList, Glob.IsPlain c) →
      ∀ pattern, LiesAlong pattern rel → ∀ c ∈ fragment pattern, Glob.IsPlain c)
    ∧ ∀ L : String, L ≠ "" → '/' ∉ L.toList → (∀ c ∈ L.toList, Glob.IsPlain c) →
      (LiesAlong L rel ↔ ∃ n ∈ rel.pieces, L.toList <:+: n.toList)
      ∧ (LiesAlong ("**/" ++ L) rel ↔ ∃ n ∈ rel.pieces, L.toList <+: n.toList)
      ∧ (LiesAlong (L ++ "/**") rel ↔ ∃ n ∈ rel.pieces.dropLast, L.toList <:+ n.toList) := by
  have hiff : s.excluded p = true ↔ ∃ pattern ∈ s.excludes,
      patternAccepts pattern ('/' :: rel.text.toList) = true ∨ LiesAlong pattern rel := by
    rw [excluded, seen_of_relativeTo? hrel, List.any_eq_true]
    exact exists_congr fun pattern => and_congr_right fun _ => patternExcludes_iff_liesAlong
  refine ⟨hiff, fun hnone hexcluded => ?_, fun hplain pattern h => h.plain hplain,
    fun L hempty hslash hplain => ?_⟩
  · obtain ⟨pattern, hpattern, haccepts | hlies⟩ := hiff.1 hexcluded
    · exact ⟨pattern, hpattern, reaches_of_accepts haccepts⟩
    · exact absurd hlies (hnone pattern hpattern)
  · exact ⟨liesAlong_name hempty hslash hplain, liesAlong_start hempty hslash hplain,
      liesAlong_end hempty hslash hplain⟩

/-- Patterns for what is called `bin`, and for what has that in its name. -/
def withoutBin (pattern : String) : Search where
  root := ⟨"/r"⟩
  includes := ["**/*.symbols.json"]
  excludes := [pattern]

/-- After double stars, `bin` excludes what starts with it, and not what has it further on. -/
theorem excluded_iff_liesAlong_binary :
    Path.relativeTo? ⟨"/r/binary/m.symbols.json"⟩ (withoutBin "**/bin").root
        = some ⟨"binary/m.symbols.json"⟩
      ∧ (withoutBin "**/bin").excluded ⟨"/r/binary/m.symbols.json"⟩ = true
      ∧ Path.relativeTo? ⟨"/r/cabinet/m.symbols.json"⟩ (withoutBin "**/bin").root
        = some ⟨"cabinet/m.symbols.json"⟩
      ∧ (withoutBin "**/bin").excluded ⟨"/r/cabinet/m.symbols.json"⟩ = false := by
  have hbinary : Path.relativeTo? ⟨"/r/binary/m.symbols.json"⟩ (withoutBin "**/bin").root
      = some ⟨"binary/m.symbols.json"⟩ := by
    decide +kernel
  have hcabinet : Path.relativeTo? ⟨"/r/cabinet/m.symbols.json"⟩ (withoutBin "**/bin").root
      = some ⟨"cabinet/m.symbols.json"⟩ := by
    decide +kernel
  obtain ⟨hin, -, -, hstarts⟩ := excluded_iff_liesAlong hbinary
  obtain ⟨hout, -, -, hfolded⟩ := excluded_iff_liesAlong hcabinet
  have hbin : ∀ c ∈ "bin".toList, Glob.IsPlain c := by simp [Glob.IsPlain]
  have hlies : LiesAlong "**/bin" ⟨"binary/m.symbols.json"⟩ :=
    (hstarts "bin" (by decide) (by decide) hbin).2.1.2 (by decide +kernel)
  have hapart : ¬LiesAlong "**/bin" ⟨"cabinet/m.symbols.json"⟩ := by
    intro h
    exact absurd ((hfolded "bin" (by decide) (by decide) hbin).2.1.1 h) (by decide +kernel)
  refine ⟨hbinary, hin.2 ⟨"**/bin", List.mem_singleton_self _, .inr hlies⟩, hcabinet, ?_⟩
  rw [Bool.eq_false_iff, Ne, hout]
  rintro ⟨pattern, hpattern, haccepts | h⟩
  · cases List.mem_singleton.1 hpattern
    exact absurd haccepts (by decide +kernel)
  · cases List.mem_singleton.1 hpattern
    exact hapart h

/-- A folder with a model. -/
def cabinet : Files where
  entries := [(["r"], .folder), (["r", "cabinet.symbols.json"], .file "\x7b\x7d".toUTF8)]
  sorted := by decide
  named := by decide
  closed := by decide

/-- A model is excluded by a pattern that stands neither for it nor for the folder that it is in. -/
theorem files_cabinet :
    (withoutBin "bin").found cabinet "**/*.symbols.json" = .ok [⟨"/r/cabinet.symbols.json"⟩]
      ∧ Path.relativeTo? ⟨"/r/cabinet.symbols.json"⟩ (withoutBin "bin").root
        = some ⟨"cabinet.symbols.json"⟩
      ∧ (∀ pattern ∈ (withoutBin "bin").excludes, ¬Reaches pattern ⟨"cabinet.symbols.json"⟩)
      ∧ (withoutBin "bin").excluded ⟨"/r/cabinet.symbols.json"⟩ = true
      ∧ (withoutBin "bin").files cabinet = .ok [] := by
  have hfound : (withoutBin "bin").found cabinet "**/*.symbols.json"
      = .ok [⟨"/r/cabinet.symbols.json"⟩] := Except.toOption_eq_some_iff.1 (by decide +kernel)
  have hgone : (withoutBin "bin").excluded ⟨"/r/cabinet.symbols.json"⟩ = true := by
    decide +kernel
  refine ⟨hfound, by decide +kernel, by decide +kernel, hgone, ?_⟩
  rw [files_of_found rfl hfound (List.pairwise_singleton _ _)]
  simp [hgone]

end Search
end NotNullLint
