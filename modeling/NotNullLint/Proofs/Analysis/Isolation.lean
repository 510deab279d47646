import NotNullLint.Proofs.Files.Without
import NotNullLint.Proofs.NotNull.Packaging
import NotNullLint.Proofs.Report.Selection

/-!
One file that holds no model.

A lenient run treats a text that is no model as if its file were not there: the other files are
discovered as before and checked as before. Bytes that are no text end the run instead, and nothing
of what the other files hold is reported.
-/

namespace NotNullLint

/-! ### Discovery without a file -/

namespace Search

variable {s : Search} {f : Files} {q : Place} {h : ¬f.HasFolder q}

/-- The path leads to another place. -/
def avoids (q : Place) (p : Path) : Bool := p.destination [] != q

lemma found_without (pattern : String) :
    s.found (f.without q h) pattern = (s.found f pattern).map (List.filter (avoids q)) := by
  rw [found, found, Glob.find_without]
  cases hfind : Glob.find f (s.fromRoot pattern) with
  | error e => rfl
  | ok ts =>
    simp only [Except.map, List.filter_map]
    refine congrArg Except.ok (congrArg _ (List.filter_congr fun t ht => ?_))
    rw [Function.comp_apply, avoids, Glob.Spot.off, (Glob.sound_of_mem_find hfind ht).leads]

lemma exists_spot_of_mem_found {patterns : List String} {lists : List (List Path)} {p : Path}
    (hfound : patterns.mapM (s.found f) = .ok lists) (hp : p ∈ lists.flatten) :
    ∃ pattern ts, Glob.find f (s.fromRoot pattern) = .ok ts ∧ ∃ t ∈ ts, t.path = p := by
  obtain ⟨ps, hps, hp⟩ := List.mem_flatten.1 hp
  obtain ⟨pattern, -, hpattern⟩ := Except.exists_of_mem_mapM hfound hps
  obtain ⟨ts, hts, rfl⟩ := Except.map_eq_ok_iff.1 hpattern
  exact ⟨pattern, ts, hts, List.mem_map.1 hp⟩

lemma isAbsolute_of_mem_found {patterns : List String} {lists : List (List Path)} {p : Path}
    (hfound : patterns.mapM (s.found f) = .ok lists) (hp : p ∈ lists.flatten) :
    p.isAbsolute = true := by
  obtain ⟨pattern, ts, hts, t, ht, rfl⟩ := exists_spot_of_mem_found hfound hp
  exact (Glob.sound_of_mem_find hts ht).absolute

/-- Discovered paths start at the root. -/
lemma isAbsolute_of_mem_files {ps : List Path} {p : Path} (hfiles : s.files f = .ok ps)
    (hp : p ∈ ps) : p.isAbsolute = true := by
  obtain ⟨⟨lists, hlists, hp⟩, -⟩ := found_of_mem_files hfiles hp
  exact isAbsolute_of_mem_found hlists hp

/-- Of paths in order, those that name what the first one names come right after it. -/
lemma dedup_cons {p : Path} {ps : List Path}
    (horder : (p :: ps).Pairwise fun p q => (compare p q).isLE = true) :
    dedup (p :: ps) = p :: (dedup ps).filter fun q => !p.same q := by
  obtain ⟨hp, hps⟩ := List.pairwise_cons.1 horder
  have hstrict := pairwise_dedup hps
  have hsub := dedup_subset ps
  rw [dedup]
  cases hd : dedup ps with
  | nil => rfl
  | cons q qs =>
    rw [hd] at hstrict hsub
    obtain ⟨hq, -⟩ := List.pairwise_cons.1 hstrict
    have hrest : qs.filter (fun r => !p.same r) = qs := by
      refine List.filter_eq_self.2 fun r hr => ?_
      rw [Bool.not_eq_true', Bool.eq_false_iff]
      intro hsame
      have htie := Path.compare_eq_iff.2 (Path.same_iff.1 hsame)
      have hle := hp q (hsub List.mem_cons_self)
      have hswap : compare r q = (compare q r).swap := Std.OrientedCmp.eq_swap
      rw [Std.TransCmp.congr_left htie, hswap, hq r hr] at hle
      cases hle
    cases hsame : p.same q <;> simp [hsame, hrest]

/-- Paths may be taken out before, as long as this does not tell paths that name the same apart. -/
lemma dedup_filter {k : Path → Bool} {ps : List Path}
    (horder : ps.Pairwise fun p q => (compare p q).isLE = true)
    (hk : ∀ p ∈ ps, ∀ q ∈ ps, p.same q = true → k p = k q) :
    dedup (ps.filter k) = (dedup ps).filter k := by
  induction ps with
  | nil => rfl
  | cons p ps ih =>
    have hrest := ih (List.pairwise_cons.1 horder).2 fun q hq r hr =>
      hk q (List.mem_cons_of_mem p hq) r (List.mem_cons_of_mem p hr)
    rw [dedup_cons horder]
    cases hkp : k p with
    | true =>
      have hsub : (p :: ps.filter k).Pairwise fun p q => (compare p q).isLE = true :=
        horder.sublist (List.filter_sublist.cons_cons p)
      rw [List.filter_cons_of_pos hkp, List.filter_cons_of_pos hkp, dedup_cons hsub, hrest,
        List.filter_comm]
    | false =>
      have hkp' : ¬k p = true := by simp [hkp]
      rw [List.filter_cons_of_neg hkp', List.filter_cons_of_neg hkp', hrest, List.filter_filter]
      refine List.filter_congr fun q hq => ?_
      cases hsame : p.same q with
      | false => simp
      | true =>
        have hkq := hk p List.mem_cons_self q (List.mem_cons_of_mem p (dedup_subset ps hq)) hsame
        simp [← hkq, hkp]

lemma arrange_filter {k : Path → Bool} {ps : List Path}
    (hk : ∀ p ∈ ps, ∀ q ∈ ps, p.same q = true → k p = k q) :
    arrange (ps.filter k) = (arrange ps).filter k := by
  have htrans (p q r : Path) : (compare p q).isLE = true → (compare q r).isLE = true →
      (compare p r).isLE = true := Std.TransCmp.isLE_trans
  have hmem {p : Path} (hp : p ∈ ps.mergeSort fun p q => (compare p q).isLE) : p ∈ ps :=
    List.mem_mergeSort.1 hp
  rw [arrange, arrange, ← filter_mergeSort htrans isLE_total, dedup_filter]
  · exact List.pairwise_mergeSort htrans isLE_total _
  · exact fun p hp q hq => hk p (hmem hp) q (hmem hq)

/-- **Without the file, the same is discovered**, less the paths that lead to it. -/
theorem files_without : s.files (f.without q h) = (s.files f).map (List.filter (avoids q)) := by
  have hfound : s.found (f.without q h)
      = fun pattern => (s.found f pattern).map (List.filter (avoids q)) := funext found_without
  simp only [files, hfound, Except.mapM_map]
  cases hlists : s.includes.mapM (s.found f) with
  | error e => rfl
  | ok lists =>
    refine congrArg Except.ok ?_
    rw [← List.filter_flatten, List.filter_comm]
    refine arrange_filter fun p hp r hr hsame => ?_
    rw [avoids, avoids, Path.destination_of_components
      (isAbsolute_of_mem_found hlists (List.mem_of_mem_filter hp))
      (isAbsolute_of_mem_found hlists (List.mem_of_mem_filter hr)) (Path.same_iff.1 hsame)]

end Search

/-! ### Files that a run gets past -/

namespace Analyzer

variable {a : Analyzer} {load : Path → Except LoadError Model}

/-- The file does not end a run. -/
def Passes (a : Analyzer) (load : Path → Except LoadError Model) (p : Path) : Prop :=
  ∀ e, load p = .error e → a.failure? e = none

lemma ending_checkAll_cons_of_passes {p : Path} {e : LoadError} (hload : load p = .error e)
    (hpass : a.failure? e = none) (sum : Report) (ps : List Path) :
    ending (a.checkAll load false sum (p :: ps)) = ending (a.checkAll load false sum ps) := by
  rw [ending_checkAll_cons_error hload, hpass]

/-- A run that gets past all files ends with a report. -/
lemma exists_result_checkAll {ps : List Path} (hpass : ∀ p ∈ ps, a.Passes load p)
    (cancelled : Bool) (sum : Report) :
    ∃ r, (a.checkAll load cancelled sum ps).result = .ok r := by
  change ∃ r, (ending (a.checkAll load cancelled sum ps)).1 = .ok r
  induction ps generalizing cancelled sum with
  | nil => exact ⟨sum, rfl⟩
  | cons p ps ih =>
    have hrest := ih fun q hq => hpass q (List.mem_cons_of_mem p hq)
    cases cancelled with
    | true => exact ⟨sum, by rw [ending_checkAll_cancelled]⟩
    | false =>
      cases hload : load p with
      | ok m =>
        rw [ending_checkAll_cons_ok hload]
        exact hrest _ _
      | error e =>
        rw [ending_checkAll_cons_of_passes hload (hpass p List.mem_cons_self e hload)]
        exact hrest _ _

/-- Files that hold no model, and do not end the run, may as well not be there. -/
lemma ending_checkAll_filter {k : Path → Bool} {ps : List Path}
    (hskip : ∀ p ∈ ps, k p = false → ∃ e, load p = .error e ∧ a.failure? e = none)
    (cancelled : Bool) (sum : Report) :
    ending (a.checkAll load cancelled sum (ps.filter k))
      = ending (a.checkAll load cancelled sum ps) := by
  induction ps generalizing cancelled sum with
  | nil => rfl
  | cons p ps ih =>
    have hrest := ih fun q hq => hskip q (List.mem_cons_of_mem p hq)
    cases cancelled with
    | true => rw [ending_checkAll_cancelled, ending_checkAll_cancelled]
    | false =>
      cases hk : k p with
      | false =>
        obtain ⟨e, hload, hpass⟩ := hskip p List.mem_cons_self hk
        rw [List.filter_cons_of_neg (by simp [hk]), ending_checkAll_cons_of_passes hload hpass,
          hrest]
      | true =>
        rw [List.filter_cons_of_pos hk]
        cases hload : load p with
        | ok m => rw [ending_checkAll_cons_ok hload, ending_checkAll_cons_ok hload, hrest]
        | error e =>
          rw [ending_checkAll_cons_error hload, ending_checkAll_cons_error hload]
          cases a.failure? e with
          | some failure => rfl
          | none => exact hrest _ _

/-- A file that cannot be read ends a run that comes to it. -/
lemma result_checkAll_unreadable {before after rest : List Path} {p path : Path}
    {cause : FileError} {sum : Report} (hpass : ∀ q ∈ before, a.Passes load q)
    (hload : load p = .error (.unreadable path cause))
    (hquiet : (a.checkAll load false sum (before ++ rest)).cancelled = false) :
    (a.checkAll load false sum (before ++ p :: after)).result
      = .error (.model (.unreadable path cause)) := by
  change (ending (a.checkAll load false sum (before ++ rest))).2 = false at hquiet
  change (ending (a.checkAll load false sum (before ++ p :: after))).1 = _
  induction before generalizing sum with
  | nil =>
    rw [List.nil_append, ending_checkAll_cons_error hload]
    rfl
  | cons q before ih =>
    have hrest : ∀ r ∈ before, a.Passes load r := fun r hr =>
      hpass r (List.mem_cons_of_mem q hr)
    rw [List.cons_append] at hquiet ⊢
    cases hq : load q with
    | ok m =>
      rw [ending_checkAll_cons_ok hq] at hquiet ⊢
      cases hstop : a.linter.cancels q m with
      | true =>
        rw [hstop, ending_checkAll_cancelled] at hquiet
        cases hquiet
      | false =>
        rw [hstop] at hquiet
        exact ih hrest hquiet
    | error e =>
      have hgoes := hpass q List.mem_cons_self e hq
      rw [ending_checkAll_cons_of_passes hq hgoes] at hquiet ⊢
      exact ih hrest hquiet

end Analyzer

/-! ### What is loaded -/

/-- The bytes are text. -/
def IsText (content : ByteArray) : Prop := ∃ text, Files.decode content = .ok text

/-- No text in the bytes holds a model. -/
def HoldsNoModel (content : ByteArray) : Prop :=
  ∀ text, Files.decode content = .ok text → ¬HoldsModel text

section

variable {f : Files} {here q : Place} {content : ByteArray} {p : Path}

lemma read_of_resolve (hp : f.resolve here p = .ok q) (hfile : f.node? q = some (.file content)) :
    f.read here p = Files.decode content := by
  simp only [Files.read, hp, hfile, bind, Except.bind]

/-- Text that holds no model is malformed. -/
lemma load_of_isText (hp : f.resolve here p = .ok q)
    (hfile : f.node? q = some (.file content)) (hbad : HoldsNoModel content)
    (htext : IsText content) :
    ∃ what, Model.load f here p = .error (.malformed p what) := by
  obtain ⟨text, hdecode⟩ := htext
  have hread : f.read here p = .ok text := (read_of_resolve hp hfile).trans hdecode
  cases hm : Shaped.ofText (α := Model) text with
  | ok m => exact absurd ⟨m, hm⟩ (hbad text hdecode)
  | error what => exact ⟨what, by simp only [Model.load, hread, hm]⟩

/-- Bytes that are no text cannot be read. -/
lemma load_of_not_isText (hp : f.resolve here p = .ok q)
    (hfile : f.node? q = some (.file content)) (htext : ¬IsText content) :
    Model.load f here p = .error (.unreadable p .notText) := by
  have hdecode : Files.decode content = .error .notText := by
    cases hd : Files.decode content with
    | ok text => exact absurd ⟨text, hd⟩ htext
    | error e =>
      unfold Files.decode at hd
      split at hd
      · cases hd
      · exact hd.symm
  have hread : f.read here p = .error .notText := (read_of_resolve hp hfile).trans hdecode
  simp only [Model.load, hread]

/-- Another file is loaded as before. -/
lemma load_without {r : Place} {h : ¬f.HasFolder q} (hp : f.resolve here p = .ok r) (hr : r ≠ q) :
    Model.load (f.without q h) here p = Model.load f here p := by
  have hread : (f.without q h).read here p = f.read here p := by
    simp only [Files.read, Files.resolve_without hr hp, hp, bind, Except.bind,
      Files.node?_without_of_ne hr]
  simp only [Model.load, hread]

end

/-! ### Whole runs -/

namespace Analyzer

variable {a : Analyzer} {f : Files} {here q : Place} {content : ByteArray} {ps : List Path}

lemma passes_of_read {p : Path} {text : String} (hlenient : a.strict = false)
    (hread : f.read here p = .ok text) : a.Passes (Model.load f here) p := by
  intro e he
  simp only [Model.load, hread] at he
  split at he
  · cases he
  · cases he
    simp [failure?, hlenient]

/-- Without the file, a run is what it is on the other paths. -/
lemma ending_run_without {h : ¬f.HasFolder q} (hfiles : a.search.files f = .ok ps)
    (hreach : ∀ p ∈ ps, ∃ r, f.resolve here p = .ok r) :
    ending (a.run (f.without q h) here)
      = ((a.checkAll (Model.load f here) false {} (ps.filter (Search.avoids q))).result.map
          Report.sort,
        (a.checkAll (Model.load f here) false {} (ps.filter (Search.avoids q))).cancelled) := by
  have hkept : a.search.files (f.without q h) = .ok (ps.filter (Search.avoids q)) := by
    rw [Search.files_without, hfiles]
    rfl
  have hload : ∀ p ∈ ps.filter (Search.avoids q),
      Model.load (f.without q h) here p = Model.load f here p := by
    intro p hp
    obtain ⟨hp, havoids⟩ := List.mem_filter.1 hp
    obtain ⟨r, hr⟩ := hreach p hp
    have hne : p.destination [] ≠ q := bne_iff_ne.1 havoids
    rw [Path.destination_of_isAbsolute (Search.isAbsolute_of_mem_files hfiles hp) [] here,
      ← Files.resolve_ok hr] at hne
    exact load_without hr hne
  rw [ending_run hkept, checkAll_congr rfl rfl hload]

lemma result_run_without {h : ¬f.HasFolder q} (hfiles : a.search.files f = .ok ps)
    (hreach : ∀ p ∈ ps, ∃ r, f.resolve here p = .ok r) :
    (a.run (f.without q h) here).result
      = (a.checkAll (Model.load f here) false {} (ps.filter (Search.avoids q))).result.map
        Report.sort :=
  congrArg Prod.fst (ending_run_without hfiles hreach)

lemma cancelled_run_without {h : ¬f.HasFolder q} (hfiles : a.search.files f = .ok ps)
    (hreach : ∀ p ∈ ps, ∃ r, f.resolve here p = .ok r) :
    (a.run (f.without q h) here).cancelled
      = (a.checkAll (Model.load f here) false {} (ps.filter (Search.avoids q))).cancelled :=
  congrArg Prod.snd (ending_run_without hfiles hreach)

lemma resolve_of_destination {p : Path} (hfiles : a.search.files f = .ok ps) (hp : p ∈ ps)
    (hreach : ∃ r, f.resolve here p = .ok r) (hq : p.destination [] = q) :
    f.resolve here p = .ok q := by
  obtain ⟨r, hr⟩ := hreach
  rw [Path.destination_of_isAbsolute (Search.isAbsolute_of_mem_files hfiles hp) [] here] at hq
  rw [hr, Files.resolve_ok hr, hq]

/-- Text that holds no model is passed over. -/
lemma result_run_of_isText (hlenient : a.strict = false)
    (hfile : f.node? q = some (.file content)) (hbad : HoldsNoModel content)
    (hfiles : a.search.files f = .ok ps) (hreach : ∀ p ∈ ps, ∃ r, f.resolve here p = .ok r)
    (htext : IsText content) (h : ¬f.HasFolder q) :
    (a.run f here).result = (a.run (f.without q h) here).result := by
  have hskip : ∀ p ∈ ps, Search.avoids q p = false →
      ∃ e, Model.load f here p = .error e ∧ a.failure? e = none := by
    intro p hp havoids
    have hq : p.destination [] = q := by simpa [Search.avoids] using havoids
    obtain ⟨what, hload⟩ :=
      load_of_isText (resolve_of_destination hfiles hp (hreach p hp) hq) hfile hbad htext
    exact ⟨_, hload, by simp [failure?, hlenient]⟩
  have hsame := congrArg Prod.fst (ending_checkAll_filter hskip false {})
  simp only [ending] at hsame
  rw [result_run_without hfiles hreach, result_run hfiles, hsame]

/-- If all other files are text, the run without the file ends with a report. -/
lemma exists_result_run_without (hlenient : a.strict = false) (hfiles : a.search.files f = .ok ps)
    (hreach : ∀ p ∈ ps, ∃ r, f.resolve here p = .ok r)
    (hothers : ∀ p ∈ ps, p.destination [] ≠ q → ∃ text, f.read here p = .ok text)
    (h : ¬f.HasFolder q) : ∃ r, (a.run (f.without q h) here).result = .ok r := by
  have hpass : ∀ p ∈ ps.filter (Search.avoids q), a.Passes (Model.load f here) p := by
    intro p hp
    obtain ⟨hp, havoids⟩ := List.mem_filter.1 hp
    obtain ⟨text, htext⟩ := hothers p hp (bne_iff_ne.1 havoids)
    exact passes_of_read hlenient htext
  obtain ⟨r, hr⟩ := exists_result_checkAll hpass false {}
  exact ⟨r.sort, by rw [result_run_without hfiles hreach, hr, Except.map]⟩

/-- Bytes that are no text end the run. -/
lemma result_run_of_not_isText (hlenient : a.strict = false)
    (hfile : f.node? q = some (.file content)) (hfiles : a.search.files f = .ok ps)
    (hfound : ∃ p ∈ ps, p.destination [] = q)
    (hreach : ∀ p ∈ ps, ∃ r, f.resolve here p = .ok r)
    (hothers : ∀ p ∈ ps, p.destination [] ≠ q → ∃ text, f.read here p = .ok text)
    (htext : ¬IsText content) {h : ¬f.HasFolder q}
    (hquiet : (a.run (f.without q h) here).cancelled = false) :
    ∃ p ∈ ps, p.destination [] = q
      ∧ (a.run f here).result = .error (.model (.unreadable p .notText)) := by
  -- the first path that leads to the file
  obtain ⟨p, hp⟩ : ∃ p, ps.find? (fun p => !Search.avoids q p) = some p := by
    obtain ⟨p, hp, hq⟩ := hfound
    exact Option.isSome_iff_exists.1 (List.find?_isSome.2 ⟨p, hp, by simp [Search.avoids, hq]⟩)
  obtain ⟨havoids, before, after, rfl, hbefore⟩ := List.find?_eq_some_iff_append.1 hp
  have hbefore' : ∀ r ∈ before, Search.avoids q r = true := by simpa using hbefore
  have hq : p.destination [] = q := by simpa [Search.avoids] using havoids
  have hin : p ∈ before ++ p :: after := by simp
  have hload :=
    load_of_not_isText (resolve_of_destination hfiles hin (hreach p hin) hq) hfile htext
  have hpass : ∀ r ∈ before, a.Passes (Model.load f here) r := by
    intro r hr
    obtain ⟨text, hread⟩ := hothers r (List.mem_append_left _ hr) (bne_iff_ne.1 (hbefore' r hr))
    exact passes_of_read hlenient hread
  rw [cancelled_run_without hfiles hreach, List.filter_append,
    List.filter_eq_self.2 hbefore'] at hquiet
  exact ⟨p, hin, hq, by
    rw [result_run hfiles, result_checkAll_unreadable hpass hload hquiet, Except.map]⟩

/-- **One bad file.** A lenient run treats a file that holds no model, but text, as if it were not
there. A file whose bytes are no text ends the run, although without it the run would end with a
report. -/
theorem result_run_of_badFile (hlenient : a.strict = false)
    (hfile : f.node? q = some (.file content)) (hbad : HoldsNoModel content)
    (hfiles : a.search.files f = .ok ps) (hfound : ∃ p ∈ ps, p.destination [] = q)
    (hreach : ∀ p ∈ ps, ∃ r, f.resolve here p = .ok r) :
    (IsText content → (a.run f here).result
        = (a.run (f.without q (Files.not_hasFolder hfile)) here).result)
      ∧ ((∀ p ∈ ps, p.destination [] ≠ q → ∃ text, f.read here p = .ok text) →
        (∃ r, (a.run (f.without q (Files.not_hasFolder hfile)) here).result = .ok r)
          ∧ (¬IsText content →
            (a.run (f.without q (Files.not_hasFolder hfile)) here).cancelled = false →
            ∃ p ∈ ps, p.destination [] = q
              ∧ (a.run f here).result = .error (.model (.unreadable p .notText)))) :=
  ⟨fun htext => result_run_of_isText hlenient hfile hbad hfiles hreach htext _,
    fun hothers => ⟨exists_result_run_without hlenient hfiles hreach hothers _,
      fun htext hquiet =>
        result_run_of_not_isText hlenient hfile hfiles hfound hreach hothers htext hquiet⟩⟩

/-! ### A model beside another file -/

/-- A model with a type that breaks the convention. -/
def scriptedModel : Model := ⟨"", [NotNull.scripted]⟩

/-- The model, and a file with some content. -/
def modelBeside (content : ByteArray) : Files where
  entries := [(["w"], .folder), (["w", "a.symbols.json"], .file scriptedModel.written),
    (["w", "b.symbols.json"], .file content)]
  sorted := by simp +decide
  named := by simp [IsFileName]
  closed := by simp

def bothPaths : List Path := [⟨"/w/a.symbols.json"⟩, ⟨"/w/b.symbols.json"⟩]

lemma files_modelBeside (content : ByteArray) :
    NotNull.lenientRun.search.files (modelBeside content) = .ok bothPaths :=
  (Search.standard_w rfl rfl rfl).files_of_modelNames [["a.symbols.json"], ["b.symbols.json"]]
    rfl rfl

lemma node?_modelBeside (content : ByteArray) :
    (modelBeside content).node? ["w", "b.symbols.json"] = some (.file content) := rfl

/-- The model alone. -/
def modelAlone (content : ByteArray) : Files :=
  (modelBeside content).without _ (Files.not_hasFolder (node?_modelBeside content))

/-- Bytes that are no text. -/
def noText : ByteArray := ⟨#[0x7b, 0xff, 0x7d]⟩

lemma not_isText_noText : ¬IsText noText := by
  rintro ⟨text, htext⟩
  have hdecode : (Files.decode noText).isOk = false := by rfl
  rw [htext] at hdecode
  cases hdecode

lemma holdsNoModel_noText : HoldsNoModel noText := fun text htext =>
  absurd ⟨text, htext⟩ not_isText_noText

lemma isText_bracket : IsText "[".toUTF8 := ⟨"[", Files.decode_toUTF8 "["⟩

lemma holdsNoModel_bracket : HoldsNoModel "[".toUTF8 := by
  rintro text htext ⟨m, hm⟩
  rw [Files.decode_toUTF8] at htext
  cases htext
  have hfault : (Shaped.ofText (α := Model) "[").isOk = false := by rfl
  rw [hm] at hfault
  cases hfault

lemma found_bothPaths : ∃ p ∈ bothPaths, p.destination [] = ["w", "b.symbols.json"] :=
  ⟨⟨"/w/b.symbols.json"⟩, by simp [bothPaths], rfl⟩

lemma resolve_bothPaths (content : ByteArray) :
    ∀ p ∈ bothPaths, ∃ r, (modelBeside content).resolve [] p = .ok r := by
  intro p hp
  simp only [bothPaths, List.mem_cons, List.not_mem_nil, or_false] at hp
  obtain rfl | rfl := hp
  · exact ⟨["w", "a.symbols.json"], rfl⟩
  · exact ⟨["w", "b.symbols.json"], rfl⟩

lemma read_bothPaths (content : ByteArray) : ∀ p ∈ bothPaths,
    p.destination [] ≠ ["w", "b.symbols.json"] →
      ∃ text, (modelBeside content).read [] p = .ok text := by
  intro p hp hother
  simp only [bothPaths, List.mem_cons, List.not_mem_nil, or_false] at hp
  obtain rfl | rfl := hp
  · exact ⟨_, Files.read_text (q := ["w", "a.symbols.json"]) rfl rfl⟩
  · exact absurd rfl hother

lemma files_modelAlone (content : ByteArray) :
    NotNull.lenientRun.search.files (modelAlone content) = .ok [⟨"/w/a.symbols.json"⟩] := by
  rw [modelAlone, Search.files_without, files_modelBeside]
  rfl

lemma load_modelAlone (content : ByteArray) :
    Model.load (modelAlone content) [] ⟨"/w/a.symbols.json"⟩ = .ok scriptedModel :=
  Model.load_written (q := ["w", "a.symbols.json"]) rfl rfl

lemma cancelled_modelAlone (content : ByteArray) :
    (NotNull.lenientRun.run (modelAlone content) []).cancelled = false :=
  cancelled_run_of_never fun _ _ => NotNull.cancels_linter {}

/-- A text that is no model is as good as absent, and bytes that are no text end the run. -/
theorem result_run_of_badFile_both :
    (IsText "[".toUTF8 ∧ HoldsNoModel "[".toUTF8
      ∧ (NotNull.lenientRun.run (modelBeside "[".toUTF8) []).result
        = (NotNull.lenientRun.run (modelAlone "[".toUTF8) []).result)
    ∧ (¬IsText noText ∧ HoldsNoModel noText
      ∧ (∃ r, (NotNull.lenientRun.run (modelAlone noText) []).result = .ok r)
      ∧ ∃ p ∈ bothPaths, p.destination [] = ["w", "b.symbols.json"]
        ∧ (NotNull.lenientRun.run (modelBeside noText) []).result
          = .error (.model (.unreadable p .notText))) := by
  obtain ⟨htext, -⟩ := result_run_of_badFile rfl (node?_modelBeside _) holdsNoModel_bracket
    (files_modelBeside _) found_bothPaths (resolve_bothPaths _)
  obtain ⟨-, hothers⟩ := result_run_of_badFile rfl (node?_modelBeside _) holdsNoModel_noText
    (files_modelBeside _) found_bothPaths (resolve_bothPaths _)
  obtain ⟨hreport, hfails⟩ := hothers (read_bothPaths _)
  exact ⟨⟨isText_bracket, holdsNoModel_bracket, htext isText_bracket⟩, not_isText_noText,
    holdsNoModel_noText, hreport, hfails not_isText_noText (cancelled_modelAlone _)⟩

/-- Bytes that are no text, in one file, keep the finding in the other from being reported. -/
theorem result_run_noText :
    NotNull.lenientRun.strict = false ∧ HoldsNoModel noText
      ∧ NotNull.lenientRun.search.files (modelBeside noText) = .ok bothPaths
      ∧ (∀ p ∈ bothPaths, (modelBeside noText).leadsToFile [] p = true)
      ∧ (NotNull.lenientRun.run (modelBeside noText) []).result
        = .error (.model (.unreadable ⟨"/w/b.symbols.json"⟩ .notText))
      ∧ (NotNull.lenientRun.run (modelAlone noText) []).result.map (·.violations.length)
        = .ok 1 := by
  obtain ⟨p, hp, hplace, hfails⟩ := result_run_of_not_isText rfl (node?_modelBeside noText)
    (files_modelBeside _) found_bothPaths (resolve_bothPaths _) (read_bothPaths _) not_isText_noText
    (cancelled_modelAlone _)
  obtain rfl : p = ⟨"/w/b.symbols.json"⟩ := by
    simp only [bothPaths, List.mem_cons, List.not_mem_nil, or_false] at hp
    obtain rfl | rfl := hp
    · exact absurd hplace (by decide)
    · rfl
  have hloads : [(⟨"/w/a.symbols.json"⟩ : Path)].map (Model.load (modelAlone noText) [])
      = [scriptedModel].map Except.ok := by
    rw [List.map_singleton, List.map_singleton, load_modelAlone]
  have halone := result_run_models (files_modelAlone noText) hloads fun _ _ =>
    NotNull.cancels_linter {}
  have hone : (NotNull.lenientRun.linter.merged
      ([⟨"/w/a.symbols.json"⟩].zip [scriptedModel])).violations.length = 1 := by
    rw [← NotNull.length_typeFindings_scripted]
    refine (NotNull.perm_merged {} _).length_eq.trans ?_
    simp [scriptedModel]
  refine ⟨rfl, holdsNoModel_noText, files_modelBeside _, ?_, hfails, ?_⟩
  · intro p hp
    simp only [bothPaths, List.mem_cons, List.not_mem_nil, or_false] at hp
    obtain rfl | rfl := hp <;> rfl
  · rw [halone, Except.map, hone]

end Analyzer
end NotNullLint
