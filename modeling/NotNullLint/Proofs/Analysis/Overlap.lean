import NotNullLint.Proofs.Analysis.Excludes
import NotNullLint.Proofs.Files.Spellings

/-!
Include patterns that overlap.

What several patterns find is put in order, each path once, so neither the order of the patterns nor
repetitions among them matter for what is discovered. They do matter for its spelling: of several
spellings of a path the first one found is kept. A run looks at the spelling only to open a file, so
it comes to the same with all of them, as long as the spelling is not too long to be opened.
-/

namespace NotNullLint
namespace Search

variable {s t : Search} {f : Files} {ps qs : List Path} {p q : Path}

/-- The searches look in the same place, with the same patterns in whatever order. -/
structure Reordered (s t : Search) : Prop where
  root : s.root = t.root
  includes : ∀ pattern, pattern ∈ s.includes ↔ pattern ∈ t.includes
  excludes : s.excludes = t.excludes

/-! ### What is discovered -/

lemma pairwise_components (h : ps.Pairwise fun p q => compare p q = .lt) :
    (ps.map Path.components).Pairwise fun c d => compare c d = .lt :=
  List.pairwise_map.2 h

lemma mem_components_arrange {c : List Component} :
    c ∈ (arrange ps).map Path.components ↔ c ∈ ps.map Path.components := by
  constructor
  · intro h
    obtain ⟨p, hp, rfl⟩ := List.mem_map.1 h
    exact List.mem_map_of_mem (mem_of_mem_arrange hp)
  · intro h
    obtain ⟨p, hp, rfl⟩ := List.mem_map.1 h
    obtain ⟨q, hq, hsame⟩ := exists_same_of_mem_arrange hp
    exact List.mem_map.2 ⟨q, hq, Path.same_iff.1 hsame⟩

/-- Whatever the spellings and the order, the same things are named. -/
lemma components_arrange (h : ∀ p, p ∈ ps ↔ p ∈ qs) :
    (arrange ps).map Path.components = (arrange qs).map Path.components := by
  refine eq_of_mem_iff_of_lt (pairwise_components (pairwise_arrange ps))
    (pairwise_components (pairwise_arrange qs)) fun c => ?_
  rw [mem_components_arrange, mem_components_arrange, List.mem_map, List.mem_map]
  simp only [h]

namespace Reordered

lemma symm (h : s.Reordered t) : t.Reordered s :=
  ⟨h.root.symm, fun pattern => (h.includes pattern).symm, h.excludes.symm⟩

lemma found (h : s.Reordered t) : t.found f = s.found f := by
  funext pattern
  rw [Search.found, Search.found, fromRoot, fromRoot, h.root]

lemma excluded (h : s.Reordered t) : t.excluded = s.excluded := by
  funext p
  rw [Search.excluded, Search.excluded, seen, seen, h.root, h.excludes]

/-- All patterns are found by the one search that are found by the other. -/
lemma exists_lists (h : s.Reordered t) {lists : List (List Path)}
    (hlists : s.includes.mapM (s.found f) = .ok lists) :
    ∃ lists', t.includes.mapM (s.found f) = .ok lists'
      ∧ ∀ p, p ∈ lists.flatten ↔ p ∈ lists'.flatten := by
  obtain ⟨lists', hlists'⟩ : ∃ lists', t.includes.mapM (s.found f) = .ok lists' := by
    refine Except.exists_mapM_eq_ok fun pattern hpattern => ?_
    obtain ⟨ps, -, hps⟩ := Except.exists_mem_of_mapM hlists ((h.includes pattern).2 hpattern)
    exact ⟨ps, hps⟩
  have hsub {patterns patterns' : List String} {ls ls' : List (List Path)}
      (hls : patterns.mapM (s.found f) = .ok ls) (hls' : patterns'.mapM (s.found f) = .ok ls')
      (hpatterns : ∀ pattern ∈ patterns, pattern ∈ patterns') :
      ∀ p ∈ ls.flatten, p ∈ ls'.flatten := by
    intro p hp
    obtain ⟨ps, hps, hp⟩ := List.mem_flatten.1 hp
    obtain ⟨pattern, hpattern, hfound⟩ := Except.exists_of_mem_mapM hls hps
    obtain ⟨ps', hps', hfound'⟩ := Except.exists_mem_of_mapM hls' (hpatterns pattern hpattern)
    cases hfound.symm.trans hfound'
    exact List.mem_flatten.2 ⟨ps, hps', hp⟩
  exact ⟨lists', hlists', fun p => ⟨hsub hlists hlists' (fun n => (h.includes n).1) p,
    hsub hlists' hlists (fun n => (h.includes n).2) p⟩⟩

/-- What the one search discovers, so does the other, in whatever spellings. -/
lemma files (h : s.Reordered t) (hs : s.files f = .ok ps) :
    ∃ qs, t.files f = .ok qs ∧ ps.map Path.components = qs.map Path.components := by
  unfold Search.files at hs ⊢
  obtain ⟨lists, hlists, hps⟩ := Except.bind_eq_ok_iff.1 hs
  obtain ⟨lists', hlists', hmem⟩ := h.exists_lists hlists
  rw [h.found, h.excluded, hlists', ← Except.ok.inj hps]
  refine ⟨_, rfl, components_arrange fun p => ?_⟩
  rw [List.mem_filter, List.mem_filter, hmem]

end Reordered

/-- The second path is another spelling of the first one, found on the way to what stands there. -/
structure Respelled (f : Files) (p q : Path) : Prop where
  absolute : p.isAbsolute = true
  absolute' : q.isAbsolute = true
  components : p.components = q.components
  whole : ∀ n ∈ q.pieces.getLast?, Path.inner n = none →
    f.node? (q.destination []) = some .folder

lemma whole_of_mem_files (hfiles : s.files f = .ok ps) (hp : p ∈ ps) :
    ∀ n ∈ p.pieces.getLast?, Path.inner n = none → f.node? (p.destination []) = some .folder := by
  obtain ⟨⟨lists, hlists, hp⟩, -⟩ := found_of_mem_files hfiles hp
  obtain ⟨pattern, ts, hts, t, ht, rfl⟩ := exists_spot_of_mem_found hlists hp
  rw [(Glob.sound_of_mem_find hts ht).leads]
  exact Glob.whole_of_mem_find hts ht

lemma Reordered.forall₂ (h : s.Reordered t) (hs : s.files f = .ok ps) (ht : t.files f = .ok qs) :
    List.Forall₂ (Respelled f) ps qs := by
  obtain ⟨qs', hqs', hcomponents⟩ := h.files hs
  cases ht.symm.trans hqs'
  rw [← List.forall₂_eq_eq_eq, List.forall₂_map_left_iff, List.forall₂_map_right_iff] at hcomponents
  have hps : ∀ p ∈ ps, p.isAbsolute = true := fun p hp => isAbsolute_of_mem_files hs hp
  have hqs : ∀ q ∈ qs, q ∈ qs := fun _ hq => hq
  have hleft := (List.forall₂_and_left ps qs).2 ⟨hps, hcomponents⟩
  have hright := (List.forall₂_and_left qs ps).2 ⟨hqs, hleft.flip⟩
  refine hright.flip.imp fun p q ⟨hq, hp, heq⟩ => ?_
  exact ⟨hp, isAbsolute_of_mem_files ht hq, heq, whole_of_mem_files ht hq⟩

namespace Respelled

variable {here : Place} {text : String}

lemma destination (h : Respelled f p q) : p.destination [] = q.destination [] :=
  Path.destination_of_components h.absolute h.absolute' h.components []

/-- What is read in one spelling is read in the other, if that is not too long. -/
lemma read (h : Respelled f p q) (hread : f.read here p = .ok text) : f.read here q
    = if Files.maxPath ≤ q.text.utf8ByteSize then .error .nameTooLong else .ok text := by
  obtain ⟨r, content, hr, hfile⟩ := Files.read_ok hread
  have hplace : q.destination [] = r := by
    rw [← h.destination, Path.destination_of_isAbsolute h.absolute [] here, ← Files.resolve_ok hr]
  have hresolve := Files.resolve_of_components h.absolute h.absolute' h.components hr
    (hplace ▸ h.whole)
  rw [read_of_resolve hr hfile] at hread
  by_cases hlong : Files.maxPath ≤ q.text.utf8ByteSize
  · rw [if_pos hlong] at hresolve ⊢
    rw [Files.read, hresolve]
    rfl
  · rw [if_neg hlong] at hresolve ⊢
    rw [read_of_resolve hresolve hfile, hread]

end Respelled

end Search

/-! ### What a run comes to -/

namespace Analyzer

open Search

variable {a b : Analyzer} {f : Files} {here : Place} {ps qs : List Path}

/-- With a path that is too long to be opened. -/
def FailsOnLong (qs : List Path) (result : Except RunError Report) : Prop :=
  ∃ q ∈ qs, Files.maxPath ≤ q.text.utf8ByteSize
    ∧ result = .error (.model (.unreadable q .nameTooLong))

lemma FailsOnLong.cons {result : Except RunError Report} (h : FailsOnLong qs result) (q : Path) :
    FailsOnLong (q :: qs) result := by
  obtain ⟨r, hr, hlong, heq⟩ := h
  exact ⟨r, List.mem_cons_of_mem q hr, hlong, heq⟩

/-- As long as no rule looks at paths or asks to stop, files may be spelled otherwise. -/
lemma result_checkAll_respelled {sum r : Report} (hpairs : List.Forall₂ (Respelled f) ps qs)
    (hlenient : a.strict = false) (hquiet : ∀ path m, a.linter.cancels path m = false)
    (hblind : ∀ p q m, a.linter.check p m = a.linter.check q m)
    (h : (ending (a.checkAll (Model.load f here) false sum ps)).1 = .ok r) :
    (ending (a.checkAll (Model.load f here) false sum qs)).1 = .ok r
      ∨ FailsOnLong qs (ending (a.checkAll (Model.load f here) false sum qs)).1 := by
  induction hpairs generalizing sum with
  | nil => exact .inl h
  | @cons p q ps qs hpq hpairs ih =>
    cases hread : f.read here p with
    | error cause =>
      -- the run has not got past this file
      have hload : Model.load f here p = .error (.unreadable p cause) := by
        simp only [Model.load, hread]
      rw [ending_checkAll_cons_error hload] at h
      cases h
    | ok text =>
      have hread' := hpq.read hread
      by_cases hlong : Files.maxPath ≤ q.text.utf8ByteSize
      · rw [if_pos hlong] at hread'
        have hload : Model.load f here q = .error (.unreadable q .nameTooLong) := by
          simp only [Model.load, hread']
        refine .inr ⟨q, List.mem_cons_self, hlong, ?_⟩
        rw [ending_checkAll_cons_error hload]
        rfl
      · rw [if_neg hlong] at hread'
        cases hm : Shaped.ofText (α := Model) text with
        | ok m =>
          have hload : Model.load f here p = .ok m := by simp only [Model.load, hread, hm]
          have hload' : Model.load f here q = .ok m := by simp only [Model.load, hread', hm]
          rw [ending_checkAll_cons_ok hload, hquiet] at h
          rw [ending_checkAll_cons_ok hload', hquiet, hblind q p]
          exact (ih h).imp_right fun hfails => hfails.cons q
        | error what =>
          have hload : Model.load f here p = .error (.malformed p what) := by
            simp only [Model.load, hread, hm]
          have hload' : Model.load f here q = .error (.malformed q what) := by
            simp only [Model.load, hread', hm]
          have hpass (path : Path) : a.failure? (.malformed path what) = none := by
            simp [failure?, hlenient]
          rw [ending_checkAll_cons_of_passes hload (hpass p)] at h
          rw [ending_checkAll_cons_of_passes hload' (hpass q)]
          exact (ih h).imp_right fun hfails => hfails.cons q

end Analyzer

namespace NotNull

open Search

/-- The convention does not look at the path of a model. -/
lemma check_linter (c : Config) (p q : Path) (m : Model) :
    (linter c).check p m = (linter c).check q m := by
  rw [Linter.check, Linter.check, reports_eq, reports_eq]

lemma result_run_reordered {a b : Analyzer} {c : Config} {f : Files} {here : Place}
    {ps qs : List Path} {r : Report} (ha : a.linter = linter c) (hb : b.linter = linter c)
    (hlenient : a.strict = false) (hlenient' : b.strict = false)
    (h : a.search.Reordered b.search) (hps : a.search.files f = .ok ps)
    (hqs : b.search.files f = .ok qs) (hr : (a.run f here).result = .ok r) :
    (b.run f here).result = .ok r ∨ Analyzer.FailsOnLong qs (b.run f here).result := by
  have hswap : b.checkAll (Model.load f here) false {} qs
      = a.checkAll (Model.load f here) false {} qs :=
    Analyzer.checkAll_congr (hb.trans ha.symm) (hlenient'.trans hlenient.symm) fun _ _ => rfl
  rw [Analyzer.result_run hps, Except.map_eq_ok_iff] at hr
  obtain ⟨sum, hsum, rfl⟩ := hr
  have hquiet : ∀ path m, a.linter.cancels path m = false := by
    rw [ha]
    exact fun _ _ => cancels_linter c
  have hblind : ∀ p q m, a.linter.check p m = a.linter.check q m := by
    rw [ha]
    exact check_linter c
  rw [Analyzer.result_run hqs, hswap]
  rcases Analyzer.result_checkAll_respelled (h.forall₂ hps hqs) hlenient hquiet hblind hsum
    with hok | ⟨q, hq, hlong, hfails⟩
  · exact .inl (congrArg (Except.map Report.sort) hok)
  · exact .inr ⟨q, hq, hlong, congrArg (Except.map Report.sort) hfails⟩

/-- **Overlapping include patterns.** With the same include patterns in another order, or with
repetitions, a search fails if the other one does, and else discovers the same, in path order and
each path once, in spellings of its own. A lenient run of the convention that ends with a report
ends with the same one in the other case, unless it fails there on a path that is too long. -/
theorem run_of_reordered {a b : Analyzer} {c : Config} (ha : a.linter = linter c)
    (hb : b.linter = linter c) (hlenient : a.strict = false) (hlenient' : b.strict = false)
    (h : a.search.Reordered b.search) (f : Files) (here : Place) :
    ((∃ e, a.search.files f = .error e) ↔ ∃ e, b.search.files f = .error e)
      ∧ ∀ ps qs, a.search.files f = .ok ps → b.search.files f = .ok qs →
        ps.Pairwise (fun p q => compare p q = .lt) ∧ qs.Pairwise (fun p q => compare p q = .lt)
        ∧ List.Forall₂ (fun p q => p.same q = true ∧ p.destination [] = q.destination []) ps qs
        ∧ (∀ r, (a.run f here).result = .ok r →
          (b.run f here).result = .ok r ∨ Analyzer.FailsOnLong qs (b.run f here).result)
        ∧ (∀ r, (b.run f here).result = .ok r →
          (a.run f here).result = .ok r ∨ Analyzer.FailsOnLong ps (a.run f here).result) := by
  have hfails {s t : Search} (h : s.Reordered t) (hs : ∃ e, s.files f = .error e) :
      ∃ e, t.files f = .error e := by
    cases ht : t.files f with
    | error e => exact ⟨e, rfl⟩
    | ok qs =>
      obtain ⟨e, he⟩ := hs
      obtain ⟨ps, hps, -⟩ := h.symm.files ht
      cases he.symm.trans hps
  refine ⟨⟨hfails h, hfails h.symm⟩, fun ps qs hps hqs => ?_⟩
  refine ⟨pairwise_files hps, pairwise_files hqs, ?_, fun r => ?_, fun r => ?_⟩
  · exact (h.forall₂ hps hqs).imp fun p q hpq =>
      ⟨Path.same_iff.2 hpq.components, hpq.destination⟩
  · exact result_run_reordered ha hb hlenient hlenient' h hps hqs
  · exact result_run_reordered hb ha hlenient' hlenient h.symm hqs hps

end NotNull

/-! ### A way through many points -/

namespace Search

/-- A path that stays where it leads, again and again. -/
def dotted (text : String) : Nat → String
  | 0 => text
  | n + 1 => dotted (text ++ "/.") n

lemma dotted_succ (text : String) (n : Nat) : dotted text (n + 1) = dotted text n ++ "/." := by
  induction n generalizing text with
  | zero => rfl
  | succ n ih => exact ih (text ++ "/.")

/-- The default pattern, after as many points. -/
def roundabout : Nat → String
  | 0 => everyModel
  | n + 1 => "./" ++ roundabout n

lemma join_roundabout (text : String) (n : Nat) :
    text ++ "/" ++ roundabout n = dotted text n ++ "/" ++ everyModel := by
  induction n generalizing text with
  | zero => rfl
  | succ n ih =>
    have hstep : text ++ "/" ++ roundabout (n + 1) = text ++ "/." ++ "/" ++ roundabout n := by
      apply String.toList_injective
      simp [roundabout]
    rw [hstep, ih, dotted]

lemma utf8ByteSize_dotted (text : String) (n : Nat) :
    (dotted text n).utf8ByteSize = text.utf8ByteSize + 2 * n := by
  induction n generalizing text with
  | zero => rfl
  | succ n ih =>
    have htwo : "/.".utf8ByteSize = 2 := rfl
    rw [dotted, ih, String.utf8ByteSize_append, htwo]
    omega

lemma utf8ByteSize_dotted_r (n : Nat) : (dotted "/r" n).utf8ByteSize = 2 * n + 2 := by
  have htwo : "/r".utf8ByteSize = 2 := rfl
  rw [utf8ByteSize_dotted, htwo, Nat.add_comm]

lemma pieces_dotted (text : String) (n : Nat) :
    Path.pieces ⟨dotted text n⟩ = Path.pieces ⟨text⟩ ++ List.replicate n "." := by
  induction n generalizing text with
  | zero => rw [List.replicate_zero, List.append_nil, dotted]
  | succ n ih =>
    have hstep : Path.pieces ⟨text ++ "/."⟩ = Path.pieces ⟨text⟩ ++ Path.pieces ⟨"."⟩ :=
      Path.pieces_of_toList (by simp)
    have hpoint : Path.pieces ⟨"."⟩ = ["."] := rfl
    rw [dotted, ih, hstep, hpoint, List.append_assoc, List.singleton_append,
      ← List.replicate_succ]

lemma mem_dotted {c : Char} {text : String} {n : Nat} (h : c ∈ (dotted text n).toList) :
    c ∈ text.toList ∨ c ∈ "/.".toList := by
  induction n generalizing text with
  | zero => exact .inl h
  | succ n ih =>
    rcases ih h with h | h
    · rwa [String.toList_append, List.mem_append] at h
    · exact .inr h

lemma getLast?_dotted {text : String} (h : text.toList.getLast? ≠ some '/') (n : Nat) :
    (dotted text n).toList.getLast? ≠ some '/' := by
  induction n generalizing text with
  | zero => exact h
  | succ n ih =>
    refine ih ?_
    have hpoint : "/.".toList.getLast? = some '.' := rfl
    rw [String.toList_append, List.getLast?_append, hpoint, Option.some_or]
    decide

lemma join_dotted (n : Nat) {name : String} (h : Path.isAbsolute ⟨name⟩ = false) :
    Path.join ⟨dotted "/r" n⟩ ⟨name⟩ = ⟨dotted "/r" n ++ "/" ++ name⟩ := by
  have hempty : dotted "/r" n ≠ "" := by
    intro hempty
    have hsize := utf8ByteSize_dotted_r n
    rw [hempty] at hsize
    cases hsize
  have hlast : (dotted "/r" n).toList.getLast? ≠ some '/' := getLast?_dotted (by decide) n
  rw [Path.join, if_neg (by simp [h]), if_neg (not_or.2 ⟨hempty, hlast⟩)]

lemma pieces_dotted_r (n : Nat) :
    Path.pieces ⟨dotted "/r" n⟩ = "" :: ("r" :: List.replicate n ".") := by
  have hpieces : Path.pieces ⟨"/r"⟩ = ["", "r"] := rfl
  rw [pieces_dotted, hpieces]
  rfl

lemma isAbsolute_dotted (n : Nat) : Path.isAbsolute ⟨dotted "/r" n⟩ = true :=
  Path.isAbsolute_of_pieces (pieces_dotted_r n) (List.cons_ne_nil _ _)

lemma components_dotted (n : Nat) :
    Path.components ⟨dotted "/r" n⟩ = Path.components ⟨"/r"⟩ := by
  have hnone : (List.replicate n ".").filterMap Path.inner = [] := by
    refine List.filterMap_eq_nil_iff.2 fun s hs => ?_
    rw [List.eq_of_mem_replicate hs]
    rfl
  have hr : Path.inner "r" = some (.name "r") := rfl
  rw [Path.components_of_pieces (pieces_dotted_r n) (List.cons_ne_nil _ _),
    List.filterMap_cons_some hr, hnone]
  rfl

lemma base_dotted {s : Search} {n : Nat} (hroot : s.root = ⟨dotted "/r" n⟩) :
    s.base = ⟨dotted "/r" n⟩ := by
  have hpoints (n : Nat) : (List.replicate n ".").foldl (fun p m => Path.join p ⟨m⟩) ⟨"/r"⟩
      = ⟨dotted "/r" n⟩ := by
    induction n with
    | zero => rfl
    | succ n ih =>
      have hpoint : "/" ++ "." = "/." := rfl
      rw [List.replicate_succ', List.foldl_concat, ih, join_dotted n rfl, dotted_succ,
        String.append_assoc, hpoint]
  have hfirst : Path.join ⟨"/"⟩ ⟨"r"⟩ = ⟨"/r"⟩ := rfl
  rw [base, hroot, pieces_dotted_r, List.tail_cons, List.foldl_cons, hfirst, hpoints]

/-- A folder with one model. -/
def lone : Files where
  entries := [(["r"], .folder), (["r", "m.symbols.json"], .file "\x7b\x7d".toUTF8)]
  sorted := by decide
  named := by decide
  closed := by decide

lemma isFileName_lone : ∀ m ∈ ["m.symbols.json"], IsFileName m := by
  decide

/-- The model at the end of as many points. -/
def lonePath (n : Nat) : Path := ⟨dotted "/r" n ++ "/" ++ "m.symbols.json"⟩

/-- The search for it with two patterns. -/
def twice (i j : Nat) : Search :=
  Analyzer.searchOf [] {} (some ⟨"/r"⟩) [roundabout i, roundabout j]

lemma standard_dotted {s : Search} {n : Nat} (hincludes : s.includes = ({} : Scope).includes)
    (hroot : s.root = ⟨dotted "/r" n⟩) (hn : 2 * n + 2 < Files.maxPath) :
    s.Standard lone ["r"] where
  includes := hincludes
  absolute := by
    rw [hroot]
    exact isAbsolute_dotted n
  plain := by
    intro c hc
    rw [hroot] at hc
    have hmem : c ∈ ['/', 'r', '.'] := by
      rcases mem_dotted hc with hc | hc <;> simp at hc ⊢ <;> tauto
    have hall : ∀ d ∈ ['/', 'r', '.'], Glob.IsPlain d := by simp [Glob.IsPlain]
    exact hall c hmem
  leads := by
    have hshort : ¬Files.maxPath ≤ (dotted "/r" n).utf8ByteSize := by
      rwa [utf8ByteSize_dotted_r, Nat.not_le]
    have hr : lone.resolve [] ⟨"/r"⟩ = .ok ["r"] := rfl
    rw [hroot, Files.resolve_of_components rfl (isAbsolute_dotted n) (components_dotted n).symm hr
      fun _ _ _ => rfl, if_neg hshort]
  folder := rfl

lemma join_lonePath (n : Nat) : Path.join ⟨dotted "/r" n⟩ (.ofNames ["m.symbols.json"])
    = lonePath n :=
  join_dotted n rfl

lemma found_roundabout {s : Search} (hroot : s.root = ⟨"/r"⟩) {n : Nat}
    (hn : 2 * n + 2 < Files.maxPath) : s.found lone (roundabout n) = .ok [lonePath n] := by
  let t : Search := { root := ⟨dotted "/r" n⟩, includes := ({} : Scope).includes, excludes := [] }
  have hpattern : s.fromRoot (roundabout n) = t.fromRoot everyModel := by
    rw [fromRoot, fromRoot, hroot, join_roundabout]
  have hbelow : (lone.namesBelow ["r"]).filter (fun ns => decide (NamesModel ns))
      = [["m.symbols.json"]] := by
    decide +kernel
  have hfound := (standard_dotted (s := t) rfl rfl hn).found_eq
  rw [hbelow, List.map_singleton, pathOf, base_dotted (s := t) rfl, join_lonePath] at hfound
  rw [found, hpattern]
  exact hfound

lemma excluded_lonePath (i j n : Nat) : (twice i j).excluded (lonePath n) = false := by
  have hrel := Path.relativeTo?_join_ofNames (components_dotted n).symm isFileName_lone
    (List.cons_ne_nil _ _)
  rw [join_lonePath] at hrel
  have hseen : (twice i j).seen (lonePath n) = '/' :: "m.symbols.json".toList := by
    have hroot : (twice i j).root = ⟨"/r"⟩ := rfl
    rw [seen, hroot, hrel]
    rfl
  have hexcludes : (twice i j).excludes = Analyzer.defaultExcludes := rfl
  rw [excluded, hseen, hexcludes]
  decide +kernel

lemma components_lonePath (n : Nat) : (lonePath n).components = (lonePath 0).components := by
  rw [← join_lonePath, ← join_lonePath,
    Path.components_join_ofNames (isAbsolute_dotted n) isFileName_lone (List.cons_ne_nil _ _),
    Path.components_join_ofNames (isAbsolute_dotted 0) isFileName_lone (List.cons_ne_nil _ _),
    components_dotted, components_dotted 0]

/-- Of two spellings the one is kept that is found first. -/
lemma arrange_pair {p q : Path} (h : p.same q = true) : arrange [p, q] = [p] := by
  have hle : [p, q].Pairwise fun p q => (compare p q).isLE = true := by
    have htie : compare p q = .eq := Path.compare_eq_iff.2 (Path.same_iff.1 h)
    simp [htie]
  rw [arrange, List.mergeSort_of_pairwise hle]
  simp [dedup, h]

lemma files_twice {i j : Nat} (hi : 2 * i + 2 < Files.maxPath) (hj : 2 * j + 2 < Files.maxPath) :
    (twice i j).files lone = .ok [lonePath i] := by
  have hsame : (lonePath i).same (lonePath j) = true :=
    Path.same_iff.2 ((components_lonePath i).trans (components_lonePath j).symm)
  have hincludes : (twice i j).includes = [roundabout i, roundabout j] := rfl
  have hfoundi := found_roundabout (s := twice i j) rfl hi
  have hfoundj := found_roundabout (s := twice i j) rfl hj
  have hkept : [lonePath i, lonePath j].filter (fun p => !(twice i j).excluded p)
      = [lonePath i, lonePath j] := by
    refine List.filter_eq_self.2 fun p hp => ?_
    obtain ⟨n, rfl⟩ : ∃ n, p = lonePath n := by
      rcases List.mem_cons.1 hp with rfl | hp
      · exact ⟨i, rfl⟩
      · exact ⟨j, List.mem_singleton.1 hp⟩
    rw [excluded_lonePath]
    rfl
  simp only [files, hincludes, List.mapM_cons, List.mapM_nil, hfoundi, hfoundj, bind, Except.bind,
    pure, Except.pure, List.flatten_cons, List.flatten_nil, List.singleton_append, hkept,
    arrange_pair hsame]

lemma respelled_lonePath (n : Nat) : Respelled lone (lonePath 0) (lonePath n) := by
  refine ⟨rfl, ?_, (components_lonePath n).symm, fun m hm hnone => ?_⟩
  · rw [← join_lonePath]
    exact Path.isAbsolute_join (isAbsolute_dotted n)
  · obtain ⟨ss, hpieces, -⟩ :=
      Path.pieces_join (isAbsolute_dotted n) (Path.isAbsolute_ofNames isFileName_lone)
    rw [← join_lonePath, hpieces, Path.pieces_ofNames isFileName_lone (List.cons_ne_nil _ _),
      ← List.cons_append, List.getLast?_concat] at hm
    cases hm
    cases hnone

lemma read_lonePath (n : Nat) : lone.read [] (lonePath n)
    = if Files.maxPath ≤ 2 * n + 17 then .error .nameTooLong else .ok "\x7b\x7d" := by
  have hread : lone.read [] (lonePath 0) = .ok "\x7b\x7d" :=
    Files.read_text (q := ["r", "m.symbols.json"]) rfl rfl
  have hsize : (lonePath n).text.utf8ByteSize = 2 * n + 17 := by
    have hslash : "/".utf8ByteSize = 1 := rfl
    have hname : "m.symbols.json".utf8ByteSize = 14 := rfl
    rw [lonePath, String.utf8ByteSize_append, String.utf8ByteSize_append, utf8ByteSize_dotted_r,
      hslash, hname]
  rw [(respelled_lonePath n).read hread, hsize]

end Search

namespace NotNull

open Search

/-- The convention on what the search discovers. -/
def lonely (i j : Nat) : Analyzer where
  linter := linter {}
  search := twice i j

lemma reordered_twice (i j : Nat) : (twice i j).Reordered (twice j i) := by
  refine ⟨rfl, fun pattern => ?_, rfl⟩
  change pattern ∈ [roundabout i, roundabout j] ↔ pattern ∈ [roundabout j, roundabout i]
  simp only [List.mem_cons, List.not_mem_nil, or_false]
  exact or_comm

lemma result_lonely_short {i j : Nat} (hi : 2 * i + 17 < Files.maxPath)
    (hj : 2 * j + 2 < Files.maxPath) : ∃ r, ((lonely i j).run lone []).result = .ok r := by
  have hfiles : (lonely i j).search.files lone = .ok [lonePath i] := files_twice (by omega) hj
  have hread := read_lonePath i
  rw [if_neg (Nat.not_le.2 hi)] at hread
  obtain ⟨m, hm⟩ : ∃ m : Model, Shaped.ofText "\x7b\x7d" = .ok m := ⟨{}, rfl⟩
  exact ⟨_, Analyzer.result_run_one hfiles hread hm⟩

lemma result_lonely_long {i j : Nat} (hi : 2 * i + 2 < Files.maxPath)
    (hlong : Files.maxPath ≤ 2 * i + 17) (hj : 2 * j + 2 < Files.maxPath) :
    ((lonely i j).run lone []).result
      = .error (.model (.unreadable (lonePath i) .nameTooLong)) := by
  have hfiles : (lonely i j).search.files lone = .ok [lonePath i] := files_twice hi hj
  have hread := read_lonePath i
  rw [if_pos hlong] at hread
  have hload : Model.load lone [] (lonePath i)
      = .error (.unreadable (lonePath i) .nameTooLong) := by
    simp only [Model.load, hread]
  rw [Analyzer.result_run hfiles]
  simp [Analyzer.checkAll, hload, Except.map]

/-- With a way of one point, both orders come to the same report, from different spellings. -/
theorem run_of_reordered_point :
    (lonely 1 0).search.Reordered (lonely 0 1).search
      ∧ (lonely 1 0).search.files lone = .ok [lonePath 1]
      ∧ (lonely 0 1).search.files lone = .ok [lonePath 0]
      ∧ lonePath 1 ≠ lonePath 0 ∧ (lonePath 1).same (lonePath 0) = true
      ∧ ∃ r, ((lonely 1 0).run lone []).result = .ok r
        ∧ ((lonely 0 1).run lone []).result = .ok r := by
  have hone : (lonely 1 0).search.files lone = .ok [lonePath 1] :=
    files_twice (by decide) (by decide)
  have hzero : (lonely 0 1).search.files lone = .ok [lonePath 0] :=
    files_twice (by decide) (by decide)
  obtain ⟨r, hr⟩ := result_lonely_short (i := 1) (j := 0) (by decide) (by decide)
  obtain ⟨-, hruns⟩ := run_of_reordered (a := lonely 1 0) (b := lonely 0 1) rfl rfl rfl rfl
    (reordered_twice 1 0) lone []
  obtain ⟨-, -, hpaths, hsame, -⟩ := hruns _ _ hone hzero
  refine ⟨reordered_twice 1 0, hone, hzero, by decide +kernel, ?_, r, hr, ?_⟩
  · obtain ⟨hpath, -⟩ := List.forall₂_cons.1 hpaths
    exact hpath.1
  · refine (hsame r hr).resolve_right ?_
    rintro ⟨q, hq, hlong, -⟩
    rw [List.mem_singleton.1 hq] at hlong
    exact absurd hlong (by decide +kernel)

/-- On a way of many points, one order comes to a report, and the other one does not. -/
theorem run_lonely_points :
    (lonely 2040 0).search.Reordered (lonely 0 2040).search
      ∧ ((lonely 2040 0).run lone []).result
        = .error (.model (.unreadable (lonePath 2040) .nameTooLong))
      ∧ ∃ r, ((lonely 0 2040).run lone []).result = .ok r :=
  ⟨reordered_twice 2040 0, result_lonely_long (by decide) (by decide) (by decide),
    result_lonely_short (by decide) (by decide)⟩

end NotNull
end NotNullLint
