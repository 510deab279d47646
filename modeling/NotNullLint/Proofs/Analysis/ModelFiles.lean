import NotNullLint.Analysis.Run
import NotNullLint.Proofs.Except
import NotNullLint.Proofs.Files.Folder
import NotNullLint.Proofs.Json.RoundTrip
import NotNullLint.Proofs.Report.Order
import NotNullLint.Rule.Catalog

/-!
Checking all model files below a root, said without the loop.

As long as no rule asks to stop, a run comes to the models in the files that hold one, in path
order: their reports put together and sorted once more. A lenient run always ends with that report.
A strict run ends with it if every file holds a model, and else with the first file that holds none.
-/

namespace NotNullLint

/-! ### Files in order -/

namespace Search

lemma dedup_subset (ps : List Path) : dedup ps ⊆ ps := by
  induction ps with
  | nil => exact List.Subset.refl []
  | cons p ps ih =>
    intro q hq
    unfold dedup at hq
    split at hq
    · simp_all
    · rename_i r rs heq
      rw [heq] at ih
      split at hq <;> grind

lemma pairwise_dedup {ps : List Path} (h : ps.Pairwise fun p q => (compare p q).isLE = true) :
    (dedup ps).Pairwise fun p q => compare p q = .lt := by
  induction ps with
  | nil => exact .nil
  | cons p ps ih =>
    obtain ⟨hp, hps⟩ := List.pairwise_cons.1 h
    have hrest := ih hps
    have hsub := dedup_subset ps
    unfold dedup
    split
    · exact List.pairwise_singleton _ _
    · rename_i q qs heq
      rw [heq] at hrest hsub
      obtain ⟨hq, hqs⟩ := List.pairwise_cons.1 hrest
      split
      · rename_i hsame
        have htie : compare p q = .eq := Path.compare_eq_iff.2 (Path.same_iff.1 hsame)
        refine List.pairwise_cons.2 ⟨fun r hr => ?_, hqs⟩
        rw [Std.TransCmp.congr_left htie]
        exact hq r hr
      · rename_i hdiff
        have hle : (compare p q).isLE = true := hp q (hsub List.mem_cons_self)
        have hne : compare p q ≠ .eq := fun htie =>
          hdiff (Path.same_iff.2 (Path.compare_eq_iff.1 htie))
        have hlt : compare p q = .lt := by
          cases hc : compare p q <;> simp_all
        refine List.pairwise_cons.2 ⟨fun r hr => ?_, hrest⟩
        obtain rfl | hr := List.mem_cons.1 hr
        · exact hlt
        · exact Std.TransCmp.lt_trans hlt (hq r hr)

lemma pairwise_arrange (ps : List Path) :
    (arrange ps).Pairwise fun p q => compare p q = .lt :=
  pairwise_dedup (List.pairwise_mergeSort (fun _ _ _ => Std.TransCmp.isLE_trans) isLE_total _)

/-- Discovered files are in path order, none of them twice. -/
theorem pairwise_files {s : Search} {f : Files} {ps : List Path} (h : s.files f = .ok ps) :
    ps.Pairwise fun p q => compare p q = .lt := by
  unfold files at h
  obtain ⟨lists, -, hps⟩ := Except.bind_eq_ok_iff.1 h
  rw [← Except.ok.inj hps]
  exact pairwise_arrange _

lemma mem_of_mem_arrange {ps : List Path} {p : Path} (hp : p ∈ arrange ps) : p ∈ ps :=
  List.mem_mergeSort.1 (dedup_subset _ hp)

/-- What is discovered has been found by a pattern and is not excluded. -/
lemma found_of_mem_files {s : Search} {f : Files} {ps : List Path} {p : Path}
    (h : s.files f = .ok ps) (hp : p ∈ ps) :
    (∃ lists, s.includes.mapM (s.found f) = .ok lists ∧ p ∈ lists.flatten)
      ∧ s.excluded p = false := by
  unfold files at h
  obtain ⟨lists, hlists, hps⟩ := Except.bind_eq_ok_iff.1 h
  rw [← Except.ok.inj hps] at hp
  obtain ⟨hfound, hkept⟩ := List.mem_filter.1 (mem_of_mem_arrange hp)
  exact ⟨⟨lists, hlists, hfound⟩, by simpa using hkept⟩

lemma dedup_of_pairwise {ps : List Path} (h : ps.Pairwise fun p q => compare p q = .lt) :
    dedup ps = ps := by
  induction ps with
  | nil => rfl
  | cons p ps ih =>
    obtain ⟨hp, hps⟩ := List.pairwise_cons.1 h
    rw [dedup, ih hps]
    cases ps with
    | nil => rfl
    | cons q qs =>
      have hdiff : ¬p.same q = true := fun hsame => by
        have htie := Path.compare_eq_iff.2 (Path.same_iff.1 hsame)
        rw [hp q List.mem_cons_self] at htie
        cases htie
      simp only [hdiff, if_false, Bool.false_eq_true]

/-- Paths in order stay as they are. -/
lemma arrange_of_pairwise {ps : List Path} (h : ps.Pairwise fun p q => compare p q = .lt) :
    arrange ps = ps := by
  have hle : ps.Pairwise fun p q => (compare p q).isLE = true :=
    h.imp fun hlt => Ordering.isLE_of_eq_lt hlt
  rw [arrange, List.mergeSort_of_pairwise hle, dedup_of_pairwise h]

/-- What a single pattern finds, if it finds it in order. -/
lemma files_of_found {s : Search} {f : Files} {pattern : String} {ps : List Path}
    (hincludes : s.includes = [pattern]) (hfound : s.found f pattern = .ok ps)
    (horder : ps.Pairwise fun p q => compare p q = .lt) :
    s.files f = .ok (ps.filter fun p => !s.excluded p) := by
  have harranged := arrange_of_pairwise (horder.filter fun p => !s.excluded p)
  simp only [files, hincludes, List.mapM_cons, List.mapM_nil, hfound, bind, Except.bind, pure,
    Except.pure, List.flatten_cons, List.flatten_nil, List.append_nil, harranged]

end Search

/-! ### What the files hold -/

namespace Report

lemma append_empty (r : Report) : r ++ ({} : Report) = r := by
  change append r {} = r
  simp only [append, List.append_nil, UInt64.add_zero]

lemma append_assoc (a b c : Report) : a ++ b ++ c = a ++ (b ++ c) := by
  change append (append a b) c = append a (append b c)
  simp only [append, List.append_assoc, UInt64.add_assoc]

end Report

namespace Linter

/-- The reports on some models, one after the other. -/
def gathered (l : Linter) (ms : List (Path × Model)) : Report :=
  ms.foldr (fun x r => l.check x.1 x.2 ++ r) {}

/-- The report on some models: their findings in order, how many models there are, and all methods
that were checked in them. -/
def merged (l : Linter) (ms : List (Path × Model)) : Report where
  violations := (ms.flatMap fun x => (l.check x.1 x.2).violations).mergeSort Violation.notAfter
  filesChecked := ms.length.toUInt64
  methodsChecked := ms.foldr (fun x n => (l.check x.1 x.2).methodsChecked + n) 0

@[simp] lemma gathered_cons (l : Linter) (x : Path × Model) (ms : List (Path × Model)) :
    l.gathered (x :: ms) = l.check x.1 x.2 ++ l.gathered ms := rfl

lemma violations_gathered (l : Linter) (ms : List (Path × Model)) :
    (l.gathered ms).violations = ms.flatMap fun x => (l.check x.1 x.2).violations := by
  induction ms with
  | nil => rfl
  | cons x ms ih => simp [ih]

lemma filesChecked_gathered (l : Linter) (ms : List (Path × Model)) :
    (l.gathered ms).filesChecked = ms.length.toUInt64 := by
  induction ms with
  | nil => rfl
  | cons x ms ih =>
    have hone : (l.check x.1 x.2).filesChecked = 1 := rfl
    rw [gathered_cons, Report.filesChecked_append, hone, ih, List.length_cons, UInt64.add_comm]
    exact (UInt64.ofNat_add ms.length 1).symm

lemma methodsChecked_gathered (l : Linter) (ms : List (Path × Model)) :
    (l.gathered ms).methodsChecked
      = ms.foldr (fun x n => (l.check x.1 x.2).methodsChecked + n) 0 := by
  induction ms with
  | nil => rfl
  | cons x ms ih => simp [ih]

lemma sort_gathered (l : Linter) (ms : List (Path × Model)) :
    (l.gathered ms).sort = l.merged ms := by
  simp only [Report.sort, merged, violations_gathered, filesChecked_gathered,
    methodsChecked_gathered]

end Linter

/-- The text holds a model. -/
def HoldsModel (text : String) : Prop := ∃ m : Model, Shaped.ofText text = .ok m

/-- The models in the files that hold one, with their paths, in the order of the files. -/
def modelsIn (text : Path → String) (ps : List Path) : List (Path × Model) :=
  ps.filterMap fun p => (Shaped.ofText (text p)).toOption.map fun m => (p, m)

lemma modelsIn_cons_ok {text : Path → String} {p : Path} {m : Model}
    (h : Shaped.ofText (text p) = .ok m) (ps : List Path) :
    modelsIn text (p :: ps) = (p, m) :: modelsIn text ps := by
  simp [modelsIn, h, Except.toOption]

lemma modelsIn_cons_error {text : Path → String} {p : Path} {what : String}
    (h : Shaped.ofText (α := Model) (text p) = .error what) (ps : List Path) :
    modelsIn text (p :: ps) = modelsIn text ps := by
  simp [modelsIn, h, Except.toOption]

/-- A model as the content of a file. -/
def Model.written (m : Model) : ByteArray := (Shaped.toJson m).toText.toUTF8

/-- A model that was written is loaded. -/
lemma Model.load_written {f : Files} {here q : Place} {p : Path} {m : Model}
    (hp : f.resolve here p = .ok q) (hfile : f.node? q = some (.file m.written)) :
    Model.load f here p = .ok m := by
  have hread : f.read here p = .ok (Shaped.toJson m).toText := Files.read_text hp hfile
  have hlossless : (Shaped.shape Model).lossless = true := by decide
  simp only [Model.load, hread, Shaped.ofText_toText hlossless]

namespace Outcome

@[simp] lemma result_after (events : List Log.Event) (o : Outcome) :
    (o.after events).result = o.result := rfl

@[simp] lemma cancelled_after (events : List Log.Event) (o : Outcome) :
    (o.after events).cancelled = o.cancelled := rfl

end Outcome

namespace Analyzer

variable {a : Analyzer} {f : Files} {here : Place} {text : Path → String}

/-! ### One file -/

lemma load_ok {p : Path} {m : Model} (hread : f.read here p = .ok (text p))
    (h : Shaped.ofText (text p) = .ok m) : Model.load f here p = .ok m := by
  simp only [Model.load, hread, h]

lemma load_malformed {p : Path} {what : String} (hread : f.read here p = .ok (text p))
    (h : Shaped.ofText (α := Model) (text p) = .error what) :
    Model.load f here p = .error (.malformed p what) := by
  simp only [Model.load, hread, h]

/-- Once a rule has asked to stop, that is on record to the end. -/
lemma cancelled_checkAll (load : Path → Except LoadError Model) (sum : Report) (ps : List Path) :
    (a.checkAll load true sum ps).cancelled = true := by
  cases ps <;> rfl

/-- A file with a model adds its report and leaves the rest of the run as it is. -/
lemma checkAll_cons_ok {p : Path} {m : Model} {ps : List Path} {sum : Report}
    {load : Path → Except LoadError Model} (hload : load p = .ok m)
    (hquiet : (a.checkAll load false sum (p :: ps)).cancelled = false) :
    (a.checkAll load false (sum ++ a.linter.check p m) ps).cancelled = false
      ∧ (a.checkAll load false sum (p :: ps)).result
        = (a.checkAll load false (sum ++ a.linter.check p m) ps).result := by
  simp only [checkAll, Bool.false_eq_true, if_false, hload, Outcome.cancelled_after,
    Outcome.result_after] at hquiet ⊢
  cases hstop : a.linter.cancels p m with
  | true => rw [hstop, cancelled_checkAll] at hquiet; cases hquiet
  | false => rw [hstop] at hquiet; exact ⟨hquiet, rfl⟩

/-- A file without a model changes nothing in a lenient run. -/
lemma checkAll_cons_malformed {p path : Path} {what : String} {ps : List Path} {sum : Report}
    {load : Path → Except LoadError Model} (hload : load p = .error (.malformed path what))
    (hlenient : a.strict = false) :
    (a.checkAll load false sum (p :: ps)).cancelled = (a.checkAll load false sum ps).cancelled
      ∧ (a.checkAll load false sum (p :: ps)).result = (a.checkAll load false sum ps).result := by
  simp [checkAll, hload, hlenient]

/-- A file without a model ends a strict run. -/
lemma checkAll_cons_strict {p path : Path} {what : String} {ps : List Path} {sum : Report}
    {load : Path → Except LoadError Model} (hload : load p = .error (.malformed path what))
    (hstrict : a.strict = true) :
    (a.checkAll load false sum (p :: ps)).result = .error (.model (.malformed path what)) := by
  simp [checkAll, hload, hstrict]

/-! ### All files -/

/-- A run that no file ends gathers the reports on the models that there are. -/
theorem result_checkAll_gathered {ps : List Path} {sum : Report}
    (htext : ∀ p ∈ ps, f.read here p = .ok (text p))
    (hgoes : a.strict = false ∨ ∀ p ∈ ps, HoldsModel (text p))
    (hquiet : (a.checkAll (Model.load f here) false sum ps).cancelled = false) :
    (a.checkAll (Model.load f here) false sum ps).result
      = .ok (sum ++ a.linter.gathered (modelsIn text ps)) := by
  induction ps generalizing sum with
  | nil =>
    change Except.ok sum = .ok (sum ++ ({} : Report))
    rw [Report.append_empty]
  | cons p ps ih =>
    have hread := htext p List.mem_cons_self
    have hrest : ∀ q ∈ ps, f.read here q = .ok (text q) := fun q hq =>
      htext q (List.mem_cons_of_mem p hq)
    have hgoesRest : a.strict = false ∨ ∀ q ∈ ps, HoldsModel (text q) :=
      hgoes.imp_right fun h q hq => h q (List.mem_cons_of_mem p hq)
    cases hm : Shaped.ofText (α := Model) (text p) with
    | ok m =>
      obtain ⟨hnext, hresult⟩ := checkAll_cons_ok (load_ok hread hm) hquiet
      rw [hresult, ih hrest hgoesRest hnext, modelsIn_cons_ok hm, Linter.gathered_cons,
        Report.append_assoc]
    | error what =>
      -- only a lenient run gets past this file
      have hlenient : a.strict = false := by
        refine hgoes.resolve_right fun h => ?_
        obtain ⟨m, hok⟩ := h p List.mem_cons_self
        rw [hm] at hok
        cases hok
      obtain ⟨hcancelled, hresult⟩ := checkAll_cons_malformed (load_malformed hread hm) hlenient
      rw [hresult, ih hrest hgoesRest (hcancelled ▸ hquiet), modelsIn_cons_error hm]

/-- A strict run ends with the first file that holds no model. -/
theorem result_checkAll_first {before after : List Path} {p : Path} {what : String} {sum : Report}
    (htext : ∀ q ∈ before ++ p :: after, f.read here q = .ok (text q))
    (hbefore : ∀ q ∈ before, HoldsModel (text q))
    (hp : Shaped.ofText (α := Model) (text p) = .error what) (hstrict : a.strict = true)
    (hquiet : (a.checkAll (Model.load f here) false sum (before ++ p :: after)).cancelled = false) :
    (a.checkAll (Model.load f here) false sum (before ++ p :: after)).result
      = .error (.model (.malformed p what)) := by
  induction before generalizing sum with
  | nil =>
    have hread := htext p (by simp)
    exact checkAll_cons_strict (load_malformed hread hp) hstrict
  | cons q before ih =>
    have hread := htext q (by simp)
    obtain ⟨m, hm⟩ := hbefore q List.mem_cons_self
    rw [List.cons_append] at hquiet ⊢
    obtain ⟨hnext, hresult⟩ := checkAll_cons_ok (load_ok hread hm) hquiet
    rw [hresult]
    exact ih (fun r hr => htext r (List.mem_cons_of_mem q hr))
      (fun r hr => hbefore r (List.mem_cons_of_mem q hr)) hnext

/-- The files up to the first that holds no model. -/
lemma exists_first_malformed {ps : List Path} (h : ¬∀ p ∈ ps, HoldsModel (text p)) :
    ∃ before p after what, ps = before ++ p :: after ∧ (∀ q ∈ before, HoldsModel (text q))
      ∧ Shaped.ofText (α := Model) (text p) = .error what := by
  induction ps with
  | nil => exact absurd (by simp) h
  | cons p ps ih =>
    cases hm : Shaped.ofText (α := Model) (text p) with
    | error what => exact ⟨[], p, ps, what, rfl, by simp, hm⟩
    | ok m =>
      have hp : HoldsModel (text p) := ⟨m, hm⟩
      obtain ⟨before, q, after, what, rfl, hbefore, hq⟩ :=
        ih fun hall => h fun q hq => (List.mem_cons.1 hq).elim (fun e => e ▸ hp) (hall q)
      refine ⟨p :: before, q, after, what, rfl, fun r hr => ?_, hq⟩
      exact (List.mem_cons.1 hr).elim (fun e => e ▸ hp) (hbefore r)

/-! ### A whole run -/

lemma result_finish (o : Outcome) : (finish o).result = o.result.map Report.sort := by
  obtain ⟨_ | r, _, _⟩ := o <;> rfl

lemma cancelled_finish (o : Outcome) : (finish o).cancelled = o.cancelled := by
  obtain ⟨_ | r, _, _⟩ := o <;> rfl

lemma result_run {ps : List Path} (hfiles : a.search.files f = .ok ps) :
    (a.run f here).result
      = (a.checkAll (Model.load f here) false {} ps).result.map Report.sort := by
  simp only [run, hfiles, Outcome.result_after, result_finish]

lemma cancelled_run {ps : List Path} (hfiles : a.search.files f = .ok ps) :
    (a.run f here).cancelled = (a.checkAll (Model.load f here) false {} ps).cancelled := by
  simp only [run, hfiles, Outcome.cancelled_after, cancelled_finish]

/-- A run on one model ends with the report on it. -/
lemma result_run_one {p : Path} {s : String} {m : Model} (hfiles : a.search.files f = .ok [p])
    (hread : f.read here p = .ok s) (hm : Shaped.ofText s = .ok m) :
    (a.run f here).result = .ok (({} : Report) ++ a.linter.check p m).sort := by
  have hload : Model.load f here p = .ok m := by simp only [Model.load, hread, hm]
  rw [result_run hfiles]
  simp only [checkAll, hload, Bool.false_eq_true, if_false, Outcome.result_after, Except.map]

/-- **What a run comes to.** As long as no rule asks to stop, a lenient run ends with the report on
the models that the discovered files hold; so does a strict run if all of them hold one, and else it
ends with the first file in path order that holds none. -/
theorem result_run_of_files {ps : List Path} (hfiles : a.search.files f = .ok ps)
    (htext : ∀ p ∈ ps, f.read here p = .ok (text p))
    (hquiet : (a.run f here).cancelled = false) :
    ps.Pairwise (fun p q => compare p q = .lt)
    ∧ (a.strict = false →
      (a.run f here).result = .ok (a.linter.merged (modelsIn text ps)))
    ∧ (a.strict = true → (∀ p ∈ ps, HoldsModel (text p)) →
      (a.run f here).result = .ok (a.linter.merged (modelsIn text ps)))
    ∧ (a.strict = true → ¬(∀ p ∈ ps, HoldsModel (text p)) →
      ∃ p ∈ ps, ∃ what, Shaped.ofText (α := Model) (text p) = .error what
        ∧ (∀ q ∈ ps, compare q p = .lt → HoldsModel (text q))
        ∧ (a.run f here).result = .error (.model (.malformed p what))) := by
  have horder := Search.pairwise_files hfiles
  rw [cancelled_run hfiles] at hquiet
  have hmerged (hgoes : a.strict = false ∨ ∀ p ∈ ps, HoldsModel (text p)) :
      (a.run f here).result = .ok (a.linter.merged (modelsIn text ps)) := by
    rw [result_run hfiles, result_checkAll_gathered htext hgoes hquiet, Report.empty_append,
      ← Linter.sort_gathered]
    rfl
  refine ⟨horder, fun h => hmerged (.inl h), fun _ h => hmerged (.inr h), fun hstrict hbad => ?_⟩
  obtain ⟨before, p, after, what, rfl, hbefore, hp⟩ := exists_first_malformed hbad
  refine ⟨p, by simp, what, hp, fun q hq hlt => ?_, ?_⟩
  · -- what comes before in path order comes before in the list
    obtain ⟨-, hafter, -⟩ := List.pairwise_append.1 horder
    obtain hq | hq := List.mem_append.1 hq
    · exact hbefore q hq
    · obtain rfl | hq := List.mem_cons.1 hq
      · have hself : compare q q = .eq := Std.ReflCmp.compare_self
        rw [hself] at hlt
        cases hlt
      · have hgt := (List.pairwise_cons.1 hafter).1 q hq
        have hswap : compare p q = (compare q p).swap := Std.OrientedCmp.eq_swap
        rw [hswap, hlt] at hgt
        cases hgt
  · rw [result_run hfiles, result_checkAll_first htext hbefore hp hstrict hquiet]
    rfl

/-! ### A run that ends early -/

/-- A model, and two files that hold none. -/
def threeFiles : Files where
  entries := [(["w"], .folder),
    (["w", "a.symbols.json"], .file "\x7b\"assembly\": \"IronPython\"\x7d".toUTF8),
    (["w", "b.symbols.json"], .file "[".toUTF8),
    (["w", "c.symbols.json"], .file "".toUTF8)]
  sorted := by decide
  named := by decide
  closed := by decide

def threePaths : List Path :=
  [⟨"/w/a.symbols.json"⟩, ⟨"/w/b.symbols.json"⟩, ⟨"/w/c.symbols.json"⟩]

def threeTexts (p : Path) : String :=
  if p.text = "/w/a.symbols.json" then "\x7b\"assembly\": \"IronPython\"\x7d"
  else if p.text = "/w/b.symbols.json" then "[" else ""

/-- A strict run with all rules of the catalog. -/
def strictRun : Analyzer where
  linter := { rules := Catalog.rules }
  search := { root := ⟨"/w"⟩, includes := ["*.symbols.json"], excludes := [] }
  strict := true

lemma files_strictRun : strictRun.search.files threeFiles = .ok threePaths := by
  have hfound : strictRun.search.found threeFiles "*.symbols.json" = .ok threePaths :=
    Except.toOption_eq_some_iff.1 (by decide +kernel)
  exact Search.files_of_found rfl hfound (by decide)

/-- The run ends with a file that holds no model, and no such file comes before it. -/
theorem result_run_of_threeFiles :
    strictRun.search.files threeFiles = .ok threePaths
      ∧ (∀ p ∈ threePaths, threeFiles.read [] p = .ok (threeTexts p))
      ∧ (strictRun.run threeFiles []).cancelled = false
      ∧ ∃ p ∈ threePaths, ∃ what, Shaped.ofText (α := Model) (threeTexts p) = .error what
        ∧ (∀ q ∈ threePaths, compare q p = .lt → HoldsModel (threeTexts q))
        ∧ (strictRun.run threeFiles []).result = .error (.model (.malformed p what)) := by
  have htext : ∀ p ∈ threePaths, threeFiles.read [] p = .ok (threeTexts p) := by decide +kernel
  have hquiet : (strictRun.run threeFiles []).cancelled = false := by
    rw [cancelled_run files_strictRun]
    decide +kernel
  have hbad : ¬∀ p ∈ threePaths, HoldsModel (threeTexts p) := by
    intro h
    obtain ⟨m, hm⟩ := h ⟨"/w/b.symbols.json"⟩ (by decide)
    have hfault : (Shaped.ofText (α := Model) (threeTexts ⟨"/w/b.symbols.json"⟩)).isOk = false := by
      decide +kernel
    rw [hm] at hfault
    cases hfault
  exact ⟨files_strictRun, htext, hquiet,
    (result_run_of_files files_strictRun htext hquiet).2.2.2 rfl hbad⟩

end Analyzer
end NotNullLint
