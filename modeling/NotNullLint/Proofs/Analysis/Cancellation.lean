import NotNullLint.Proofs.Analysis.Discovery

/-!
Runs that a rule asks to stop.

A rule asks while it is shown a member, but it is heard between files only. So the model at hand is
checked like any other, the files after it are left alone, whatever they hold, and every later run
of the same analyzer, which finds the wish on record, comes to an empty report.
-/

namespace NotNullLint

namespace Linter

/-- A rule that runs is shown every member that it admits. -/
lemma mem_visits {l : Linter} {path : Path} {m : Model} {r : Rule} {x : Member}
    (hr : r ∈ l.rules) (hruns : l.runs r = true) (hx : x ∈ m.members)
    (hadmits : r.admits x = true) : r.visit (context path m) x ∈ l.visits path m := by
  have hactive : r ∈ l.active := List.mem_filter.2 ⟨hr, hruns⟩
  have heligible : x ∈ r.eligible m := List.mem_filter.2 ⟨hx, hadmits⟩
  exact List.mem_map.2 ⟨(r, x), List.mem_flatMap.2 ⟨r, hactive, List.mem_map_of_mem heligible⟩, rfl⟩

end Linter

/-- The models that loading finds, with their paths. -/
def loaded (load : Path → Except LoadError Model) (ps : List Path) : List (Path × Model) :=
  ps.filterMap fun p => (load p).toOption.map fun m => (p, m)

@[simp] lemma loaded_nil (load : Path → Except LoadError Model) : loaded load [] = [] := rfl

lemma loaded_cons_ok {load : Path → Except LoadError Model} {p : Path} {m : Model}
    (h : load p = .ok m) (ps : List Path) : loaded load (p :: ps) = (p, m) :: loaded load ps := by
  simp [loaded, h]

lemma loaded_cons_error {load : Path → Except LoadError Model} {p : Path} {e : LoadError}
    (h : load p = .error e) (ps : List Path) : loaded load (p :: ps) = loaded load ps := by
  simp [loaded, h]

namespace Analyzer

variable {a : Analyzer} {load : Path → Except LoadError Model}

/-- Some rule asks to stop while the model in the file is checked. -/
def stopsAt (a : Analyzer) (load : Path → Except LoadError Model) (p : Path) : Bool :=
  match load p with
  | .ok m => a.linter.cancels p m
  | .error _ => false

/-- The files up to and with the first at which a rule asks to stop. -/
def upToStop (a : Analyzer) (load : Path → Except LoadError Model) (ps : List Path) : List Path :=
  ps.take (ps.findIdx (a.stopsAt load) + 1)

/-- Runs one after the other, each on the files as they are then; what rules have asked for stays
on record. -/
def session (a : Analyzer) (here : Place) : Bool → List Files → List Outcome
  | _, [] => []
  | cancelled, f :: fs =>
    let o := a.run f here cancelled
    o :: session a here o.cancelled fs

/-! ### Where a run stops -/

@[simp] lemma upToStop_nil : a.upToStop load [] = [] := rfl

lemma upToStop_cons_stop {p : Path} (h : a.stopsAt load p = true) (ps : List Path) :
    a.upToStop load (p :: ps) = [p] := by
  simp [upToStop, List.findIdx_cons, h]

lemma upToStop_cons_go {p : Path} (h : a.stopsAt load p = false) (ps : List Path) :
    a.upToStop load (p :: ps) = p :: a.upToStop load ps := by
  simp [upToStop, List.findIdx_cons, h]

lemma stopsAt_of_ok {p : Path} {m : Model} (h : load p = .ok m) :
    a.stopsAt load p = a.linter.cancels p m := by
  simp only [stopsAt, h]

lemma stopsAt_of_error {p : Path} {e : LoadError} (h : load p = .error e) :
    a.stopsAt load p = false := by
  simp only [stopsAt, h]

/-- Once a rule has asked to stop, nothing is added. -/
lemma result_checkAll_cancelled (sum : Report) (ps : List Path) :
    (a.checkAll load true sum ps).result = .ok sum := by
  cases ps <;> rfl

/-- What a run comes to, whatever was told on the way. -/
def ending (o : Outcome) : Except RunError Report × Bool := (o.result, o.cancelled)

@[simp] lemma ending_after (events : List Log.Event) (o : Outcome) :
    ending (o.after events) = ending o := rfl

lemma ending_checkAll_cancelled (sum : Report) (ps : List Path) :
    ending (a.checkAll load true sum ps) = (.ok sum, true) :=
  Prod.ext (result_checkAll_cancelled sum ps) (cancelled_checkAll load sum ps)

lemma ending_checkAll_cons_ok {p : Path} {m : Model} (h : load p = .ok m) (sum : Report)
    (ps : List Path) : ending (a.checkAll load false sum (p :: ps))
      = ending (a.checkAll load (a.linter.cancels p m) (sum ++ a.linter.check p m) ps) := by
  simp only [checkAll, Bool.false_eq_true, if_false, h, ending_after]

/-- A file that ends the run, and with what. -/
def failure? (a : Analyzer) : LoadError → Option RunError
  | .malformed path what => if a.strict then some (.model (.malformed path what)) else none
  | e => some (.model e)

lemma ending_checkAll_cons_error {p : Path} {e : LoadError} (h : load p = .error e) (sum : Report)
    (ps : List Path) : ending (a.checkAll load false sum (p :: ps))
      = match a.failure? e with
        | some failure => (.error failure, false)
        | none => ending (a.checkAll load false sum ps) := by
  cases e with
  | unreadable path cause => simp [checkAll, h, failure?, ending]
  | malformed path what =>
    cases hs : a.strict with
    | true => simp [checkAll, h, failure?, hs, ending]
    | false => simp [checkAll, h, failure?, hs]

/-- **The files after the stop are left alone.** -/
theorem ending_checkAll_upToStop (load : Path → Except LoadError Model) (sum : Report)
    (ps : List Path) :
    ending (a.checkAll load false sum ps)
      = ending (a.checkAll load false sum (a.upToStop load ps)) := by
  induction ps generalizing sum with
  | nil => rfl
  | cons p ps ih =>
    cases hload : load p with
    | ok m =>
      have hstop := stopsAt_of_ok (a := a) hload
      cases hcancels : a.linter.cancels p m with
      | true =>
        rw [upToStop_cons_stop (hstop.trans hcancels), ending_checkAll_cons_ok hload,
          ending_checkAll_cons_ok hload, hcancels, ending_checkAll_cancelled,
          ending_checkAll_cancelled]
      | false =>
        rw [upToStop_cons_go (hstop.trans hcancels), ending_checkAll_cons_ok hload,
          ending_checkAll_cons_ok hload, hcancels]
        exact ih _
    | error e =>
      rw [upToStop_cons_go (stopsAt_of_error hload), ending_checkAll_cons_error hload,
        ending_checkAll_cons_error hload]
      cases a.failure? e with
      | some failure => rfl
      | none => exact ih _

/-- A run that does not fail gathers the models up to the stop, and has the stop on record. -/
theorem ending_checkAll_of_ok {sum r : Report} {cancelled : Bool} {ps : List Path}
    (h : ending (a.checkAll load false sum ps) = (.ok r, cancelled)) :
    r = sum ++ a.linter.gathered (loaded load (a.upToStop load ps))
      ∧ cancelled = ps.any (a.stopsAt load) := by
  induction ps generalizing sum with
  | nil =>
    cases h
    exact ⟨(Report.append_empty _).symm, rfl⟩
  | cons p ps ih =>
    cases hload : load p with
    | ok m =>
      have hstop := stopsAt_of_ok (a := a) hload
      rw [ending_checkAll_cons_ok hload] at h
      cases hcancels : a.linter.cancels p m with
      | true =>
        rw [hcancels, ending_checkAll_cancelled] at h
        cases h
        rw [upToStop_cons_stop (hstop.trans hcancels), loaded_cons_ok hload, List.any_cons, hstop,
          hcancels]
        exact ⟨congrArg _ (Report.append_empty _).symm, rfl⟩
      | false =>
        rw [hcancels] at h
        obtain ⟨hr, hflag⟩ := ih h
        rw [upToStop_cons_go (hstop.trans hcancels), loaded_cons_ok hload, Linter.gathered_cons,
          ← Report.append_assoc, List.any_cons, hstop, hcancels]
        exact ⟨hr, hflag⟩
    | error e =>
      rw [ending_checkAll_cons_error hload] at h
      rw [upToStop_cons_go (stopsAt_of_error hload), loaded_cons_error hload, List.any_cons,
        stopsAt_of_error hload, Bool.false_or]
      cases hfailure : a.failure? e with
      | some failure =>
        rw [hfailure] at h
        cases h
      | none =>
        rw [hfailure] at h
        exact ih h

/-- Only what is loaded counts. -/
lemma checkAll_congr {b : Analyzer} {load' : Path → Except LoadError Model} {cancelled : Bool}
    {sum : Report} {ps : List Path} (hlinter : b.linter = a.linter) (hstrict : b.strict = a.strict)
    (hload : ∀ p ∈ ps, load' p = load p) :
    b.checkAll load' cancelled sum ps = a.checkAll load cancelled sum ps := by
  induction ps generalizing cancelled sum with
  | nil => rfl
  | cons p ps ih =>
    have hrest (c : Bool) (s : Report) :
        b.checkAll load' c s ps = a.checkAll load c s ps :=
      ih fun q hq => hload q (List.mem_cons_of_mem p hq)
    simp only [checkAll, hload p List.mem_cons_self, hlinter, hstrict, hrest]

lemma upToStop_congr {load' : Path → Except LoadError Model} {ps : List Path}
    (hload : ∀ p ∈ a.upToStop load ps, load' p = load p) :
    a.upToStop load' ps = a.upToStop load ps := by
  induction ps with
  | nil => rfl
  | cons p ps ih =>
    cases hstop : a.stopsAt load p with
    | true =>
      rw [upToStop_cons_stop hstop] at hload ⊢
      have hp : a.stopsAt load' p = true := by
        rw [stopsAt, hload p List.mem_cons_self]
        exact hstop
      exact upToStop_cons_stop hp ps
    | false =>
      rw [upToStop_cons_go hstop] at hload ⊢
      have hp : a.stopsAt load' p = false := by
        rw [stopsAt, hload p List.mem_cons_self]
        exact hstop
      rw [upToStop_cons_go hp, ih fun q hq => hload q (List.mem_cons_of_mem p hq)]

/-! ### Whole runs -/

lemma ending_run {f : Files} {here : Place} {cancelled : Bool} {ps : List Path}
    (hfiles : a.search.files f = .ok ps) :
    ending (a.run f here cancelled)
      = ((a.checkAll (Model.load f here) cancelled {} ps).result.map Report.sort,
        (a.checkAll (Model.load f here) cancelled {} ps).cancelled) := by
  simp only [run, hfiles, ending_after]
  exact Prod.ext (result_finish _) (cancelled_finish _)

/-- A run that finds the wish to stop on record comes to nothing, and leaves it there. -/
lemma ending_run_cancelled {f : Files} {here : Place} {ps : List Path}
    (hfiles : a.search.files f = .ok ps) :
    ending (a.run f here true) = (.ok {}, true) := by
  rw [ending_run hfiles, result_checkAll_cancelled, cancelled_checkAll]
  simp [Except.map, Report.sort]

lemma cancelled_checkAll_of_never (h : ∀ p m, a.linter.cancels p m = false) (sum : Report)
    (ps : List Path) : (ending (a.checkAll load false sum ps)).2 = false := by
  induction ps generalizing sum with
  | nil => rfl
  | cons p ps ih =>
    cases hload : load p with
    | ok m =>
      rw [ending_checkAll_cons_ok hload, h]
      exact ih _
    | error e =>
      rw [ending_checkAll_cons_error hload]
      cases a.failure? e with
      | some failure => rfl
      | none => exact ih _

/-- As long as no rule ever asks to stop, no run has a stop on record. -/
lemma cancelled_run_of_never {f : Files} {here : Place} (h : ∀ p m, a.linter.cancels p m = false) :
    (a.run f here).cancelled = false := by
  cases hfiles : a.search.files f with
  | error e => simp only [run, hfiles]
  | ok ps =>
    rw [cancelled_run hfiles]
    exact cancelled_checkAll_of_never h {} ps

lemma cancelled_run_true (f : Files) (here : Place) : (a.run f here true).cancelled = true := by
  cases hfiles : a.search.files f with
  | error e => simp only [run, hfiles]
  | ok ps => exact congrArg Prod.snd (ending_run_cancelled hfiles)

/-- The wish to stop stays on record from run to run. -/
lemma session_cancelled {here : Place} {fs : List Files} :
    ∀ x ∈ fs.zip (a.session here true fs), x.2.cancelled = true
      ∧ ∀ qs, a.search.files x.1 = .ok qs → x.2.result = .ok {} := by
  induction fs with
  | nil => simp
  | cons f fs ih =>
    intro x hx
    simp only [session, cancelled_run_true, List.zip_cons_cons, List.mem_cons] at hx
    obtain rfl | hx := hx
    · exact ⟨cancelled_run_true f here, fun qs hqs =>
        congrArg Prod.fst (ending_run_cancelled hqs)⟩
    · exact ih x hx

/-- Up to a stop that is reached, files after it make no difference. -/
lemma upToStop_append {ps : List Path} (h : ps.any (a.stopsAt load) = true) (more : List Path) :
    a.upToStop load (a.upToStop load ps ++ more) = a.upToStop load ps := by
  induction ps with
  | nil => cases h
  | cons p ps ih =>
    cases hstop : a.stopsAt load p with
    | true =>
      rw [upToStop_cons_stop hstop]
      exact upToStop_cons_stop hstop more
    | false =>
      rw [List.any_cons, hstop, Bool.false_or] at h
      rw [upToStop_cons_go hstop, List.cons_append, upToStop_cons_go hstop, ih h]

/-- A run on the files up to the stop and on whatever others stand after it. -/
lemma ending_run_upToStop {b : Analyzer} {f g : Files} {here there : Place} {ps more : List Path}
    (hfiles : a.search.files f = .ok ps) (hlinter : b.linter = a.linter)
    (hstrict : b.strict = a.strict)
    (hg : b.search.files g = .ok (a.upToStop (Model.load f here) ps ++ more))
    (hload : ∀ p ∈ a.upToStop (Model.load f here) ps, Model.load g there p = Model.load f here p)
    (hmore : more = [] ∨ ps.any (a.stopsAt (Model.load f here)) = true) :
    ending (b.run g there) = ending (a.run f here) := by
  have hcut : ending (a.checkAll (Model.load g there) false {}
        (a.upToStop (Model.load f here) ps ++ more))
      = ending (a.checkAll (Model.load f here) false {} ps) := by
    rw [ending_checkAll_upToStop _ _ ps, ← checkAll_congr rfl rfl hload]
    obtain rfl | hstop := hmore
    · rw [List.append_nil]
    · have happend := upToStop_append hstop more
      rw [ending_checkAll_upToStop, upToStop_congr, happend]
      rw [happend]
      exact hload
  rw [ending_run hg, ending_run hfiles, checkAll_congr hlinter hstrict fun _ _ => rfl]
  exact Prod.ext (congrArg (Except.map Report.sort ·.1) hcut) (congrArg (·.2) hcut)

/-- **A stop is heard after the file, and for good.** Only the files up to the stop count: with
these alone, or with any others after a stop that is reached, a run of the same rules ends the same
way. If it does not fail, its report is the one on all models up to the stop, in each of which every
rule that runs is shown every member that it admits. After a stop, all later runs that find their
files come to an empty report. -/
theorem run_upToStop {f : Files} {here : Place} {ps : List Path}
    (hfiles : a.search.files f = .ok ps) :
    (∀ (b : Analyzer) (g : Files) (there : Place) (more : List Path), b.linter = a.linter →
      b.strict = a.strict →
      b.search.files g = .ok (a.upToStop (Model.load f here) ps ++ more) →
      (∀ p ∈ a.upToStop (Model.load f here) ps, Model.load g there p = Model.load f here p) →
      (more = [] ∨ ps.any (a.stopsAt (Model.load f here)) = true) →
      (b.run g there).result = (a.run f here).result
        ∧ (b.run g there).cancelled = (a.run f here).cancelled)
    ∧ (∀ r, (a.run f here).result = .ok r →
      r = a.linter.merged (loaded (Model.load f here) (a.upToStop (Model.load f here) ps))
      ∧ (∀ x ∈ loaded (Model.load f here) (a.upToStop (Model.load f here) ps),
        ∀ rule ∈ a.linter.rules, a.linter.runs rule = true → ∀ member ∈ x.2.members,
        rule.admits member = true →
        rule.visit (Linter.context x.1 x.2) member ∈ a.linter.visits x.1 x.2)
      ∧ (a.run f here).cancelled = ps.any (a.stopsAt (Model.load f here)))
    ∧ ((a.run f here).cancelled = true → ∀ later : List Files,
      ∀ x ∈ later.zip (a.session here (a.run f here).cancelled later), x.2.cancelled = true
        ∧ ∀ qs, a.search.files x.1 = .ok qs → x.2.result = .ok {}) := by
  refine ⟨fun b g there more hlinter hstrict hg hload hmore => ?_, fun r hr => ?_,
    fun hcancelled later => ?_⟩
  · have hending := ending_run_upToStop hfiles hlinter hstrict hg hload hmore
    exact ⟨congrArg (·.1) hending, congrArg (·.2) hending⟩
  · rw [result_run hfiles] at hr
    obtain ⟨sum, hsum, rfl⟩ := Except.map_eq_ok_iff.1 hr
    obtain ⟨rfl, hstop⟩ := ending_checkAll_of_ok (Prod.ext hsum rfl)
    rw [Report.empty_append, Linter.sort_gathered, cancelled_run hfiles]
    exact ⟨rfl, fun x _ rule hrule hruns member hmember hadmits =>
      Linter.mem_visits hrule hruns hmember hadmits, hstop⟩
  · rw [hcancelled]
    exact session_cancelled

/-! ### A strict run that stops in time -/

/-- A model with one method. -/
def osModel (name : String) : Model where
  types := [{ name := "Os", methods := [{ name }] }]

/-- Two models, and a file that holds none. -/
def stopFiles : Files where
  entries := [(["w"], .folder),
    (["w", "a.symbols.json"], .file (osModel "open").written),
    (["w", "b.symbols.json"], .file (osModel "halt").written),
    (["w", "c.symbols.json"], .file "[".toUTF8)]
  sorted := by decide
  named := by decide
  closed := by decide

/-- A rule that asks to stop when it is shown a method of a certain name. -/
def haltRule : Rule where
  name := "halt"
  descriptors := [NotNull.missing]
  visit _ x := { cancels := x.method.name == "halt" }

def haltingRun : Analyzer where
  linter := { rules := [haltRule] }
  search := { root := ⟨"/w"⟩, includes := ({} : Scope).includes, excludes := [] }
  strict := true

lemma files_haltingRun : haltingRun.search.files stopFiles = .ok threePaths :=
  (Search.standard_w rfl rfl rfl).files_of_modelNames [["a.symbols.json"], ["b.symbols.json"],
    ["c.symbols.json"]] (by decide) rfl

/-- The run stops before the file that would have failed it, and the next run does nothing. -/
theorem run_upToStop_haltingRun :
    haltingRun.search.files stopFiles = .ok threePaths
      ∧ haltingRun.upToStop (Model.load stopFiles []) threePaths
        = [⟨"/w/a.symbols.json"⟩, ⟨"/w/b.symbols.json"⟩]
      ∧ (∃ r, (haltingRun.run stopFiles []).result = .ok r ∧ r.filesChecked = 2)
      ∧ (haltingRun.run stopFiles []).cancelled = true
      ∧ ∀ x ∈ [stopFiles].zip (haltingRun.session [] (haltingRun.run stopFiles []).cancelled
          [stopFiles]), x.2.result = .ok {} := by
  have hopen : Model.load stopFiles [] ⟨"/w/a.symbols.json"⟩ = .ok (osModel "open") :=
    Model.load_written (q := ["w", "a.symbols.json"]) rfl rfl
  have hhalt : Model.load stopFiles [] ⟨"/w/b.symbols.json"⟩ = .ok (osModel "halt") :=
    Model.load_written (q := ["w", "b.symbols.json"]) rfl rfl
  have hgoes : haltingRun.linter.cancels ⟨"/w/a.symbols.json"⟩ (osModel "open") = false := by
    decide +kernel
  have hstops : haltingRun.linter.cancels ⟨"/w/b.symbols.json"⟩ (osModel "halt") = true := by
    decide +kernel
  have hcut : haltingRun.upToStop (Model.load stopFiles []) threePaths
      = [⟨"/w/a.symbols.json"⟩, ⟨"/w/b.symbols.json"⟩] := by
    rw [threePaths, upToStop_cons_go ((stopsAt_of_ok hopen).trans hgoes),
      upToStop_cons_stop ((stopsAt_of_ok hhalt).trans hstops)]
  obtain ⟨r, hcheck⟩ : ∃ r, ending (haltingRun.checkAll (Model.load stopFiles []) false {}
      threePaths) = (.ok r, true) := by
    rw [threePaths, ending_checkAll_cons_ok hopen, hgoes, ending_checkAll_cons_ok hhalt, hstops,
      ending_checkAll_cancelled]
    exact ⟨_, rfl⟩
  obtain ⟨hsum, hflag⟩ := Prod.mk.inj hcheck
  have hresult : (haltingRun.run stopFiles []).result = .ok r.sort := by
    rw [result_run files_haltingRun, hsum, Except.map]
  have hcancelled : (haltingRun.run stopFiles []).cancelled = true := by
    rw [cancelled_run files_haltingRun, hflag]
  obtain ⟨-, hreport, hlater⟩ := @run_upToStop haltingRun stopFiles [] threePaths files_haltingRun
  obtain ⟨hmerged, -⟩ := hreport _ hresult
  refine ⟨files_haltingRun, hcut, ⟨_, hresult, ?_⟩, hcancelled, fun x hx => ?_⟩
  · rw [hmerged, hcut, loaded_cons_ok hopen, loaded_cons_ok hhalt]
    rfl
  · have hnext : x.1 = stopFiles := List.mem_singleton.1 (List.of_mem_zip hx).1
    exact (hlater hcancelled [stopFiles] x hx).2 threePaths (hnext ▸ files_haltingRun)

end Analyzer
end NotNullLint
