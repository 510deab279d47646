import NotNullLint.Proofs.CommandLine.Narrowing
import NotNullLint.Proofs.Config.Effective

/-!
Keys that name nothing.

There is one notion of a key that names a diagnostic: such a key can change what a table says about
the diagnostic, and no other key can. The unknown keys of a table are those that change nothing about
any known diagnostic, so they may be deleted; and among the diagnostics of the catalog, they are the
keys that a list of names is warned about.
-/

namespace NotNullLint
namespace RuleTable

variable {t u : RuleTable} {d : Descriptor} {key : String} {known : List Descriptor}

/-! ### Tables with fewer keys -/

/-- A table without what it says under some keys. -/
def without (t : RuleTable) (ks : List String) : RuleTable where
  entries := t.entries.filter fun e => e.1 ∉ ks
  distinct := t.distinct.sublist (List.filter_sublist.map _)

lemma get?_without (t : RuleTable) (ks : List String) (key : String) :
    (t.without ks).get? key = if key ∈ ks then none else t.get? key := by
  refine Option.ext fun s => ?_
  rw [← mem_entries_iff, without, List.mem_filter, mem_entries_iff]
  split <;> simp_all

/-- The table with a setting under one key only. -/
def single (key : String) (s : Setting) : RuleTable := ⟨[(key, s)], List.nodup_singleton key⟩

lemma settingsFor_single {s : Setting} (h : d.matchesKey key = true) :
    (single key s).settingsFor d = [s] := by
  obtain ⟨r, hr⟩ := Option.ne_none_iff_exists'.1 (rank?_ne_none_iff.2 h)
  simp [settingsFor, single, hr]

lemma isEnabled_single {s : Setting} (h : d.matchesKey key = true) :
    (single key s).isEnabled d = s.enabled.getD d.enabledByDefault := by
  rw [isEnabled, settingsFor_single h, List.findSome?_singleton]

lemma severity_single {s : Setting} (h : d.matchesKey key = true) :
    (single key s).severity d = s.severity.getD d.defaultSeverity := by
  rw [severity, settingsFor_single h, List.findSome?_singleton]

/-! ### Keys that matter -/

/-- Tables that differ at most under the key may say different things about the diagnostic. -/
def Influences (key : String) (d : Descriptor) : Prop :=
  ∃ t u : RuleTable, (∀ k, k ≠ key → t.get? k = u.get? k)
    ∧ ¬(t.isEnabled d = u.isEnabled d ∧ t.severity d = u.severity d)

/-- Tables that agree under all keys that name a diagnostic say the same about it. -/
lemma says_congr (h : ∀ k, d.matchesKey k = true → t.get? k = u.get? k) :
    t.isEnabled d = u.isEnabled d ∧ t.severity d = u.severity d := by
  have hpart {β : Type} (part : Setting → Option β) :
      (t.settingsFor d).findSome? part = (u.settingsFor d).findSome? part :=
    findSome?_settingsFor_congr fun k hk => by rw [given, given, h k (rank?_ne_none_iff.1 hk)]
  exact ⟨by rw [isEnabled, isEnabled, hpart], by rw [severity, severity, hpart]⟩

/-- **A key matters for what it names.** -/
theorem influences_iff : Influences key d ↔ d.matchesKey key = true := by
  constructor
  · rintro ⟨t, u, hsame, hdiffer⟩
    by_contra hkey
    refine hdiffer (says_congr fun k hk => hsame k ?_)
    rintro rfl
    exact hkey hk
  · intro h
    refine ⟨single key { enabled := some true }, single key { enabled := some false },
      fun k hk => ?_, fun hsame => ?_⟩
    · simp [single, get?, List.lookup_cons, beq_false_of_ne hk]
    · rw [isEnabled_single h, isEnabled_single h] at hsame
      cases hsame.1

/-! ### Unknown keys -/

lemma mem_unknownKeys_iff :
    key ∈ t.unknownKeys known ↔ key ∈ t.keys ∧ ∀ d ∈ known, d.matchesKey key = false := by
  rw [unknownKeys, List.mem_mergeSort, List.mem_filter]
  simp

lemma says_without_unknownKeys (t : RuleTable) (hd : d ∈ known) :
    (t.without (t.unknownKeys known)).isEnabled d = t.isEnabled d
      ∧ (t.without (t.unknownKeys known)).severity d = t.severity d := by
  refine says_congr fun key hkey => ?_
  rw [get?_without, if_neg]
  intro hunknown
  rw [(mem_unknownKeys_iff.1 hunknown).2 d hd] at hkey
  cases hkey

end RuleTable

/-! ### Names that name nothing -/

namespace Catalog

lemma find?_eq_none_iff {key : String} :
    find? key = none ↔ ∀ d ∈ descriptors, d.matchesKey key = false := by
  simp [find?, List.find?_eq_none]

end Catalog

namespace Config

variable {key list : String}

/-- A list of names is warned about those that name nothing. -/
lemma warns_iff : (⟨.warn, .check, "Unknown rule: " ++ key⟩ : Log.Event) ∈ narrowEvents (some list)
    ↔ key ∈ Catalog.namesIn list ∧ Catalog.find? key = none := by
  simp [narrowEvents, List.mem_append, String.append_right_inj]

/-- A name that names nothing changes nothing. -/
lemma restrictTo_cons_of_unknown (h : ∀ d ∈ Catalog.descriptors, d.matchesKey key = false)
    (c : Config) (names : List String) : c.restrictTo (key :: names) = c.restrictTo names := by
  have hsame : ∀ d ∈ Catalog.descriptors,
      (!d.isNamed (key :: names)) = !d.isNamed names := fun d hd => by
    simp [Descriptor.isNamed, h d hd]
  rw [restrictTo, restrictTo, List.filter_congr hsame]

open RuleTable in
/-- **Unknown keys influence nothing.** They are the keys of a table that cannot change what it says
about a known diagnostic, in increasing order. Without all of them a table says the same about the
known diagnostics, while under any other key a setting alone decides what is said about one of them.
With the diagnostics of the catalog, the unknown keys are those that look up nothing, and those that
a list of names is warned about, which has no effect on what the list asks for. -/
theorem mem_unknownKeys_iff_not_influences (c : Config) (known : List Descriptor) :
    (c.rules.unknownKeys known).Pairwise (· < ·)
    ∧ (∀ key, key ∈ c.rules.unknownKeys known
      ↔ key ∈ c.rules.keys ∧ ∀ d ∈ known, ¬Influences key d)
    ∧ (∀ d ∈ known,
      Config.isEnabled { c with rules := c.rules.without (c.rules.unknownKeys known) } d
          = c.isEnabled d
        ∧ Config.severity { c with rules := c.rules.without (c.rules.unknownKeys known) } d
          = c.severity d)
    ∧ (∀ key ∈ c.rules.keys, key ∉ c.rules.unknownKeys known → ∃ d ∈ known, ∀ s,
      (single key s).isEnabled d = s.enabled.getD d.enabledByDefault
        ∧ (single key s).severity d = s.severity.getD d.defaultSeverity)
    ∧ (∀ key ∈ c.rules.keys,
      (key ∈ c.rules.unknownKeys Catalog.descriptors ↔ Catalog.find? key = none)
        ∧ ∀ list, key ∈ Catalog.namesIn list →
          (key ∈ c.rules.unknownKeys Catalog.descriptors
            ↔ (⟨.warn, .check, "Unknown rule: " ++ key⟩ : Log.Event) ∈ narrowEvents (some list)))
    ∧ ∀ key ∈ c.rules.unknownKeys Catalog.descriptors, ∀ (c' : Config) (names : List String),
      c'.restrictTo (key :: names) = c'.restrictTo names := by
  have hcatalog : ∀ key ∈ c.rules.keys,
      (key ∈ c.rules.unknownKeys Catalog.descriptors ↔ Catalog.find? key = none) := fun key hkey => by
    rw [mem_unknownKeys_iff, Catalog.find?_eq_none_iff, and_iff_right hkey]
  refine ⟨pairwise_sorted_keys c.rules _, fun key => ?_, fun d hd => says_without_unknownKeys _ hd,
    fun key hkey hknown => ?_, fun key hkey => ⟨hcatalog key hkey, fun list hlist => ?_⟩,
    fun key hunknown => restrictTo_cons_of_unknown (mem_unknownKeys_iff.1 hunknown).2⟩
  · simp only [mem_unknownKeys_iff, influences_iff, Bool.not_eq_true]
  · rw [mem_unknownKeys_iff, not_and] at hknown
    obtain ⟨d, hd⟩ := not_forall.1 (hknown hkey)
    obtain ⟨hd, hmatches⟩ := Classical.not_imp.1 hd
    rw [Bool.not_eq_false] at hmatches
    exact ⟨d, hd, fun s => ⟨isEnabled_single hmatches, severity_single hmatches⟩⟩
  · rw [hcatalog key hkey, warns_iff, and_iff_right hlist]

/-- A configuration with a code in another case, a name in another case and an unknown code. -/
def mixedKeys : Config where
  rules := ⟨[("Missing-Not-Null", { enabled := some true }), ("ipy01", { enabled := some false }),
    ("IPY99", { severity := some .error })], by decide⟩

/-- A name counts in its own case only; a code counts in every case. -/
theorem mem_unknownKeys_mixedKeys :
    "Missing-Not-Null" ∈ mixedKeys.rules.unknownKeys Catalog.descriptors
    ∧ "ipy01" ∉ mixedKeys.rules.unknownKeys Catalog.descriptors
    ∧ Config.isEnabled { mixedKeys with
        rules := mixedKeys.rules.without (mixedKeys.rules.unknownKeys Catalog.descriptors) }
      NotNull.missing = mixedKeys.isEnabled NotNull.missing
    ∧ (∃ d ∈ Catalog.descriptors, ∀ s : Setting, (RuleTable.single "ipy01" s).isEnabled d
      = s.enabled.getD d.enabledByDefault)
    ∧ (⟨.warn, .check, "Unknown rule: Missing-Not-Null"⟩ : Log.Event)
      ∈ narrowEvents (some "ipy01, Missing-Not-Null") := by
  obtain ⟨-, -, hdeleted, hknown, hcatalog, -⟩ :=
    mem_unknownKeys_iff_not_influences mixedKeys Catalog.descriptors
  have hname : "Missing-Not-Null" ∈ mixedKeys.rules.keys := by decide
  have hcode : "ipy01" ∈ mixedKeys.rules.keys := by decide
  have hunknown := (hcatalog _ hname).1.2 (Catalog.find?_eq_none_iff.2 (by
    rw [Catalog.descriptors_eq]
    decide +kernel))
  have hfound : "ipy01" ∉ mixedKeys.rules.unknownKeys Catalog.descriptors := by
    rw [(hcatalog _ hcode).1, Catalog.find?, Catalog.descriptors_eq]
    decide +kernel
  obtain ⟨d, hd, hdecides⟩ := hknown _ hcode hfound
  have hmissing : NotNull.missing ∈ Catalog.descriptors := by simp [Catalog.descriptors_eq]
  exact ⟨hunknown, hfound, (hdeleted _ hmissing).1, ⟨d, hd, fun s => (hdecides s).1⟩,
    ((hcatalog _ hname).2 "ipy01, Missing-Not-Null" (by decide +kernel)).1 hunknown⟩

end Config
end NotNullLint
