import Mathlib.Data.List.Sort
import NotNullLint.Proofs.Config.Precedence
import NotNullLint.Rule.NotNull

/-!
The keys of a diagnostic in the order in which they count.

Its code comes first, then the keys of the table that are the code in another case, in order, and
its name comes last. Each part of the setting is what the first of them gives that gives it at all.
So a key that is disabled disables what it names, unless a key that counts before it enables that.
-/

namespace NotNullLint
namespace RuleTable

variable {β : Type} {part : Setting → Option β} {t u : RuleTable} {d : Descriptor}
  {key other : String} {b : β}

lemma rank?_ne_none_iff : rank? d key ≠ none ↔ d.matchesKey key = true := by
  rw [Descriptor.matchesKey, Text.sameLetters_comm, Bool.or_eq_true, beq_iff_eq]
  unfold rank?
  split
  · rename_i hcode
    simp [hcode]
  · split
    · rename_i hcase
      simp [hcase]
    · rename_i hcase
      simp [hcase, eq_comm]

lemma mem_keys_iff : key ∈ t.keys ↔ (t.get? key).isSome = true := by
  rw [keys, List.mem_map, Option.isSome_iff_exists]
  constructor
  · rintro ⟨⟨k, s⟩, hmem, rfl⟩
    exact ⟨s, mem_entries_iff.1 hmem⟩
  · rintro ⟨s, hs⟩
    exact ⟨(key, s), mem_entries_iff.2 hs, rfl⟩

lemma isSome_of_given (h : t.given part key ≠ none) : (t.get? key).isSome = true := by
  cases hget : t.get? key with
  | none => simp [given, hget] at h
  | some s => rfl

/-! ### The keys in order -/

/-- The keys of the table that are the code of a diagnostic in another case, in order. -/
def otherCases (t : RuleTable) (d : Descriptor) : List String :=
  (t.keys.filter fun key => key != d.code && Text.sameLetters key d.code).mergeSort
    fun a b => a ≤ b

/-- The keys of a diagnostic in the order in which they count. -/
def keysFor (t : RuleTable) (d : Descriptor) : List String :=
  d.code :: (t.otherCases d ++ [d.name])

lemma mem_otherCases : key ∈ t.otherCases d
    ↔ (t.get? key).isSome = true ∧ key ≠ d.code ∧ Text.sameLetters key d.code = true := by
  rw [otherCases, List.mem_mergeSort, List.mem_filter, mem_keys_iff, Bool.and_eq_true, bne_iff_ne]

/-- Keys of a table in order are strictly so, since no key stands in it twice. -/
lemma pairwise_sorted_keys (t : RuleTable) (p : String → Bool) :
    ((t.keys.filter p).mergeSort fun a b => a ≤ b).Pairwise (· < ·) := by
  have hle : ((t.keys.filter p).mergeSort fun a b => a ≤ b).Pairwise fun a b =>
      decide (a ≤ b) = true :=
    List.pairwise_mergeSort (fun a b c hab hbc => by
      simpa using String.le_trans (of_decide_eq_true hab) (of_decide_eq_true hbc))
      (fun a b => by simpa using String.le_total a b) _
  have hdistinct : ((t.keys.filter p).mergeSort fun a b => a ≤ b).Nodup :=
    (List.mergeSort_perm _ _).nodup_iff.2 (t.distinct.filter _)
  refine (hle.and hdistinct).imp fun {a b} ⟨hab, hne⟩ => ?_
  exact String.not_le.1 fun hba => hne (String.le_antisymm (of_decide_eq_true hab) hba)

lemma pairwise_otherCases (t : RuleTable) (d : Descriptor) :
    (t.otherCases d).Pairwise (· < ·) := pairwise_sorted_keys t _

lemma rank?_of_mem_otherCases (h : key ∈ t.otherCases d) : rank? d key = some 1 := by
  obtain ⟨-, hcode, hcase⟩ := mem_otherCases.1 h
  rw [rank?, if_neg hcode, if_pos hcase]

/-- A key that names a diagnostic is its code, or stands in the table in another case of it, or is
its name. -/
lemma key_cases (hnames : rank? d key ≠ none) (hset : t.given part key ≠ none) :
    key = d.code ∨ key ∈ t.otherCases d
      ∨ key = d.name ∧ key ≠ d.code ∧ Text.sameLetters key d.code = false := by
  by_cases hcode : key = d.code
  · exact .inl hcode
  cases hcase : Text.sameLetters key d.code with
  | true => exact .inr (.inl (mem_otherCases.2 ⟨isSome_of_given hset, hcode, hcase⟩))
  | false =>
    rw [rank?_ne_none_iff, Descriptor.matchesKey, Text.sameLetters_comm, hcase] at hnames
    exact .inr (.inr ⟨(by simpa using hnames : d.name = key).symm, hcode, rfl⟩)

lemma mem_keysFor (hnames : rank? d key ≠ none) (hset : t.given part key ≠ none) :
    key ∈ t.keysFor d := by
  obtain rfl | h | ⟨rfl, -⟩ := key_cases hnames hset
  · exact List.mem_cons_self
  · exact List.mem_cons_of_mem _ (List.mem_append_left _ h)
  · exact List.mem_cons_of_mem _ (List.mem_append_right _ (List.mem_singleton_self _))

/-! ### The first key that gives a part -/

/-- Of the code in other cases the least key that gives a part decides, if the code does not. -/
lemma decides_otherCase (hcode : t.given part d.code = none)
    (h : (t.otherCases d).findSome? (t.given part) = some b) :
    ∃ key, t.Decides part d key b := by
  obtain ⟨before, key, after, hsplit, hgives, hbefore⟩ := List.findSome?_eq_some_iff.1 h
  have hmem : key ∈ t.otherCases d := by simp [hsplit]
  have hrank := rank?_of_mem_otherCases hmem
  refine ⟨key, by simp [hrank], hgives, fun other hnames hset => ?_⟩
  obtain rfl | hother | ⟨rfl, hne, hcase⟩ := key_cases hnames hset
  · exact absurd hcode hset
  · refine ⟨1, 1, hrank, rank?_of_mem_otherCases hother, .inr ⟨rfl, ?_⟩⟩
    rw [hsplit, List.mem_append, List.mem_cons] at hother
    rcases hother with hin | rfl | hin
    · exact absurd (hbefore other hin) hset
    · exact String.le_refl _
    · have horder := hsplit ▸ pairwise_otherCases t d
      have hlt : key < other :=
        (List.pairwise_cons.1 (List.pairwise_append.1 horder).2.1).1 other hin
      exact String.not_lt.1 (String.lt_asymm hlt)
  · have hname : rank? d d.name = some 2 := by simp [rank?, hne, hcase]
    exact ⟨1, 2, hrank, hname, .inl (by omega)⟩

/-- The name decides if it is the only key that gives a part. -/
lemma decides_name (hcode : t.given part d.code = none)
    (hcases : (t.otherCases d).findSome? (t.given part) = none)
    (h : t.given part d.name = some b) : t.Decides part d d.name b := by
  have hname : rank? d d.name ≠ none := by simp [rank?_ne_none_iff, Descriptor.matchesKey]
  refine ⟨hname, h, fun other hnames hset => ?_⟩
  obtain rfl | hother | ⟨rfl, -⟩ := key_cases hnames hset
  · exact absurd hcode hset
  · exact absurd (List.findSome?_eq_none_iff.1 hcases other hother) hset
  · obtain ⟨r, hr⟩ := Option.ne_none_iff_exists'.1 hname
    exact ⟨r, r, hr, hr, .inr ⟨rfl, String.le_refl _⟩⟩

lemma decides_of_keysFor (h : (t.keysFor d).findSome? (t.given part) = some b) :
    ∃ key, t.Decides part d key b := by
  rw [keysFor, List.findSome?_cons] at h
  cases hcode : t.given part d.code with
  | some b' =>
    rw [hcode] at h
    exact ⟨d.code, Option.some.inj h ▸ decides_code hcode⟩
  | none =>
    rw [hcode, List.findSome?_append] at h
    cases hcases : (t.otherCases d).findSome? (t.given part) with
    | some b' =>
      rw [hcases] at h
      exact decides_otherCase hcode (hcases.trans h)
    | none =>
      rw [hcases, Option.none_or, List.findSome?_singleton] at h
      exact ⟨d.name, decides_name hcode hcases h⟩

/-- The key that decides a part is the first of all that gives it. -/
theorem findSome?_keysFor (t : RuleTable) (part : Setting → Option β) (d : Descriptor) :
    (t.keysFor d).findSome? (t.given part) = (t.settingsFor d).findSome? part := by
  refine Option.ext fun b => ?_
  rw [findSome?_settingsFor_eq_some_iff]
  refine ⟨decides_of_keysFor, fun ⟨key, h⟩ => ?_⟩
  cases hfound : (t.keysFor d).findSome? (t.given part) with
  | some b' =>
    obtain ⟨other, h'⟩ := decides_of_keysFor hfound
    rw [h.unique h']
  | none =>
    have hset : t.given part key ≠ none := by simp [h.gives]
    exact absurd (List.findSome?_eq_none_iff.1 hfound key (mem_keysFor h.names hset)) hset

lemma get?_of_perm (h : u.entries.Perm t.entries) (key : String) : u.get? key = t.get? key :=
  Option.ext fun s => by rw [← mem_entries_iff, ← mem_entries_iff, h.mem_iff]

/-- **Effective settings.** Whether a diagnostic is reported, and its severity, are each what the
first key gives that gives it: the code, then the code in other cases in increasing order, then the
name. If none does, the default counts. Nothing hangs on the order of the entries, nor on keys that
do not name the diagnostic. -/
theorem isEnabled_severity_eq_first (t : RuleTable) (d : Descriptor) :
    t.isEnabled d = ((t.keysFor d).findSome? (t.given Setting.enabled)).getD d.enabledByDefault
      ∧ t.severity d
        = ((t.keysFor d).findSome? (t.given Setting.severity)).getD d.defaultSeverity
      ∧ (t.otherCases d).Pairwise (· < ·)
      ∧ (∀ key, key ∈ t.otherCases d
        ↔ (t.get? key).isSome = true ∧ key ≠ d.code ∧ Text.sameLetters key d.code = true)
      ∧ (∀ u : RuleTable, u.entries.Perm t.entries →
        u.isEnabled d = t.isEnabled d ∧ u.severity d = t.severity d)
      ∧ ∀ u : RuleTable, (∀ key, d.matchesKey key = true → u.get? key = t.get? key) →
        u.isEnabled d = t.isEnabled d ∧ u.severity d = t.severity d := by
  have hsame {u : RuleTable} (h : ∀ key, d.matchesKey key = true → u.get? key = t.get? key) :
      u.isEnabled d = t.isEnabled d ∧ u.severity d = t.severity d := by
    have hpart {β : Type} (part : Setting → Option β) :
        (u.settingsFor d).findSome? part = (t.settingsFor d).findSome? part :=
      findSome?_settingsFor_congr fun key hkey => by
        rw [given, given, h key (rank?_ne_none_iff.1 hkey)]
    exact ⟨by rw [isEnabled, isEnabled, hpart], by rw [severity, severity, hpart]⟩
  refine ⟨?_, ?_, pairwise_otherCases t d, fun key => mem_otherCases, fun u hperm => ?_,
    fun u h => hsame h⟩
  · rw [isEnabled, findSome?_keysFor]
  · rw [severity, findSome?_keysFor]
  · exact hsame fun key _ => get?_of_perm hperm key

/-- Settings under the code, under the code in another case and under the name. -/
def manyKeys : RuleTable where
  entries := [("missing-not-null", { enabled := some true, severity := some .info }),
    ("ipy01", { enabled := some false }), ("IPY01", { severity := some .error }),
    ("Ipy01", { severity := some .warning })]
  distinct := by decide

/-- The code gives the severity, and the code in another case disables the diagnostic, whatever the
name says and in whatever order the entries stand. -/
theorem isEnabled_severity_manyKeys :
    manyKeys.keysFor NotNull.missing = ["IPY01", "Ipy01", "ipy01", "missing-not-null"]
      ∧ manyKeys.isEnabled NotNull.missing = false
      ∧ manyKeys.severity NotNull.missing = .error
      ∧ ∀ u : RuleTable, u.entries = manyKeys.entries.reverse →
        u.isEnabled NotNull.missing = false ∧ u.severity NotNull.missing = .error := by
  obtain ⟨henabled, hseverity, -, -, hperm, -⟩ :=
    isEnabled_severity_eq_first manyKeys NotNull.missing
  have hfilter : (manyKeys.keys.filter fun key => key != NotNull.missing.code
      && Text.sameLetters key NotNull.missing.code) = ["ipy01", "Ipy01"] := by decide +kernel
  have hperm' : (manyKeys.otherCases NotNull.missing).Perm ["Ipy01", "ipy01"] := by
    rw [otherCases, hfilter]
    exact (List.mergeSort_perm _ _).trans (.swap _ _ _)
  have horder : ["Ipy01", "ipy01"].Pairwise (· < ·) := by decide +kernel
  have hcases : manyKeys.otherCases NotNull.missing = ["Ipy01", "ipy01"] :=
    List.Perm.eq_of_pairwise (fun a b _ _ hab hba => absurd hba (String.lt_asymm hab))
      (pairwise_otherCases manyKeys NotNull.missing) horder hperm'
  have hkeys : manyKeys.keysFor NotNull.missing
      = ["IPY01", "Ipy01", "ipy01", "missing-not-null"] := by
    rw [keysFor, hcases]
    rfl
  rw [hkeys] at henabled hseverity
  have hoff : manyKeys.isEnabled NotNull.missing = false := henabled.trans (by decide)
  have herror : manyKeys.severity NotNull.missing = .error := hseverity.trans (by decide)
  refine ⟨hkeys, hoff, herror, fun u hu => ?_⟩
  obtain ⟨hu₁, hu₂⟩ := hperm u (hu ▸ List.reverse_perm _)
  exact ⟨hu₁.trans hoff, hu₂.trans herror⟩

/-! ### Disabling under any key -/

/-- A key that counts before another one enables the diagnostic. -/
def EnabledBefore (t : RuleTable) (d : Descriptor) (key : String) : Prop :=
  ∃ other, other ≠ key ∧ Prior d other key ∧ t.Decides Setting.enabled d other true

lemma isEnabled_iff_of_given (hnames : rank? d key ≠ none)
    (hset : t.given Setting.enabled key ≠ none) :
    t.isEnabled d = true ↔ ∃ other, t.Decides Setting.enabled d other true := by
  rw [← findSome?_settingsFor_eq_some_iff, isEnabled, ← findSome?_keysFor]
  cases hfound : (t.keysFor d).findSome? (t.given Setting.enabled) with
  | some on => simp
  | none => exact absurd (List.findSome?_eq_none_iff.1 hfound key (mem_keysFor hnames hset)) hset

lemma given_enabled_disable_self (t : RuleTable) (key : String) :
    (t.disable key).given Setting.enabled key = some false := by
  rw [given_disable, if_pos rfl]

lemma given_disable_of_ne (h : other ≠ key) :
    (t.disable key).given part other = t.given part other := by
  rw [given_disable, if_neg h]

/-- What a key names that has been disabled is still reported exactly if a key that counts before it
enables that. -/
lemma isEnabled_disable_iff (hnames : rank? d key ≠ none) :
    (t.disable key).isEnabled d = true ↔ t.EnabledBefore d key := by
  have hself := given_enabled_disable_self t key
  rw [isEnabled_iff_of_given hnames (by simp [hself])]
  constructor
  · rintro ⟨other, h⟩
    have hne : other ≠ key := by
      rintro rfl
      have hgives := h.gives
      rw [hself] at hgives
      cases hgives
    have hprior : Prior d other key := h.first key hnames (by simp [hself])
    refine ⟨other, hne, hprior, h.names, given_disable_of_ne hne ▸ h.gives, fun k hk hset => ?_⟩
    by_cases hkey : k = key
    · exact hkey ▸ hprior
    · exact h.first k hk (by rwa [given_disable_of_ne hkey])
  · rintro ⟨other, hne, hprior, h⟩
    refine ⟨other, h.names, (given_disable_of_ne hne).trans h.gives, fun k hk hset => ?_⟩
    by_cases hkey : k = key
    · exact hkey ▸ hprior
    · exact h.first k hk (by rwa [given_disable_of_ne hkey] at hset)

end RuleTable

namespace Config

open RuleTable

/-- **Disabling under any key.** A diagnostic that the key names is no longer reported, unless a
more specific key enables it. One that the key does not name is reported as before, and all
severities stay as they are. -/
theorem isEnabled_severity_disable (c : Config) (key : String) (d : Descriptor) :
    (d.matchesKey key = true →
        ((c.disable key).isEnabled d = false ↔ ¬c.rules.EnabledBefore d key))
      ∧ (d.matchesKey key = false → (c.disable key).isEnabled d = c.isEnabled d)
      ∧ (c.disable key).severity d = c.severity d := by
  refine ⟨fun hkey => ?_, fun hkey => ?_, severity_disable c.rules key d⟩
  · rw [← isEnabled_disable_iff (rank?_ne_none_iff.2 hkey), Bool.not_eq_true]
    rfl
  · have hrank : rank? d key = none := by
      by_contra hne
      rw [rank?_ne_none_iff.1 hne] at hkey
      cases hkey
    exact isEnabled_disable_of_rank? c.rules hrank

/-- A configuration that enables a diagnostic under its name. -/
def enabledByName : Config where
  rules := ⟨[("missing-not-null", { enabled := some true })], by decide⟩

/-- The code in another case outweighs the name. -/
theorem isEnabled_disable_enabledByName :
    NotNull.missing.matchesKey "ipy01" = true
      ∧ ¬enabledByName.rules.EnabledBefore NotNull.missing "ipy01"
      ∧ enabledByName.isEnabled NotNull.missing = true
      ∧ (enabledByName.disable "ipy01").isEnabled NotNull.missing = false
      ∧ NotNull.redundant.matchesKey "ipy01" = false
      ∧ (enabledByName.disable "ipy01").isEnabled NotNull.redundant
        = enabledByName.isEnabled NotNull.redundant := by
  have hnames : NotNull.missing.matchesKey "ipy01" = true := by decide +kernel
  have hother : NotNull.redundant.matchesKey "ipy01" = false := by decide +kernel
  have hnone : ¬enabledByName.rules.EnabledBefore NotNull.missing "ipy01" := by
    rintro ⟨key, -, ⟨r, s, hr, hs, hle⟩, hdecides⟩
    -- nothing but the name enables anything, and it is less specific
    have hkey : key = "missing-not-null" := by
      by_contra hne
      have hgives := hdecides.gives
      simp [given, get?, enabledByName, List.lookup_cons, beq_false_of_ne hne] at hgives
    have hr₂ : rank? NotNull.missing "missing-not-null" = some 2 := by decide +kernel
    have hs₁ : rank? NotNull.missing "ipy01" = some 1 := by decide +kernel
    rw [hkey, hr₂] at hr
    rw [hs₁] at hs
    cases hr
    cases hs
    omega
  exact ⟨hnames, hnone, by decide +kernel,
    (isEnabled_severity_disable enabledByName "ipy01" NotNull.missing).1 hnames |>.2 hnone, hother,
    (isEnabled_severity_disable enabledByName "ipy01" NotNull.redundant).2.1 hother⟩

/-- A configuration that enables a diagnostic under its code. -/
def enabledByCode : Config where
  rules := ⟨[("IPY01", { enabled := some true })], by decide⟩

/-- A diagnostic that is enabled under its code is reported although its name has been disabled. -/
theorem isEnabled_disable_enabledByCode :
    NotNull.missing.matchesKey "missing-not-null" = true
      ∧ (enabledByCode.disable "missing-not-null").isEnabled NotNull.missing = true := by
  have hgives : (enabledByCode.rules.disable "missing-not-null").given Setting.enabled
      NotNull.missing.code = some true := by
    decide +kernel
  have hfound := findSome?_settingsFor_eq_some_iff.2 ⟨_, decides_code hgives⟩
  refine ⟨by decide +kernel, ?_⟩
  rw [Config.isEnabled, RuleTable.isEnabled]
  exact congrArg (·.getD NotNull.missing.enabledByDefault) hfound

end Config
end NotNullLint
