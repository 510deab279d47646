import Mathlib.Tactic.Lemma
import NotNullLint.Config.Basic

/-!
Which key of a rule table counts.

Each part of the setting of a diagnostic is decided by a single key: of those that name the
diagnostic and set that part, the most specific. So the setting depends on nothing but what the
table gives under keys that name the diagnostic, and what is set under a code decides for it.
-/

namespace NotNullLint.RuleTable

variable {β : Type} {part : Setting → Option β} {t u : RuleTable} {d : Descriptor} {key : String}
  {b : β}

/-- What a table gives under a key for a part of the setting. -/
def given (t : RuleTable) (part : Setting → Option β) (key : String) : Option β :=
  (t.get? key).bind part

/-- Both keys name the diagnostic, and the first one is the more specific, or they are equally
specific and the second one is not the lesser. -/
def Prior (d : Descriptor) (key other : String) : Prop :=
  ∃ r s, rank? d key = some r ∧ rank? d other = some s ∧ (r < s ∨ r = s ∧ key ≤ other)

/-- A key decides a part of the setting of a diagnostic: of those that set it, it comes first. -/
structure Decides (t : RuleTable) (part : Setting → Option β) (d : Descriptor) (key : String)
    (b : β) : Prop where
  names : rank? d key ≠ none
  gives : t.given part key = some b
  first : ∀ other, rank? d other ≠ none → t.given part other ≠ none → Prior d key other

/-! ### Settings in order -/

/-- The settings that name a diagnostic, with their keys, the most specific first. -/
def ranked (t : RuleTable) (d : Descriptor) : List Ranked :=
  (t.entries.filterMap fun e => (rank? d e.1).map fun r => ((r, e.1, e.2) : Ranked)).mergeSort
    Ranked.notAfter

lemma findSome?_settingsFor :
    (t.settingsFor d).findSome? part = (t.ranked d).findSome? fun e => part e.2.2 := by
  rw [settingsFor, List.findSome?_map]
  rfl

lemma notAfter_iff {x y : Ranked} :
    x.notAfter y = true ↔ x.1 < y.1 ∨ x.1 = y.1 ∧ x.2.1 ≤ y.2.1 := by
  change ((compare x.1 y.1).then (compareOfLessAndEq x.2.1 y.2.1)).isLE = true ↔ _
  rw [Ordering.isLE_then_iff_or, Nat.compare_eq_lt, Nat.compare_eq_eq,
    isLE_compareOfLessAndEq String.le_antisymm String.not_le String.le_total]

lemma notAfter_total (x y : Ranked) : (x.notAfter y || y.notAfter x) = true := by
  rw [Bool.or_eq_true, notAfter_iff, notAfter_iff]
  obtain h | h | h := Nat.lt_trichotomy x.1 y.1
  · exact .inl (.inl h)
  · exact (String.le_total x.2.1 y.2.1).imp (fun hle => .inr ⟨h, hle⟩) fun hle => .inr ⟨h.symm, hle⟩
  · exact .inr (.inl h)

lemma mem_entries_iff {s : Setting} : (key, s) ∈ t.entries ↔ t.get? key = some s := by
  obtain ⟨entries, distinct⟩ := t
  simp only [get?]
  induction entries with
  | nil => simp
  | cons e es ih =>
    obtain ⟨k, s'⟩ := e
    obtain ⟨hk, hes⟩ := List.nodup_cons.1 distinct
    rw [List.mem_cons, List.lookup_cons]
    by_cases h : key = k
    · subst h
      have hout : (key, s) ∉ es := fun hmem => hk (List.mem_map.2 ⟨_, hmem, rfl⟩)
      simp [hout, eq_comm]
    · simp [h, beq_false_of_ne h, ih hes]

lemma mem_ranked_iff {r : Nat} {s : Setting} :
    (r, key, s) ∈ t.ranked d ↔ rank? d key = some r ∧ t.get? key = some s := by
  rw [ranked, List.mem_mergeSort, List.mem_filterMap]
  constructor
  · rintro ⟨⟨k, s'⟩, hmem, he⟩
    obtain ⟨r', hr, hsame⟩ := Option.map_eq_some_iff.1 he
    cases hsame
    exact ⟨hr, mem_entries_iff.1 hmem⟩
  · rintro ⟨hr, hs⟩
    exact ⟨(key, s), mem_entries_iff.2 hs, by simp [hr]⟩

lemma pairwise_ranked (t : RuleTable) (d : Descriptor) :
    (t.ranked d).Pairwise fun x y => x.notAfter y = true :=
  List.pairwise_mergeSort (fun _ _ _ => Std.TransCmp.isLE_trans) notAfter_total _

/-! ### The key that counts -/

lemma Decides.unique {other : String} {b' : β} (h : t.Decides part d key b)
    (h' : t.Decides part d other b') : b = b' := by
  have hprior : Prior d key other := h.first other h'.names (by simp [h'.gives])
  have hprior' : Prior d other key := h'.first key h.names (by simp [h.gives])
  obtain ⟨r, s, hr, hs, hle⟩ := hprior
  obtain ⟨s', r', hs', hr', hle'⟩ := hprior'
  rw [hr] at hr'
  rw [hs] at hs'
  cases hr'
  cases hs'
  have hkey : key = other := by
    refine String.le_antisymm (hle.elim ?_ And.right) (hle'.elim ?_ And.right) <;> omega
  have hgives := h'.gives
  rw [← hkey, h.gives] at hgives
  exact Option.some.inj hgives

/-- The first setting in order that sets a part stands under the key that decides it. -/
lemma decides_of_findSome? (h : (t.settingsFor d).findSome? part = some b) :
    ∃ key, t.Decides part d key b := by
  rw [findSome?_settingsFor] at h
  obtain ⟨before, ⟨r, key, s⟩, after, hsplit, hgives, hbefore⟩ := List.findSome?_eq_some_iff.1 h
  have hmem : (r, key, s) ∈ t.ranked d := by simp [hsplit]
  obtain ⟨hr, hs⟩ := mem_ranked_iff.1 hmem
  refine ⟨key, by simp [hr], by simp [given, hs, hgives], fun other hother hset => ?_⟩
  obtain ⟨r', hr'⟩ := Option.ne_none_iff_exists'.1 hother
  obtain ⟨b', hb'⟩ := Option.ne_none_iff_exists'.1 hset
  obtain ⟨s', hs', hpart⟩ := Option.bind_eq_some_iff.1 hb'
  have hmem' : (r', other, s') ∈ t.ranked d := mem_ranked_iff.2 ⟨hr', hs'⟩
  refine ⟨r, r', hr, hr', ?_⟩
  rw [hsplit] at hmem'
  obtain hin | hin := List.mem_append.1 hmem'
  · -- what comes earlier does not set the part
    have hnone := hbefore _ hin
    rw [hpart] at hnone
    cases hnone
  · obtain hsame | hin := List.mem_cons.1 hin
    · cases hsame
      exact .inr ⟨rfl, String.le_refl _⟩
    · have horder := hsplit ▸ pairwise_ranked t d
      exact notAfter_iff.1 ((List.pairwise_cons.1 (List.pairwise_append.1 horder).2.1).1 _ hin)

/-- **One key counts.** A part of the setting of a diagnostic is what the deciding key gives. -/
theorem findSome?_settingsFor_eq_some_iff :
    (t.settingsFor d).findSome? part = some b ↔ ∃ key, t.Decides part d key b := by
  refine ⟨decides_of_findSome?, fun ⟨key, h⟩ => ?_⟩
  obtain ⟨r, hr⟩ := Option.ne_none_iff_exists'.1 h.names
  obtain ⟨s, hs, hpart⟩ := Option.bind_eq_some_iff.1 h.gives
  cases hfound : (t.settingsFor d).findSome? part with
  | some b' =>
    obtain ⟨other, h'⟩ := decides_of_findSome? hfound
    rw [h.unique h']
  | none =>
    rw [findSome?_settingsFor, List.findSome?_eq_none_iff] at hfound
    have hnone := hfound _ (mem_ranked_iff.2 ⟨hr, hs⟩)
    rw [hpart] at hnone
    cases hnone

lemma Decides.congr (h : t.Decides part d key b)
    (hsame : ∀ key, rank? d key ≠ none → t.given part key = u.given part key) :
    u.Decides part d key b where
  names := h.names
  gives := hsame key h.names ▸ h.gives
  first other hother hset := h.first other hother (hsame other hother ▸ hset)

/-- Tables that give the same under all keys that name a diagnostic agree on its setting. -/
theorem findSome?_settingsFor_congr
    (hsame : ∀ key, rank? d key ≠ none → t.given part key = u.given part key) :
    (t.settingsFor d).findSome? part = (u.settingsFor d).findSome? part := by
  refine Option.ext fun b => ?_
  rw [findSome?_settingsFor_eq_some_iff, findSome?_settingsFor_eq_some_iff]
  exact ⟨fun ⟨key, h⟩ => ⟨key, h.congr hsame⟩,
    fun ⟨key, h⟩ => ⟨key, h.congr fun k hk => (hsame k hk).symm⟩⟩

/-! ### Disabling -/

lemma given_disable (t : RuleTable) (key k : String) :
    (t.disable key).given part k
      = if k = key then part { (t.get? key).getD {} with enabled := some false }
        else t.given part k := by
  rw [given, disable, get?_modify]
  split <;> rfl

lemma prior_code {other : String} (h : rank? d other ≠ none) : Prior d d.code other := by
  obtain ⟨s, hs⟩ := Option.ne_none_iff_exists'.1 h
  refine ⟨0, s, by simp [rank?], hs, ?_⟩
  cases s with
  | succ s => exact .inl (Nat.succ_pos s)
  | zero =>
    -- only the code itself is that specific
    have hcode : other = d.code := by
      unfold rank? at hs
      split at hs
      · assumption
      · split at hs
        · cases hs
        · split at hs <;> cases hs
    exact .inr ⟨rfl, hcode ▸ String.le_refl _⟩

/-- What is set under the code of a diagnostic decides, whatever other keys say. -/
lemma decides_code (h : t.given part d.code = some b) : t.Decides part d d.code b where
  names := by simp [rank?]
  gives := h
  first _ hother _ := prior_code hother

/-- A diagnostic whose code is disabled is not reported. -/
theorem isEnabled_disable_code (t : RuleTable) (d : Descriptor) :
    (t.disable d.code).isEnabled d = false := by
  have hgives : (t.disable d.code).given Setting.enabled d.code = some false := by
    rw [given_disable, if_pos rfl]
  rw [isEnabled, findSome?_settingsFor_eq_some_iff.2 ⟨_, decides_code hgives⟩]
  rfl

/-- Disabling under a key that does not name a diagnostic leaves it as it is. -/
theorem isEnabled_disable_of_rank? (t : RuleTable) (h : rank? d key = none) :
    (t.disable key).isEnabled d = t.isEnabled d := by
  rw [isEnabled, isEnabled, findSome?_settingsFor_congr fun k hk => ?_]
  rw [given_disable, if_neg]
  rintro rfl
  exact hk h

/-- Disabling leaves all severities as they are. -/
theorem severity_disable (t : RuleTable) (key : String) (d : Descriptor) :
    (t.disable key).severity d = t.severity d := by
  rw [severity, severity, findSome?_settingsFor_congr fun k _ => ?_]
  rw [given_disable]
  split
  · rename_i hk
    subst hk
    rw [given]
    cases t.get? k <;> rfl
  · rfl

end NotNullLint.RuleTable
