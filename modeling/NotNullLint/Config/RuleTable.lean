import NotNullLint.Rule.Descriptor

/-!
# Rule tables

What a configuration says about diagnostics: settings under keys, each key once. A key names a
diagnostic by its code, in any case, or by its name. Where several keys name the same one, each
part of the setting is taken from the most specific key that gives it.
-/

namespace NotNullLint

/-- What a configuration says under one key. -/
structure Setting where
  enabled : Option Bool := none
  severity : Option Severity := none
  deriving DecidableEq, Repr, Inhabited

/-- Settings under distinct keys. -/
structure RuleTable where
  entries : List (String × Setting)
  distinct : (entries.map (·.1)).Nodup

namespace RuleTable

/-- The table without settings. -/
def empty : RuleTable := ⟨[], List.nodup_nil⟩

/-- The keys of a table. -/
def keys (t : RuleTable) : List String := t.entries.map (·.1)

/-- The setting under a key. -/
def get? (t : RuleTable) (key : String) : Option Setting := t.entries.lookup key

/-- Entries with the setting under a key changed; a key that is not there has an empty setting. -/
def change (key : String) (f : Setting → Setting) :
    List (String × Setting) → List (String × Setting)
  | [] => [(key, f {})]
  | (k, s) :: rest => if k = key then (k, f s) :: rest else (k, s) :: change key f rest

theorem map_fst_change (key : String) (f : Setting → Setting) (es : List (String × Setting)) :
    (change key f es).map (·.1)
      = if key ∈ es.map (·.1) then es.map (·.1) else es.map (·.1) ++ [key] := by
  induction es with
  | nil => simp [change]
  | cons e rest ih =>
    obtain ⟨k, s⟩ := e
    by_cases h : k = key
    · simp [change, h]
    · have h' : ¬key = k := fun e => h e.symm
      by_cases hm : key ∈ rest.map (·.1)
      · simp only [change, h, if_false, List.map_cons, ih, if_pos hm]
        rw [if_pos (List.mem_cons_of_mem _ hm)]
      · simp only [change, h, if_false, List.map_cons, ih, if_neg hm]
        rw [if_neg (by simp only [List.mem_cons, h', false_or]; exact hm)]
        rfl

theorem nodup_change {key : String} {f : Setting → Setting} {es : List (String × Setting)}
    (h : (es.map (·.1)).Nodup) : ((change key f es).map (·.1)).Nodup := by
  rw [map_fst_change]
  split
  · exact h
  · rename_i hm
    exact List.nodup_append.2 ⟨h, by simp, fun a ha b hb => by
      rintro rfl
      exact hm (List.mem_singleton.1 hb ▸ ha)⟩

theorem lookup_change (key : String) (f : Setting → Setting) (es : List (String × Setting))
    (k : String) :
    (change key f es).lookup k
      = if k = key then some (f ((es.lookup key).getD {})) else es.lookup k := by
  induction es with
  | nil =>
    by_cases h : k = key
    · simp [change, h]
    · have : (k == key) = false := by simpa using h
      simp [change, List.lookup_cons, this, h]
  | cons e rest ih =>
    obtain ⟨k', s⟩ := e
    by_cases h : k' = key
    · subst h
      by_cases hk : k = k'
      · subst hk
        simp [change]
      · have : (k == k') = false := by simpa using hk
        simp [change, List.lookup_cons, this, hk]
    · have h' : (key == k') = false := by simpa using fun e => h e.symm
      by_cases hk : k = k'
      · subst hk
        simp [change, h]
      · have : (k == k') = false := by simpa using hk
        simp [change, h, List.lookup_cons, this, h', ih]

/-- The table with the setting under a key changed. -/
def modify (t : RuleTable) (key : String) (f : Setting → Setting) : RuleTable :=
  ⟨change key f t.entries, nodup_change t.distinct⟩

@[simp] theorem get?_modify (t : RuleTable) (key : String) (f : Setting → Setting) (k : String) :
    (t.modify key f).get? k = if k = key then some (f ((t.get? key).getD {})) else t.get? k :=
  lookup_change key f t.entries k

/-- The table of a list of settings; of several under one key the last counts. -/
def ofList (es : List (String × Setting)) : RuleTable :=
  es.foldl (fun t e => t.modify e.1 fun _ => e.2) empty

/-- The table in which a key disables what it names. -/
def disable (t : RuleTable) (key : String) : RuleTable :=
  t.modify key fun s => { s with enabled := some false }

/-- How specific a key is for a diagnostic: its code, its code in another case, its name; none
if the key does not name it. -/
def rank? (d : Descriptor) (key : String) : Option Nat :=
  if key = d.code then some 0
  else if Text.sameLetters key d.code then some 1
  else if key = d.name then some 2
  else none

/-- A setting with its key and how specific that is. -/
abbrev Ranked := Nat × String × Setting

/-- The more specific key comes first; of equally specific ones the lesser. -/
def Ranked.notAfter (a b : Ranked) : Bool :=
  (compareLex (compareOn (·.1)) (compareOn (·.2.1)) a b).isLE

/-- The settings that name a diagnostic, the most specific first. -/
def settingsFor (t : RuleTable) (d : Descriptor) : List Setting :=
  ((t.entries.filterMap fun e => (rank? d e.1).map fun r => ((r, e.1, e.2) : Ranked)).mergeSort
    Ranked.notAfter).map (·.2.2)

/-- The diagnostic is reported. -/
def isEnabled (t : RuleTable) (d : Descriptor) : Bool :=
  ((t.settingsFor d).findSome? Setting.enabled).getD d.enabledByDefault

/-- The severity that the diagnostic is reported with. -/
def severity (t : RuleTable) (d : Descriptor) : Severity :=
  ((t.settingsFor d).findSome? Setting.severity).getD d.defaultSeverity

/-- The keys that name none of the given diagnostics, in order. -/
def unknownKeys (t : RuleTable) (known : List Descriptor) : List String :=
  (t.keys.filter fun key => !known.any (·.matchesKey key)).mergeSort fun a b => a ≤ b

end RuleTable
end NotNullLint
