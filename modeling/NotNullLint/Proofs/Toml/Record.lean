import NotNullLint.Proofs.Except
import NotNullLint.Toml.Tree

/-!
Records in TOML.

The entries of a table are taken up one by one, whatever their order. What comes of it is said
member by member: each is read from its own entry, if there is one, and no other entry matters.
-/

namespace NotNullLint.Toml

variable {name : String} {presence : Presence} {shape : Shape} {rest : Members}

/-- What is read for a member from its tree, if there is one. -/
def ReadAs (shape : Shape) (slot : Option shape.Val) : Option Toml → Prop
  | some v => ∃ w, readTree shape v = .ok w ∧ slot = some w
  | none => slot = none

/-- Takes up the members of a table, entry by entry. -/
def readMembers (members : Members) (es : Entries) (found : members.Found) :
    Except Mismatch members.Found :=
  es.foldlM (fun found e => readMember members e.1 found e.2) found

lemma readMember_cons {key : String} {v : Toml}
    {found found' : (Members.cons name presence shape rest).Found}
    (h : readMember (.cons name presence shape rest) key found v = .ok found') :
    (key = name ∧ found.1 = none ∧ (∃ w, readTree shape v = .ok w ∧ found'.1 = some w)
      ∧ found'.2 = found.2)
    ∨ (key ≠ name ∧ found'.1 = found.1 ∧ readMember rest key found.2 v = .ok found'.2) := by
  obtain ⟨slot, more⟩ := found
  obtain ⟨slot', more'⟩ := found'
  simp only [readMember] at h
  by_cases hkey : key = name
  · rw [if_pos hkey] at h
    cases slot with
    | some w => cases h
    | none =>
      obtain ⟨w, hw, hfound⟩ := Except.map_eq_ok_iff.1 h
      cases hfound
      exact .inl ⟨hkey, rfl, ⟨w, hw, rfl⟩, rfl⟩
  · rw [if_neg hkey] at h
    obtain ⟨m, hm, hfound⟩ := Except.map_eq_ok_iff.1 h
    cases hfound
    exact .inr ⟨hkey, rfl, hm⟩

lemma readMembers_entry (members : Members) (key : String) (v : Toml) (es : Entries)
    (found : members.Found) :
    readMembers members ((key, v) :: es) found
      = (readMember members key found v).bind fun next => readMembers members es next :=
  rfl

/-- The first member is read from its own entry, if there is one, and the others from the other
entries. -/
theorem readMembers_cons {es : Entries}
    {found found' : (Members.cons name presence shape rest).Found}
    (h : readMembers (.cons name presence shape rest) es found = .ok found') :
    readMembers rest (es.filter fun e => e.1 != name) found.2 = .ok found'.2
      ∧ (∀ w, found.1 = some w → found'.1 = some w)
      ∧ (found.1 = none → ReadAs shape found'.1 (es.lookup name)) := by
  induction es generalizing found with
  | nil =>
    cases Except.ok.inj h
    exact ⟨rfl, fun _ hw => hw, fun hnone => hnone⟩
  | cons e es ih =>
    obtain ⟨key, v⟩ := e
    rw [readMembers_entry] at h
    obtain ⟨next, hstep, hrest⟩ := Except.bind_eq_ok_iff.1 h
    obtain ⟨hothers, hkept, hopen⟩ := ih hrest
    obtain ⟨rfl, hnone, ⟨w, hw, hnext⟩, hmore⟩ | ⟨hkey, hslot, hmore⟩ := readMember_cons hstep
    · -- the entry of the member itself: no other entry changes what it gave
      have hlookup : List.lookup key ((key, v) :: es) = some v := by simp
      have hfilter : List.filter (fun e => e.1 != key) ((key, v) :: es)
          = es.filter fun e => e.1 != key := by simp
      rw [hlookup, hfilter, ← hmore]
      refine ⟨hothers, fun u hu => ?_, fun _ => ⟨w, hw, hkept w hnext⟩⟩
      rw [hnone] at hu
      cases hu
    · -- an entry of another member, or of none
      have hlookup : List.lookup name ((key, v) :: es) = es.lookup name := by
        rw [List.lookup_cons, beq_false_of_ne hkey.symm]
      have hfilter : List.filter (fun e => e.1 != name) ((key, v) :: es)
          = (key, v) :: es.filter fun e => e.1 != name := by simp [hkey]
      rw [hlookup, hfilter, ← hslot]
      refine ⟨?_, hkept, hopen⟩
      rw [readMembers_entry, hmore]
      exact hothers

lemma lookup_filter_ne {a b : String} (h : b ≠ a) (es : Entries) :
    (es.filter fun e => e.1 != a).lookup b = es.lookup b := by
  induction es with
  | nil => rfl
  | cons e es ih =>
    obtain ⟨key, v⟩ := e
    by_cases hkey : key = a
    · have hother : (b == key) = false := beq_false_of_ne (hkey ▸ h)
      rw [List.lookup_cons, hother, List.filter_cons_of_neg (by simp [hkey]), ih]
    · rw [List.filter_cons_of_pos (by simp [hkey]), List.lookup_cons, List.lookup_cons, ih]

/-- A table is read as a record member by member. -/
lemma readTree_record_ok {name : String} {members : Members} {v : Toml} {es : Entries}
    {w : members.Val} (hitems : v.items? = none) (hentries : v.entries? = some es)
    (h : readTree (.record name members) v = .ok w) :
    ∃ found, readMembers members es members.none = .ok found ∧ members.close found = .ok w := by
  simp only [readTree, hitems, hentries] at h
  obtain ⟨found, hfound, hclose⟩ := Except.bind_eq_ok_iff.1 h
  exact ⟨found, hfound, Except.mapError_eq_ok_iff.1 hclose⟩

lemma close_optional_ok {found : (Members.cons name .optional shape rest).Found}
    {w : (Members.cons name .optional shape rest).Val}
    (h : Members.close (.cons name .optional shape rest) found = .ok w) :
    w.1 = found.1 ∧ rest.close found.2 = .ok w.2 := by
  obtain ⟨slot, more⟩ := found
  simp only [Members.close] at h
  obtain ⟨u, hu, hw⟩ := Except.map_eq_ok_iff.1 h
  cases hw
  exact ⟨rfl, hu⟩

/-- Written as a list, a record begins with its first member. -/
lemma readValues_optional_ok {expected : String} {done : Nat} {vs : List Toml}
    {w : (Members.cons name .optional shape rest).Val}
    (h : readValues expected (.cons name .optional shape rest) done vs = .ok w) :
    ReadAs shape w.1 vs.head? := by
  cases vs with
  | nil =>
    simp only [readValues] at h
    obtain ⟨us, -, hw⟩ := Except.map_eq_ok_iff.1 h
    cases hw
    rfl
  | cons v vs =>
    simp only [readValues] at h
    obtain ⟨u, hu, hrest⟩ := Except.bind_eq_ok_iff.1 h
    obtain ⟨us, -, hw⟩ := Except.bind_eq_ok_iff.1 hrest
    cases hw
    exact ⟨u, hu, rfl⟩

lemma readTree_text_ok {what : String} {v : Toml} {s : String}
    (h : readTree (.text what) v = .ok s) : v = .text s := by
  simp only [readTree] at h
  split at h
  · exact congrArg Toml.text (Except.ok.inj h)
  · cases h

end NotNullLint.Toml
