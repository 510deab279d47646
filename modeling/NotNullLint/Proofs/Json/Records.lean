import NotNullLint.Proofs.Json.RoundTrip

/-!
Records in JSON.

A record is read member by member, whatever the order of the entries: all that counts is which
values stand under the name of each member. There is one at most, and one if the member is required.
An array is read as the object that has its items under the names of the members in order.
-/

namespace NotNullLint

namespace Members

/-- The members in order, each with its name. -/
def fields : Members → List (String × Presence × Shape)
  | .nil => []
  | .cons name presence shape rest => (name, presence, shape) :: rest.fields

/-- The names of the members in order. -/
def names (members : Members) : List String := members.fields.map Prod.fst

lemma names_cons (name : String) (presence : Presence) (shape : Shape) (rest : Members) :
    (cons name presence shape rest).names = name :: rest.names := rfl

lemma has_iff {key : String} : (members : Members) → (members.has key = true ↔ key ∈ members.names)
  | .nil => iff_of_false nofun nofun
  | .cons name presence shape rest => by
    rw [names_cons, List.mem_cons, ← has_iff rest, has, Bool.or_eq_true, beq_iff_eq]

lemma mem_names {members : Members} {name : String} {presence : Presence} {shape : Shape}
    (h : (name, presence, shape) ∈ members.fields) : name ∈ members.names :=
  List.mem_map_of_mem h

end Members

/-- What a member is read as, if it is there. -/
def Presence.filled {α : Type} : (presence : Presence) → presence.Slot α → Option α
  | .required, x => some x
  | .optional, slot => slot

namespace Json

/-! ### The values under a name -/

/-- The values that stand under a name. -/
def under (name : String) (entries : List (String × Json)) : List Json :=
  (entries.filter fun e => e.1 == name).map Prod.snd

variable {name key : String} {presence : Presence} {shape : Shape} {rest members : Members}
variable {entries before after : List (String × Json)} {items : List Json} {v : Json}

@[simp] lemma under_nil : under name [] = [] := rfl

@[simp] lemma under_cons_self : under name ((name, v) :: entries) = v :: under name entries := by
  simp [under]

@[simp] lemma under_cons_of_ne (h : key ≠ name) :
    under name ((key, v) :: entries) = under name entries := by
  simp [under, h]

@[simp] lemma under_append :
    under name (before ++ after) = under name before ++ under name after := by
  simp [under]

lemma mem_under : v ∈ under name entries ↔ (name, v) ∈ entries := by
  simp [under]

lemma under_eq_nil_iff : under name entries = [] ↔ ∀ e ∈ entries, e.1 ≠ name := by
  simp [under]

lemma length_under : (under name entries).length = (entries.map Prod.fst).count name := by
  rw [under, List.length_map, List.count, List.countP_map, List.countP_eq_length_filter]
  rfl

/-! ### Objects -/

/-- How a member is read from the values under its name. -/
def ReadAs (shape : Shape) : List Json → Option shape.Val → Prop
  | [], slot => slot = none
  | [v], slot => ∃ x, readTree shape v = .ok x ∧ slot = some x
  | _ :: _ :: _, _ => False

/-- How the members of a record are read, each from its values. -/
def ReadFrom (get : String → List Json) : (members : Members) → members.Val → Prop
  | .nil, _ => True
  | .cons name presence shape rest, (x, xs) =>
    ReadAs shape (get name) (presence.filled x) ∧ ReadFrom get rest xs

/-- One value at most is read, so their order does not count. -/
lemma ReadAs.perm {vs ws : List Json} {slot : Option shape.Val} (h : ReadAs shape vs slot)
    (hperm : vs.Perm ws) : ReadAs shape ws slot := by
  match vs, h with
  | [], h => exact List.nil_perm.1 hperm ▸ h
  | [v], h => exact List.singleton_perm.1 hperm ▸ h

/-- Only what stands under the names of the members counts, in any order. -/
lemma ReadFrom.perm {get get' : String → List Json} : {members : Members} → {xs : members.Val} →
    ReadFrom get members xs → (∀ name ∈ members.names, (get name).Perm (get' name)) →
    ReadFrom get' members xs
  | .nil, _, _, _ => trivial
  | .cons name _ _ _, _, ⟨hx, hxs⟩, h =>
    ⟨hx.perm (h name List.mem_cons_self),
      hxs.perm fun key hkey => h key (List.mem_cons_of_mem name hkey)⟩

/-- What is read of a member after some of its values have been read before. -/
def TakenUp (shape : Shape) (vs : List Json) (slot' : Option shape.Val) :
    Option shape.Val → Prop
  | none => ReadAs shape vs slot'
  | some x => vs = [] ∧ slot' = some x

lemma takenUp_nil {slot slot' : Option shape.Val} : TakenUp shape [] slot' slot ↔ slot' = slot := by
  cases slot with
  | none => rfl
  | some x => simp [TakenUp]

lemma takenUp_cons {vs : List Json} {slot slot' : Option shape.Val} :
    TakenUp shape (v :: vs) slot' slot
      ↔ slot = none ∧ ∃ x, readTree shape v = .ok x ∧ TakenUp shape vs slot' (some x) := by
  cases slot with
  | some x => simp [TakenUp]
  | none =>
    cases vs with
    | nil => simp [TakenUp, ReadAs]
    | cons w vs => simp [TakenUp, ReadAs]

lemma treeMember_self_iff {slot : Option shape.Val} {more : rest.Found}
    {found : (Members.cons name presence shape rest).Found} :
    treeMember (.cons name presence shape rest) name (beside slot more) v = .ok found
      ↔ slot = none ∧ ∃ x, readTree shape v = .ok x ∧ found = beside (some x) more := by
  cases slot with
  | some x =>
    have hrepeated : treeMember (.cons name presence shape rest) name (beside (some x) more) v
        = .error (.repeated name) := by simp only [beside, treeMember, if_true]
    rw [hrepeated]
    constructor
    · intro h
      cases h
    · rintro ⟨h, -⟩
      cases h
  | none =>
    simp only [beside, treeMember, if_true, true_and]
    exact Except.map_eq_ok_iff.trans (exists_congr fun x => and_congr_right fun _ => eq_comm)

lemma treeMember_unknown : {members : Members} → key ∉ members.names →
    (found : members.Found) → treeMember members key found v = .ok found
  | .nil, _, _ => rfl
  | .cons name presence shape rest, h, (slot, more) => by
    obtain ⟨hname, hrest⟩ := not_or.1 (mt List.mem_cons.2 h)
    change treeMember (.cons name presence shape rest) key (beside slot more) v = _
    rw [treeMember_of_ne hname, treeMember_unknown hrest more]
    rfl

/-- Entries fill the first member with what stands under its name, and the others as if the first
one were not there. -/
lemma takeAll_beside_iff (hname : name ∉ rest.names) {slot slot' : Option shape.Val}
    {more more' : rest.Found} :
    takeAll (.cons name presence shape rest) (beside slot more) entries = .ok (beside slot' more')
      ↔ TakenUp shape (under name entries) slot' slot
        ∧ takeAll rest more entries = .ok more' := by
  induction entries generalizing slot more with
  | nil =>
    rw [under_nil, takenUp_nil]
    constructor
    · intro h
      cases h
      exact ⟨rfl, rfl⟩
    · rintro ⟨rfl, h⟩
      cases h
      rfl
  | cons e entries ih =>
    obtain ⟨key, v⟩ := e
    rw [takeAll_cons, takeAll_cons]
    by_cases hkey : key = name
    · subst hkey
      rw [under_cons_self, takenUp_cons, treeMember_unknown hname more]
      refine Except.bind_eq_ok_iff.trans ?_
      constructor
      · rintro ⟨found, hfound, h⟩
        obtain ⟨rfl, x, hx, rfl⟩ := treeMember_self_iff.1 hfound
        obtain ⟨hslot, hmore⟩ := ih.1 h
        exact ⟨⟨rfl, x, hx, hslot⟩, hmore⟩
      · rintro ⟨⟨rfl, x, hx, hslot⟩, hmore⟩
        exact ⟨_, treeMember_self_iff.2 ⟨rfl, x, hx, rfl⟩, ih.2 ⟨hslot, hmore⟩⟩
    · rw [under_cons_of_ne hkey, treeMember_of_ne hkey]
      cases htree : treeMember rest key more v with
      | error m => exact ⟨nofun, fun h => nomatch h.2⟩
      | ok next => exact ih

lemma close_cons_iff {slot : Option shape.Val} {more : rest.Found} {x : presence.Slot shape.Val}
    {xs : rest.Val} :
    (Members.cons name presence shape rest).close (beside slot more) = .ok (x, xs)
      ↔ slot = presence.filled x ∧ rest.close more = .ok xs := by
  have hmap {y : presence.Slot shape.Val} :
      (rest.close more).map (fun ys => (y, ys)) = .ok (x, xs)
        ↔ y = x ∧ rest.close more = .ok xs := by
    refine Except.map_eq_ok_iff.trans ⟨?_, ?_⟩
    · rintro ⟨ys, hys, h⟩
      cases h
      exact ⟨rfl, hys⟩
    · rintro ⟨rfl, hys⟩
      exact ⟨xs, hys, rfl⟩
  cases presence with
  | optional => exact hmap
  | required =>
    cases slot with
    | none => exact ⟨nofun, fun h => nomatch h.1⟩
    | some y => exact hmap.trans (and_congr_left fun _ => Option.some_inj.symm)

lemma takeAll_nil (entries : List (String × Json)) : takeAll .nil () entries = .ok () := by
  induction entries with
  | nil => rfl
  | cons e entries ih => exact ih

/-- What is taken up of an object and closed is read member by member. -/
lemma takeAll_close_iff : {members : Members} → members.names.Nodup → (xs : members.Val) →
    ((∃ found, takeAll members members.none entries = .ok found ∧ members.close found = .ok xs)
      ↔ ReadFrom (under · entries) members xs)
  | .nil, _, () => iff_of_true ⟨(), takeAll_nil entries, rfl⟩ trivial
  | .cons name presence shape rest, h, (x, xs) => by
    obtain ⟨hname, hrest⟩ := List.nodup_cons.1 h
    have ih := takeAll_close_iff hrest xs
    constructor
    · rintro ⟨⟨slot, more⟩, htake, hclose⟩
      obtain ⟨hslot, hmore⟩ := (takeAll_beside_iff hname).1 htake
      obtain ⟨rfl, hxs⟩ := close_cons_iff.1 hclose
      exact ⟨hslot, ih.1 ⟨more, hmore, hxs⟩⟩
    · rintro ⟨hx, hxs⟩
      obtain ⟨more, hmore, hclose⟩ := ih.2 hxs
      exact ⟨beside (presence.filled x) more, (takeAll_beside_iff hname).2 ⟨hx, hmore⟩,
        close_cons_iff.2 ⟨rfl, hclose⟩⟩

/-- **Objects are read member by member.** -/
theorem readTree_object_iff {record : String} (h : members.names.Nodup) {xs : members.Val} :
    readTree (.record record members) (.object entries) = .ok xs
      ↔ ReadFrom (under · entries) members xs := by
  rw [← takeAll_close_iff h xs]
  refine Except.bind_eq_ok_iff.trans (exists_congr fun found => and_congr_right fun _ => ?_)
  exact Except.mapError_eq_ok_iff

/-! ### Arrays -/

section

variable {expected : String} {done total : Nat} {x : presence.Slot shape.Val} {xs : rest.Val}

lemma treeValues_nil_iff :
    treeValues expected (.cons name presence shape rest) done total [] = .ok (x, xs)
      ↔ presence.filled x = none ∧ treeValues expected rest (done + 1) total [] = .ok xs := by
  cases presence with
  | required => exact iff_of_false nofun fun h => nomatch h.1
  | optional =>
    refine Except.map_eq_ok_iff.trans ⟨?_, ?_⟩
    · rintro ⟨ys, hys, h⟩
      cases h
      exact ⟨rfl, hys⟩
    · rintro ⟨hx, hxs⟩
      obtain rfl : x = none := hx
      exact ⟨xs, hxs, rfl⟩

lemma treeValues_cons_iff :
    treeValues expected (.cons name presence shape rest) done total (v :: items) = .ok (x, xs)
      ↔ (∃ y, readTree shape v = .ok y ∧ presence.filled x = some y)
        ∧ treeValues expected rest (done + 1) total items = .ok xs := by
  cases presence with
  | required =>
    refine Except.bind_eq_ok_iff.trans ⟨?_, ?_⟩
    · rintro ⟨y, hy, h⟩
      obtain ⟨ys, hys, h⟩ := Except.bind_eq_ok_iff.1 h
      cases h
      exact ⟨⟨x, hy, rfl⟩, hys⟩
    · rintro ⟨⟨y, hy, hx⟩, hxs⟩
      obtain rfl : x = y := Option.some.inj hx
      exact ⟨x, hy, Except.bind_eq_ok_iff.2 ⟨xs, hxs, rfl⟩⟩
  | optional =>
    refine Except.bind_eq_ok_iff.trans ⟨?_, ?_⟩
    · rintro ⟨y, hy, h⟩
      obtain ⟨ys, hys, h⟩ := Except.bind_eq_ok_iff.1 h
      cases h
      exact ⟨⟨y, hy, rfl⟩, hys⟩
    · rintro ⟨⟨y, hy, hx⟩, hxs⟩
      obtain rfl : x = some y := hx
      exact ⟨y, hy, Except.bind_eq_ok_iff.2 ⟨xs, hxs, rfl⟩⟩

end

/-- The items of an array are read as if each stood under the name of its member. -/
lemma treeValues_iff (expected : String) (total : Nat) : {members : Members} →
    members.names.Nodup → (done : Nat) → (items : List Json) → (xs : members.Val) →
    (treeValues expected members done total items = .ok xs
      ↔ items.length ≤ members.names.length
        ∧ ReadFrom (under · (members.names.zip items)) members xs)
  | .nil, _, _, [], () => iff_of_true rfl ⟨Nat.le_refl 0, trivial⟩
  | .nil, _, _, _ :: _, () => iff_of_false nofun fun h => nomatch h.1
  | .cons name presence shape rest, h, done, [], (x, xs) => by
    have ih := treeValues_iff expected total (List.nodup_cons.1 h).2 (done + 1) [] xs
    rw [List.zip_nil_right] at ih
    rw [treeValues_nil_iff, ih, List.zip_nil_right]
    simp only [List.length_nil, Nat.zero_le, true_and]
    rfl
  | .cons name presence shape rest, h, done, v :: items, (x, xs) => by
    obtain ⟨hname, hrest⟩ := List.nodup_cons.1 h
    have ih := treeValues_iff expected total hrest (done + 1) items xs
    have hself : under name ((name, v) :: rest.names.zip items) = [v] := by
      rw [under_cons_self, under_eq_nil_iff.2]
      exact fun e he hkey => hname (hkey ▸ (List.of_mem_zip he).1)
    have hothers : ∀ key ∈ rest.names, under key ((name, v) :: rest.names.zip items)
        = under key (rest.names.zip items) := by
      rintro key hkey
      refine under_cons_of_ne ?_
      rintro rfl
      exact hname hkey
    rw [treeValues_cons_iff, ih]
    constructor
    · rintro ⟨hx, hlength, hxs⟩
      refine ⟨Nat.succ_le_succ hlength, ?_, hxs.perm fun key hkey => .of_eq (hothers key hkey).symm⟩
      change ReadAs shape (under name ((name, v) :: rest.names.zip items)) _
      rw [hself]
      exact hx
    · rintro ⟨hlength, hx, hxs⟩
      change ReadAs shape (under name ((name, v) :: rest.names.zip items)) _ at hx
      rw [hself] at hx
      exact ⟨hx, Nat.le_of_succ_le_succ hlength, hxs.perm fun key hkey => .of_eq (hothers key hkey)⟩

/-- **Arrays are read as objects.** Each item stands under the name of its member, and there are not
more items than members. -/
theorem readTree_array_iff {record : String} (h : members.names.Nodup) {xs : members.Val} :
    readTree (.record record members) (.array items) = .ok xs
      ↔ items.length ≤ members.names.length
        ∧ readTree (.record record members) (.object (members.names.zip items)) = .ok xs := by
  rw [readTree_object_iff h]
  exact treeValues_iff _ _ h 0 items xs

end Json
end NotNullLint
