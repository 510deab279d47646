import Mathlib.Data.List.Forall2
import Mathlib.Data.List.Nodup
import Mathlib.Logic.Relation
import NotNullLint.Proofs.Json.Records

/-!
Trees that say the same in another way.

A tree is read by its structure. The entries of an object may stand in any order, those that the
record does not know say nothing, an optional member may be left out where its value is what its
absence means, and a record may be written as an array. `Edit` makes one such change, at any place
of a tree, and what is read afterwards says the same. A record that repeats a member, or has nothing
in a member that cannot be nothing, is not read at all; `Flawed` finds it at any place of a tree.

What the absence of a member means is decided where the value is used. Here it is given by trees:
`absent record name` are those that say the same as leaving the member out.
-/

namespace NotNullLint.Json

/-! ### Edits and flaws -/

section

variable (absent : String → String → List Json)

/-- One change in a tree of a shape that does not change what it says. -/
inductive Edit : Shape → Json → Json → Prop
  /-- The entries of an object, in another order. -/
  | permute {record : String} {members : Members} {entries entries' : List (String × Json)}
      (h : entries.Perm entries') :
      Edit (.record record members) (.object entries) (.object entries')
  /-- Entries that the record does not know come and go, and hold anything. -/
  | unknown {record : String} {members : Members} {entries entries' : List (String × Json)}
      (h : (entries.filter fun e => members.has e.1) = entries'.filter fun e => members.has e.1) :
      Edit (.record record members) (.object entries) (.object entries')
  /-- A member that holds what its absence means is left out. -/
  | drop {record name : String} {members : Members} {presence : Presence} {shape : Shape}
      {before after : List (String × Json)} {v d : Json}
      (hfield : (name, presence, shape) ∈ members.fields) (hd : d ∈ absent record name)
      (h : readTree shape v = readTree shape d) :
      Edit (.record record members) (.object (before ++ (name, v) :: after))
        (.object (before ++ after))
  /-- A member that was left out is written. -/
  | supply {record name : String} {members : Members} {presence : Presence} {shape : Shape}
      {before after : List (String × Json)} {d : Json}
      (hfield : (name, presence, shape) ∈ members.fields) (hd : d ∈ absent record name)
      (h : ∀ e ∈ before ++ after, e.1 ≠ name) :
      Edit (.record record members) (.object (before ++ after))
        (.object (before ++ (name, d) :: after))
  /-- A record is written as the array of its values in the order of the members. One that was left
  out is written as what its absence means, if it is not left out at the end. -/
  | listed {record : String} {members : Members} {entries : List (String × Json)}
      {items : List Json} (hlength : items.length ≤ members.names.length)
      (h : ∀ name ∈ members.names, under name (members.names.zip items) = under name entries
        ∨ under name entries = []
          ∧ ∃ d ∈ absent record name, under name (members.names.zip items) = [d]) :
      Edit (.record record members) (.object entries) (.array items)
  /-- An array is written as the object that has its items under the names of the members. -/
  | named {record : String} {members : Members} {items : List Json} :
      Edit (.record record members) (.array items) (.object (members.names.zip items))
  /-- A member of an object is edited. -/
  | member {record name : String} {members : Members} {presence : Presence} {shape : Shape}
      {before after : List (String × Json)} {v w : Json}
      (hfield : (name, presence, shape) ∈ members.fields) (h : Edit shape v w) :
      Edit (.record record members) (.object (before ++ (name, v) :: after))
        (.object (before ++ (name, w) :: after))
  /-- An item of a list is edited. -/
  | item {inner : Shape} {before after : List Json} {v w : Json} (h : Edit inner v w) :
      Edit (.list inner) (.array (before ++ v :: after)) (.array (before ++ w :: after))
  /-- What is there is edited, where it might not be. -/
  | inner {inner : Shape} {v w : Json} (h : Edit inner v w) : Edit (.maybe inner) v w

/-- A tree of a shape in which a record repeats a member, or has nothing in a member where that is
not what its absence means. -/
inductive Flawed : Shape → Json → Prop
  | repeated {record name : String} {members : Members} {entries : List (String × Json)}
      (hname : name ∈ members.names) (h : 1 < (entries.map Prod.fst).count name) :
      Flawed (.record record members) (.object entries)
  | null {record name : String} {members : Members} {entries : List (String × Json)}
      (hname : name ∈ members.names) (habsent : .null ∉ absent record name)
      (h : (name, .null) ∈ entries) :
      Flawed (.record record members) (.object entries)
  | member {record name : String} {members : Members} {presence : Presence} {shape : Shape}
      {entries : List (String × Json)} {v : Json}
      (hfield : (name, presence, shape) ∈ members.fields) (h : (name, v) ∈ entries)
      (hv : Flawed shape v) :
      Flawed (.record record members) (.object entries)
  | listed {record : String} {members : Members} {items : List Json}
      (h : Flawed (.record record members) (.object (members.names.zip items))) :
      Flawed (.record record members) (.array items)
  | item {inner : Shape} {items : List Json} {v : Json} (h : v ∈ items) (hv : Flawed inner v) :
      Flawed (.list inner) (.array items)
  | inner {inner : Shape} {v : Json} (h : Flawed inner v) : Flawed (.maybe inner) v

/-! ### What is the same in two readings -/

/-- The tree is `null`. -/
def isNull : Json → Bool
  | .null => true
  | _ => false

/-- What two readings of a member have in common: the same, or nothing and what it means. -/
def SlotAlike (ds : List Json) (shape : Shape) (alike : shape.Val → shape.Val → Prop) :
    Option shape.Val → Option shape.Val → Prop
  | none, none => True
  | some x, some y => alike x y
  | some x, none => ∃ d ∈ ds, readTree shape d = .ok x
  | none, some y => ∃ d ∈ ds, readTree shape d = .ok y

mutual

/-- Two readings that say the same. -/
def Alike : (shape : Shape) → shape.Val → shape.Val → Prop
  | .text _, x, y => x = y
  | .flag, x, y => x = y
  | .count, x, y => x = y
  | .maybe inner, x, y => Option.Rel (Alike inner) x y
  | .list inner, xs, ys => List.Forall₂ (Alike inner) xs ys
  | .choice _, x, y => x = y
  | .record record members, xs, ys => MembersAlike record members xs ys
  | .table _, es, es' => es = es'

/-- Two readings of the members of a record that say the same. -/
def MembersAlike (record : String) : (members : Members) → members.Val → members.Val → Prop
  | .nil, _, _ => True
  | .cons name presence shape rest, (x, xs), (y, ys) =>
    SlotAlike (absent record name) shape (Alike shape) (presence.filled x) (presence.filled y)
      ∧ MembersAlike record rest xs ys

end

/-- Some trees say the same as leaving a member out exactly if it is optional. They are trees of the
member, and `null` is one of them if the member may be nothing. -/
structure Replaceable (ds : List Json) (presence : Presence) (shape : Shape) : Prop where
  required : ds = [] ↔ presence = .required
  read : ∀ d ∈ ds, (readTree shape d).isOk = true
  null : (readTree shape .null).isOk = true → ∃ d ∈ ds, d.isNull = true

instance (ds : List Json) (presence : Presence) (shape : Shape) :
    Decidable (Replaceable ds presence shape) :=
  decidable_of_iff ((ds = [] ↔ presence = .required)
      ∧ (∀ d ∈ ds, (readTree shape d).isOk = true)
      ∧ ((readTree shape .null).isOk = true → ∃ d ∈ ds, d.isNull = true))
    ⟨fun h => ⟨h.1, h.2.1, h.2.2⟩, fun h => ⟨h.required, h.read, h.null⟩⟩

mutual

/-- Every record of the shape has each member once, and `absent` fits it. -/
def Fits : Shape → Prop
  | .text _ | .flag | .count | .choice _ | .table _ => True
  | .maybe inner => Fits inner
  | .list inner => Fits inner
  | .record record members => members.names.Nodup ∧ MembersFit record members

/-- Each of the members has a shape that fits. -/
def MembersFit (record : String) : Members → Prop
  | .nil => True
  | .cons name presence shape rest =>
    Replaceable (absent record name) presence shape ∧ Fits shape ∧ MembersFit record rest

end

mutual

instance decidableFits : (shape : Shape) → Decidable (Fits absent shape)
  | .text _ | .flag | .count | .choice _ | .table _ => instDecidableTrue
  | .maybe inner => decidableFits inner
  | .list inner => decidableFits inner
  | .record record members =>
    have := decidableMembersFit record members
    inferInstanceAs (Decidable (members.names.Nodup ∧ MembersFit absent record members))

instance decidableMembersFit (record : String) :
    (members : Members) → Decidable (MembersFit absent record members)
  | .nil => instDecidableTrue
  | .cons name presence shape rest =>
    have := decidableFits shape
    have := decidableMembersFit record rest
    inferInstanceAs (Decidable (Replaceable (absent record name) presence shape
      ∧ Fits absent shape ∧ MembersFit absent record rest))

end

end

variable {absent : String → String → List Json} {record name : String} {presence : Presence}
variable {shape inner : Shape} {members : Members} {v w d : Json} {ds : List Json}

lemma Replaceable.eq_optional (h : Replaceable ds presence shape) (hd : d ∈ ds) :
    presence = .optional := by
  cases presence with
  | optional => rfl
  | required =>
    rw [h.required.2 rfl] at hd
    cases hd

lemma Replaceable.null_mem (h : Replaceable ds presence shape) {x : shape.Val}
    (hx : readTree shape .null = .ok x) : .null ∈ ds := by
  obtain ⟨d, hd, hnull⟩ := h.null (Except.isOk_iff.2 ⟨x, hx⟩)
  cases d with
  | null => exact hd
  | _ => cases hnull

mutual

lemma Alike.refl : (shape : Shape) → (x : shape.Val) → Alike absent shape x x
  | .text _, x => Eq.refl x
  | .flag, x => Eq.refl x
  | .count, x => Eq.refl x
  | .maybe _, none => .none
  | .maybe inner, some x => .some (Alike.refl inner x)
  | .list inner, _ => List.forall₂_same.2 fun x _ => Alike.refl inner x
  | .choice _, x => Eq.refl x
  | .record record members, xs => MembersAlike.refl record members xs
  | .table _, es => Eq.refl es

lemma MembersAlike.refl (record : String) : (members : Members) → (xs : members.Val) →
    MembersAlike absent record members xs xs
  | .nil, _ => trivial
  | .cons name presence shape rest, (x, xs) => by
    refine ⟨?_, MembersAlike.refl record rest xs⟩
    cases presence.filled x with
    | none => trivial
    | some x => exact Alike.refl shape x

end

lemma alike_middle {x y : inner.Val} (h : Alike absent inner x y) (before after : List inner.Val) :
    Alike absent (.list inner) (before ++ x :: after) (before ++ y :: after) :=
  List.rel_append (Alike.refl (.list inner) before) (.cons h (Alike.refl (.list inner) after))

/-! ### What an edit does to a reading -/

lemma exists_filled {α : Type} (presence : Presence) (x : α) :
    ∃ slot, presence.filled slot = some x :=
  match presence with
  | .required => ⟨x, rfl⟩
  | .optional => ⟨some x, rfl⟩

/-- A value under a name that is read is the only one. -/
lemma readAs_middle {vs ws : List Json} {slot : Option shape.Val}
    (h : ReadAs shape (vs ++ v :: ws) slot) :
    vs = [] ∧ ws = [] ∧ ∃ x, readTree shape v = .ok x ∧ slot = some x := by
  match vs, ws with
  | [], [] => exact ⟨rfl, rfl, h⟩
  | [], _ :: _ => cases h
  | [_], _ => cases h
  | _ :: _ :: _, _ => cases h

/-- What is read of a member from some values is read alike from others. -/
def CarriesOver (absent : String → String → List Json) (record name : String)
    (presence : Presence) (shape : Shape) (vs ws : List Json) : Prop :=
  ∀ x, ReadAs shape vs (presence.filled x) → ∃ y, ReadAs shape ws (presence.filled y)
    ∧ SlotAlike (absent record name) shape (Alike absent shape) (presence.filled x)
      (presence.filled y)

lemma CarriesOver.of_perm {vs ws : List Json} (h : vs.Perm ws) :
    CarriesOver absent record name presence shape vs ws :=
  fun x hx => ⟨x, hx.perm h,
    (MembersAlike.refl record (.cons name presence shape .nil) (x, ())).1⟩

/-- A value is left out that means what its absence means. -/
lemma CarriesOver.drop (hreplace : Replaceable (absent record name) presence shape)
    (hd : d ∈ absent record name) (h : readTree shape v = readTree shape d)
    (before after : List Json) :
    CarriesOver absent record name presence shape (before ++ v :: after) (before ++ after) := by
  intro x hx
  obtain ⟨rfl, rfl, y, hy, hslot⟩ := readAs_middle hx
  cases hreplace.eq_optional hd
  refine ⟨none, rfl, ?_⟩
  rw [hslot]
  exact ⟨d, hd, h ▸ hy⟩

/-- A value is written that means what its absence means. -/
lemma CarriesOver.supply (hreplace : Replaceable (absent record name) presence shape)
    (hd : d ∈ absent record name) :
    CarriesOver absent record name presence shape [] [d] := by
  intro x hx
  cases hreplace.eq_optional hd
  obtain ⟨y, hy⟩ := Except.isOk_iff.1 (hreplace.read d hd)
  obtain rfl : x = none := hx
  exact ⟨some y, ⟨y, hy, rfl⟩, d, hd, hy⟩

/-- A value is replaced by one that is read alike. -/
lemma CarriesOver.edit (h : ∀ x, readTree shape v = .ok x →
      ∃ y, readTree shape w = .ok y ∧ Alike absent shape x y) (before after : List Json) :
    CarriesOver absent record name presence shape (before ++ v :: after)
      (before ++ w :: after) := by
  intro x hx
  obtain ⟨rfl, rfl, y, hy, hslot⟩ := readAs_middle hx
  obtain ⟨z, hz, halike⟩ := h y hy
  obtain ⟨slot, hfilled⟩ := exists_filled presence z
  refine ⟨slot, ⟨z, hz, hfilled⟩, ?_⟩
  rw [hslot, hfilled]
  exact halike

/-- Members that are all read alike make records that are read alike. -/
lemma ReadFrom.carriesOver {get get' : String → List Json} :
    {members : Members} → {xs : members.Val} → ReadFrom get members xs →
    (∀ name presence shape, (name, presence, shape) ∈ members.fields →
      CarriesOver absent record name presence shape (get name) (get' name)) →
    ∃ ys, ReadFrom get' members ys ∧ MembersAlike absent record members xs ys
  | .nil, _, _, _ => ⟨(), trivial, trivial⟩
  | .cons name presence shape rest, (x, xs), ⟨hx, hxs⟩, h => by
    obtain ⟨y, hy, halike⟩ := h name presence shape List.mem_cons_self x hx
    obtain ⟨ys, hys, hmore⟩ := hxs.carriesOver fun name presence shape hfield =>
      h name presence shape (List.mem_cons_of_mem _ hfield)
    exact ⟨(y, ys), ⟨hy, hys⟩, halike, hmore⟩

lemma MembersFit.of_mem : {members : Members} → MembersFit absent record members →
    (name, presence, shape) ∈ members.fields →
    Replaceable (absent record name) presence shape ∧ Fits absent shape
  | .nil, _, h => nomatch h
  | .cons _ _ _ _, ⟨hreplace, hshape, hrest⟩, h => by
    obtain heq | h := List.mem_cons.1 h
    · cases heq
      exact ⟨hreplace, hshape⟩
    · exact hrest.of_mem h

lemma Edit.ne_null (h : Edit absent shape v w) : v ≠ .null ∧ w ≠ .null := by
  induction h with
  | inner _ ih => exact ih
  | _ => exact ⟨nofun, nofun⟩

lemma Flawed.ne_null (h : Flawed absent shape v) : v ≠ .null := by
  induction h with
  | inner _ ih => exact ih
  | _ => nofun

lemma under_filter_has (hname : name ∈ members.names) (entries : List (String × Json)) :
    under name (entries.filter fun e => members.has e.1) = under name entries := by
  rw [under, under, List.filter_filter]
  refine congrArg (List.map Prod.snd) (List.filter_congr fun e _ => ?_)
  cases hkey : e.1 == name with
  | false => rfl
  | true =>
    rw [beq_iff_eq.1 hkey, (Members.has_iff members).2 hname]
    rfl

section

variable {entries entries' : List (String × Json)} {xs : members.Val}
variable (hfit : Fits absent (.record record members))
include hfit

/-- Objects are read alike if each member is. -/
lemma exists_alike_of_carriesOver
    (h : readTree (.record record members) (.object entries) = .ok xs)
    (hunder : ∀ name presence shape, (name, presence, shape) ∈ members.fields →
      CarriesOver absent record name presence shape (under name entries) (under name entries')) :
    ∃ ys, readTree (.record record members) (.object entries') = .ok ys
      ∧ Alike absent (.record record members) xs ys := by
  obtain ⟨ys, hys, halike⟩ := ((readTree_object_iff hfit.1).1 h).carriesOver hunder
  exact ⟨ys, (readTree_object_iff hfit.1).2 hys, halike⟩

/-- Objects are read alike if one member is and the others are given the same. -/
lemma exists_alike_of_field
    (h : readTree (.record record members) (.object entries) = .ok xs)
    (hfield : (name, presence, shape) ∈ members.fields)
    (hself : CarriesOver absent record name presence shape (under name entries)
      (under name entries'))
    (hothers : ∀ key, key ≠ name → under key entries = under key entries') :
    ∃ ys, readTree (.record record members) (.object entries') = .ok ys
      ∧ Alike absent (.record record members) xs ys := by
  refine exists_alike_of_carriesOver hfit h fun key presence' shape' hkey => ?_
  by_cases hname : key = name
  · cases List.inj_on_of_nodup_map hfit.1 hkey hfield hname
    exact hself
  · exact .of_perm (.of_eq (hothers key hname))

end

/-- **Edits do not change what a tree says.** -/
theorem Edit.readTree (h : Edit absent shape v w) (hfit : Fits absent shape) (x : shape.Val)
    (hx : readTree shape v = .ok x) :
    ∃ y, Json.readTree shape w = .ok y ∧ Alike absent shape x y := by
  induction h with
  | permute h =>
    exact exists_alike_of_carriesOver hfit hx fun name _ _ _ => .of_perm ((h.filter _).map _)
  | unknown h =>
    refine exists_alike_of_carriesOver hfit hx fun name _ _ hfield => .of_perm (.of_eq ?_)
    have hname := Members.mem_names hfield
    rw [← under_filter_has hname, h, under_filter_has hname]
  | drop hfield hd h =>
    refine exists_alike_of_field hfit hx hfield ?_ fun key hkey => ?_
    · rw [under_append, under_append, under_cons_self]
      exact .drop (hfit.2.of_mem hfield).1 hd h _ _
    · rw [under_append, under_append, under_cons_of_ne hkey.symm]
  | @supply record name members presence shape before after d hfield hd hnew =>
    refine exists_alike_of_field hfit hx hfield ?_ fun key hkey => ?_
    · have hnone : under name (before ++ after) = [] := under_eq_nil_iff.2 hnew
      obtain ⟨hbefore, hafter⟩ := List.append_eq_nil_iff.1 (under_append.symm.trans hnone)
      rw [hnone, under_append, under_cons_self, hbefore, hafter]
      exact .supply (hfit.2.of_mem hfield).1 hd
    · rw [under_append, under_append, under_cons_of_ne hkey.symm]
  | @listed record members entries items hlength h =>
    have hobject : ∃ y, Json.readTree (.record record members)
          (.object (members.names.zip items)) = .ok y
        ∧ Alike absent (.record record members) x y := by
      refine exists_alike_of_carriesOver hfit hx fun name _ _ hfield => ?_
      obtain hsame | ⟨hnone, d, hd, hgiven⟩ := h name (Members.mem_names hfield)
      · exact .of_perm (.of_eq hsame.symm)
      · rw [hnone, hgiven]
        exact .supply (hfit.2.of_mem hfield).1 hd
    obtain ⟨y, hy, halike⟩ := hobject
    exact ⟨y, (readTree_array_iff hfit.1).2 ⟨hlength, hy⟩, halike⟩
  | named =>
    exact ⟨x, ((readTree_array_iff hfit.1).1 hx).2, .refl _ x⟩
  | member hfield h ih =>
    refine exists_alike_of_field hfit hx hfield ?_ fun key hkey => ?_
    · rw [under_append, under_append, under_cons_self, under_cons_self]
      exact .edit (ih (hfit.2.of_mem hfield).2) _ _
    · rw [under_append, under_append, under_cons_of_ne hkey.symm, under_cons_of_ne hkey.symm]
  | item h ih =>
    obtain ⟨xs, more, hxs, hmore, rfl⟩ := Except.mapM_append_eq_ok_iff.1 hx
    obtain ⟨y, ys, hy, hys, rfl⟩ := Except.mapM_cons_eq_ok_iff.1 hmore
    obtain ⟨z, hz, halike⟩ := ih hfit y hy
    refine ⟨xs ++ z :: ys, Except.mapM_append_eq_ok_iff.2 ⟨xs, z :: ys, hxs, ?_, rfl⟩, ?_⟩
    · exact Except.mapM_cons_eq_ok_iff.2 ⟨z, ys, hz, hys, rfl⟩
    · exact alike_middle halike xs ys
  | inner h ih =>
    obtain ⟨hv, hw⟩ := h.ne_null
    rw [readTree_maybe _ hv] at hx
    obtain ⟨y, hy, rfl⟩ := Except.map_eq_ok_iff.1 hx
    obtain ⟨z, hz, halike⟩ := ih hfit y hy
    exact ⟨some z, (readTree_maybe _ hw).trans (by rw [hz]; rfl), .some halike⟩

/-! ### Flaws -/

lemma ReadFrom.of_mem {get : String → List Json} : {members : Members} → {xs : members.Val} →
    ReadFrom get members xs → (name, presence, shape) ∈ members.fields →
    ∃ slot, ReadAs shape (get name) slot
  | .nil, _, _, h => nomatch h
  | .cons _ presence _ _, (x, _), ⟨hx, hxs⟩, h => by
    obtain heq | h := List.mem_cons.1 h
    · cases heq
      exact ⟨presence.filled x, hx⟩
    · exact hxs.of_mem h

/-- A member of a record that is read has one value at most, which is read. -/
lemma read_of_mem {entries : List (String × Json)} {xs : members.Val}
    (hnames : members.names.Nodup) (hfield : (name, presence, shape) ∈ members.fields)
    (h : readTree (.record record members) (.object entries) = .ok xs) :
    under name entries = [] ∨ ∃ v x, under name entries = [v] ∧ readTree shape v = .ok x := by
  obtain ⟨slot, hslot⟩ := ((readTree_object_iff hnames).1 h).of_mem hfield
  match hvalues : under name entries with
  | [] => exact .inl rfl
  | [v] =>
    rw [hvalues] at hslot
    obtain ⟨x, hx, -⟩ := hslot
    exact .inr ⟨v, x, rfl, hx⟩
  | _ :: _ :: _ =>
    rw [hvalues] at hslot
    cases hslot

/-- **A flawed tree is not read.** -/
theorem Flawed.not_read (h : Flawed absent shape v) (hfit : Fits absent shape) (x : shape.Val) :
    Json.readTree shape v ≠ .ok x := by
  intro hx
  induction h with
  | repeated hname h =>
    obtain ⟨⟨name, presence, shape⟩, hfield, rfl⟩ := List.mem_map.1 hname
    rw [← length_under] at h
    obtain hnone | ⟨u, -, hu, -⟩ := read_of_mem hfit.1 hfield hx
    · rw [hnone] at h
      cases h
    · rw [hu] at h
      exact absurd h (Nat.lt_irrefl 1)
  | null hname habsent h =>
    obtain ⟨⟨name, presence, shape⟩, hfield, rfl⟩ := List.mem_map.1 hname
    obtain hnone | ⟨u, y, hu, hy⟩ := read_of_mem hfit.1 hfield hx
    · exact under_eq_nil_iff.1 hnone _ h rfl
    · rw [← mem_under, hu] at h
      cases List.mem_singleton.1 h
      exact habsent ((hfit.2.of_mem hfield).1.null_mem hy)
  | member hfield h hv ih =>
    obtain hnone | ⟨u, y, hu, hy⟩ := read_of_mem hfit.1 hfield hx
    · exact under_eq_nil_iff.1 hnone _ h rfl
    · rw [← mem_under, hu] at h
      cases List.mem_singleton.1 h
      exact ih (hfit.2.of_mem hfield).2 y hy
  | listed h ih => exact ih hfit x ((readTree_array_iff hfit.1).1 hx).2
  | item h hv ih =>
    obtain ⟨y, -, hy⟩ := Except.exists_mem_of_mapM hx h
    exact ih hfit y hy
  | inner h ih =>
    rw [readTree_maybe _ h.ne_null] at hx
    obtain ⟨y, hy, -⟩ := Except.map_eq_ok_iff.1 hx
    exact ih hfit y hy

end NotNullLint.Json
