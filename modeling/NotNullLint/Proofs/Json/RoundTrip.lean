import NotNullLint.Proofs.Json.Agreement
import NotNullLint.Proofs.Json.Printing
import NotNullLint.Shape.Shaped

/-!
Reading what was written.
-/

namespace NotNullLint

mutual

/-- Values of the shape can be told from their trees: nothing is not taken for a value that may be
nothing itself, and no name stands for two things. Tables are left out: they may repeat a name. -/
def Shape.lossless : Shape → Bool
  | .text _ => true
  | .flag => true
  | .count => true
  | .maybe (.maybe _) => false
  | .maybe inner => inner.lossless
  | .list inner => inner.lossless
  | .choice names => names.Nodup
  | .record _ members => members.lossless
  | .table _ => false

/-- Values of the members can be told from their trees. -/
def Members.lossless : Members → Bool
  | .nil => true
  | .cons name _ shape rest => !rest.has name && shape.lossless && rest.lossless

end

namespace Json

lemma readTree_count (n : UInt64) : readTree .count (ofNat n.toNat) = .ok n := by
  have hvalue : Numeral.value? ⟨false, n.toNat, [], none⟩ = some (.natural n) := by
    have hlt : n.toNat < Nat.pow 2 64 := n.toNat_lt
    simp [Numeral.value?, hlt]
  change count (ofNat n.toNat) = .ok n
  simp only [count, ofNat, hvalue]

lemma indexOf?_cons (key name : String) (names : List String) :
    Shape.indexOf? key (name :: names)
      = if key = name then some ⟨0, Nat.succ_pos _⟩
        else (Shape.indexOf? key names).map Fin.succ := rfl

lemma indexOf?_get {names : List String} (h : names.Nodup) (i : Fin names.length) :
    Shape.indexOf? (names.get i) names = some i := by
  induction names with
  | nil => exact i.elim0
  | cons name names ih =>
    obtain ⟨hname, hnames⟩ := List.nodup_cons.1 h
    obtain ⟨k, hk⟩ := i
    rw [indexOf?_cons]
    cases k with
    | zero => exact if_pos rfl
    | succ k =>
      have hlt : k < names.length := Nat.lt_of_succ_lt_succ hk
      have hne : names.get ⟨k, hlt⟩ ≠ name := fun he => hname (he ▸ List.get_mem names ⟨k, hlt⟩)
      rw [List.get_cons_succ, if_neg hne, ih hnames ⟨k, hlt⟩]
      rfl

lemma readTree_choice {names : List String} (h : names.Nodup) (i : Fin names.length) :
    readTree (.choice names) (.text (names.get i)) = .ok i := by
  change choice.named names (names.get i) = .ok i
  rw [choice.named, indexOf?_get h]

lemma readTree_maybe (inner : Shape) {v : Json} (h : v ≠ .null) :
    readTree (.maybe inner) v = (readTree inner v).map some := by
  cases v with
  | null => exact absurd rfl h
  | _ => rfl

lemma mapM_map_ok {α β ε : Type} {f : β → Except ε α} {g : α → β} {as : List α}
    (h : ∀ a, f (g a) = .ok a) : (as.map g).mapM f = .ok as := by
  induction as with
  | nil => rfl
  | cons a as ih =>
    rw [List.map_cons, List.mapM_cons, h, ih]
    rfl

/-- The names of what is written of members are names of members. -/
lemma has_of_mem_toJson : (members : Members) → (vs : members.Val) → ∀ e ∈ members.toJson vs,
    members.has e.1 = true
  | .nil, _, e, he => nomatch he
  | .cons name .required shape rest, (v, vs), e, he => by
    obtain rfl | he := List.mem_cons.1 he
    · simp [Members.has]
    · simp [Members.has, has_of_mem_toJson rest vs e he]
  | .cons name .optional shape rest, (none, vs), e, he => by
    simp [Members.has, has_of_mem_toJson rest vs e he]
  | .cons name .optional shape rest, (some v, vs), e, he => by
    obtain rfl | he := List.mem_cons.1 he
    · simp [Members.has]
    · simp [Members.has, has_of_mem_toJson rest vs e he]

/-- Takes up entries of an object one after the other. -/
def takeAll (members : Members) (found : members.Found) (entries : List (String × Json)) :
    Except Mismatch members.Found :=
  entries.foldlM (fun found e => treeMember members e.1 found e.2) found

@[simp] lemma takeAll_cons (members : Members) (found : members.Found) (e : String × Json)
    (entries : List (String × Json)) :
    takeAll members found (e :: entries)
      = treeMember members e.1 found e.2 >>= fun found => takeAll members found entries :=
  List.foldlM_cons

/-- What has been read of a member, beside what has been read of those after it. -/
def beside {name : String} {presence : Presence} {shape : Shape} {rest : Members}
    (slot : Option shape.Val) (more : rest.Found) :
    (Members.cons name presence shape rest).Found :=
  (slot, more)

variable {name : String} {presence : Presence} {shape : Shape} {rest : Members}

lemma treeMember_of_ne {key : String} (h : key ≠ name) (slot : Option shape.Val)
    (more : rest.Found) (v : Json) :
    treeMember (.cons name presence shape rest) key (beside slot more) v
      = (treeMember rest key more v).map (beside slot) := by
  simp only [beside, treeMember, if_neg h]
  rfl

lemma treeMember_self {v : Json} {w : shape.Val} (hv : readTree shape v = .ok w)
    (more : rest.Found) :
    treeMember (.cons name presence shape rest) name (beside none more) v
      = .ok (beside (some w) more) := by
  simp only [beside, treeMember, if_true, hv]
  rfl

/-- Entries of other names leave a member as it is. -/
lemma takeAll_of_ne {entries : List (String × Json)} (h : ∀ e ∈ entries, e.1 ≠ name)
    (slot : Option shape.Val) (more : rest.Found) :
    takeAll (.cons name presence shape rest) (beside slot more) entries
      = (takeAll rest more entries).map (beside slot) := by
  induction entries generalizing more with
  | nil => rfl
  | cons e entries ih =>
    have hrest := ih fun e' he' => h e' (List.mem_cons_of_mem e he')
    rw [takeAll_cons, takeAll_cons, treeMember_of_ne (h e List.mem_cons_self)]
    cases treeMember rest e.1 more e.2 with
    | error m => rfl
    | ok more => exact hrest more

/-- An entry fills the member of its name, and the others fill those after it. -/
lemma takeAll_self {entries : List (String × Json)} (h : ∀ e ∈ entries, e.1 ≠ name) {v : Json}
    {w : shape.Val} (hv : readTree shape v = .ok w) (more : rest.Found) :
    takeAll (.cons name presence shape rest) (beside none more) ((name, v) :: entries)
      = (takeAll rest more entries).map (beside (some w)) := by
  rw [takeAll_cons, treeMember_self hv]
  exact takeAll_of_ne h (some w) more

lemma ne_of_mem_toJson (h : (Members.cons name presence shape rest).lossless = true)
    (vs : rest.Val) : ∀ e ∈ rest.toJson vs, e.1 ≠ name := by
  rintro e he rfl
  have hhas := has_of_mem_toJson rest vs e he
  simp [Members.lossless, hhas] at h

lemma toJson_ne_null {inner : Shape} (h : (Shape.maybe inner).lossless = true) (w : inner.Val) :
    inner.toJson w ≠ .null := by
  cases inner with
  | maybe inner => cases h
  | _ => exact nofun

mutual

/-- **Trees are read back.** -/
theorem readTree_toJson : (shape : Shape) → shape.lossless = true → (v : shape.Val) →
    readTree shape (shape.toJson v) = .ok v
  | .text _, _, _ => rfl
  | .flag, _, _ => rfl
  | .count, _, n => readTree_count n
  | .maybe inner, h, none => rfl
  | .maybe inner, h, some w => by
    have hinner : inner.lossless = true := by
      cases inner with
      | maybe inner => cases h
      | _ => exact h
    refine (readTree_maybe inner (toJson_ne_null h w)).trans ?_
    rw [readTree_toJson inner hinner w]
    rfl
  | .list inner, h, vs => mapM_map_ok (readTree_toJson inner h)
  | .choice _, h, i => readTree_choice (of_decide_eq_true h) i
  | .record name members, h, vs => by
    obtain ⟨found, hfound, hclose⟩ := takeAll_toJson members h vs
    change (takeAll members members.none (members.toJson vs) >>= fun found =>
      (members.close found).mapError Mismatch.missing) = .ok vs
    rw [hfound]
    change (members.close found).mapError Mismatch.missing = .ok vs
    rw [hclose]
    rfl
  | .table _, h, _ => nomatch h

theorem takeAll_toJson : (members : Members) → members.lossless = true → (vs : members.Val) →
    ∃ found, takeAll members members.none (members.toJson vs) = .ok found
      ∧ members.close found = .ok vs
  | .nil, _, () => ⟨(), rfl, rfl⟩
  | .cons name .required shape rest, h, (v, vs) => by
    have hne := ne_of_mem_toJson h vs
    simp only [Members.lossless, Bool.and_eq_true] at h
    obtain ⟨more, hmore, hclose⟩ := takeAll_toJson rest h.2 vs
    refine ⟨beside (some v) more, ?_, ?_⟩
    · refine (takeAll_self hne (readTree_toJson shape h.1.2 v) rest.none).trans ?_
      rw [hmore]
      rfl
    · change (rest.close more).map (fun vs => (v, vs)) = _
      rw [hclose]
      rfl
  | .cons name .optional shape rest, h, (none, vs) => by
    have hne := ne_of_mem_toJson h vs
    simp only [Members.lossless, Bool.and_eq_true] at h
    obtain ⟨more, hmore, hclose⟩ := takeAll_toJson rest h.2 vs
    refine ⟨beside none more, ?_, ?_⟩
    · refine (takeAll_of_ne hne none rest.none).trans ?_
      rw [hmore]
      rfl
    · change (rest.close more).map (fun vs => (none, vs)) = _
      rw [hclose]
      rfl
  | .cons name .optional shape rest, h, (some v, vs) => by
    have hne := ne_of_mem_toJson h vs
    simp only [Members.lossless, Bool.and_eq_true] at h
    obtain ⟨more, hmore, hclose⟩ := takeAll_toJson rest h.2 vs
    refine ⟨beside (some v) more, ?_, ?_⟩
    · refine (takeAll_self hne (readTree_toJson shape h.1.2 v) rest.none).trans ?_
      rw [hmore]
      rfl
    · change (rest.close more).map (fun vs => (some v, vs)) = _
      rw [hclose]
      rfl

end

/-- The text is one of the texts of the tree. -/
def SpelledAs (v : Json) (text : String) : Prop :=
  ∃ rest, Spells v text.toList rest ∧ skipSpace rest = []

lemma spelledAs_toText (v : Json) : v.SpelledAs v.toText := by
  refine ⟨[], ?_, rfl⟩
  rw [toText, String.toList_ofList, ← List.append_nil (print v)]
  exact spells_print v (apart_blanks (List.forall_mem_nil _))

end Json

/-! ### Texts of values -/

namespace Shaped

variable {α : Type} [Shaped α]

lemma ofJson_eq_ok_iff {a : α} {v : Json} :
    ofJson v = .ok a ↔ ∃ x, Json.readTree (shape α) v = .ok x ∧ ofVal x = a := by
  refine Except.map_eq_ok_iff.trans (exists_congr fun x => and_congr_left fun _ => ?_)
  exact Except.mapError_eq_ok_iff

/-- A text of a tree gives what the tree gives. -/
lemma ofText_eq_ok_iff {a : α} {v : Json} {text : String} (h : v.SpelledAs text) :
    ofText text = .ok a ↔ ofJson v = .ok a := by
  obtain ⟨rest, hspells, hrest⟩ := h
  rw [ofJson_eq_ok_iff]
  refine Except.map_eq_ok_iff.trans (exists_congr fun x => and_congr_left fun _ => ?_)
  rw [← Except.toOption_eq_some_iff, Json.toOption_read _ hspells hrest,
    Except.toOption_eq_some_iff]

/-- **Values survive being written.** Whichever text of the tree of a value is read, the value is
found again. -/
theorem ofText_of_spelledAs (h : (shape α).lossless = true) (a : α) {text : String}
    (htext : (toJson a).SpelledAs text) : ofText text = .ok a :=
  (ofText_eq_ok_iff htext).2
    (ofJson_eq_ok_iff.2 ⟨toVal a, Json.readTree_toJson (shape α) h (toVal a), ofVal_toVal a⟩)

lemma ofText_toText (h : (shape α).lossless = true) (a : α) :
    ofText (toJson a).toText = .ok a :=
  ofText_of_spelledAs h a (Json.spelledAs_toText (toJson a))

/-- Blanks may follow a text over several lines. -/
lemma ofText_toPrettyText_append (h : (shape α).lossless = true) (a : α) {blanks : String}
    (hblanks : ∀ c ∈ blanks.toList, Json.isSpace c = true) :
    ofText ((toJson a).toPrettyText ++ blanks) = .ok a := by
  refine ofText_of_spelledAs h a ⟨blanks.toList, ?_, ?_⟩
  · rw [Json.toPrettyText, String.toList_append, String.toList_ofList]
    exact Json.spells_pretty (toJson a) 0 (Json.apart_blanks hblanks)
  · rw [← List.append_nil blanks.toList, Json.skipSpace_append hblanks]
    rfl

end Shaped
end NotNullLint
