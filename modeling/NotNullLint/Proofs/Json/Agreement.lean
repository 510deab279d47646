import NotNullLint.Json.Tree
import NotNullLint.Proofs.Json.Skipping

/-!
Reading a text and reading its tree.

Texts are read without building their trees, from left to right. Whatever the shape, that comes to
the same as reading the tree: a text of it is accepted exactly if the tree is, with the same value,
and what follows the text remains to be read.
-/

namespace NotNullLint.Json

variable {α β : Type}

/-- Reading text comes to the same as reading a tree, up to the reason of a failure, and leaves what
follows the text of the tree. -/
inductive Agrees : Except Fault (Ahead α) → Except Mismatch α → List Char → Prop
  | ok (v : α) (rest : List Char) : Agrees (.ok (v, rest)) (.ok v) rest
  | error (f : Fault) (m : Mismatch) (rest : List Char) : Agrees (.error f) (.error m) rest

namespace Agrees

variable {x : Except Fault (Ahead α)} {y : Except Mismatch α} {t rest : List Char}

lemma ok_or_error (h : Agrees x y rest) :
    (∃ v, x = .ok (v, rest) ∧ y = .ok v) ∨ ∃ f m, x = .error f ∧ y = .error m := by
  cases h with
  | ok v => exact .inl ⟨v, rfl, rfl⟩
  | error f m => exact .inr ⟨f, m, rfl, rfl⟩

lemma map (h : Agrees x y rest) (f : α → β) :
    Agrees (x.map fun a => (f a.1, a.2)) (y.map f) rest := by
  cases h with
  | ok v => exact .ok _ _
  | error e m => exact .error _ _ _

lemma bind_pure (h : Agrees x y rest) (f : α → β) :
    Agrees (x >>= fun a => pure (f a.1, a.2)) (y.map f) rest := by
  cases h with
  | ok v => exact .ok _ _
  | error e m => exact .error _ _ _

lemma bind (h : Agrees x y t) {f : Ahead α → Except Fault (Ahead β)} {g : α → Except Mismatch β}
    (hfg : ∀ v, Agrees (f (v, t)) (g v) rest) : Agrees (x >>= f) (y >>= g) rest := by
  cases h with
  | ok v => exact hfg v
  | error e m => exact .error _ _ _

end Agrees

/-! ### Single values -/

variable {v : Json} {s rest : List Char}

/-- The text that a tree is. -/
def textOf (what : String) : Json → Except Mismatch String
  | .text t => .ok t
  | other => .error (.type other.kind what)

lemma agrees_readString (h : Spells v s rest) (what : String) :
    Agrees (readString what s) (textOf what v) rest := by
  obtain ⟨c, r, hs, hc⟩ := h.letter
  unfold readString
  cases v with
  | text t =>
    obtain ⟨r, hs, hread⟩ := h
    simp only [hs, hread]
    exact .ok _ _
  | _ =>
    have hne : c ≠ '"' := Form.ne_of_ofLetter hc (by rintro ⟨⟩)
    simp only [hs]
    split
    · simp_all
    · exact .error _ _ _

/-- The truth value that a tree is. -/
def flagOf : Json → Except Mismatch Bool
  | .flag b => .ok b
  | other => .error (.type other.kind Shape.flag.words)

lemma agrees_readFlag (h : Spells v s rest) : Agrees (readFlag s) (flagOf v) rest := by
  obtain ⟨c, r, hs, hc⟩ := h.letter
  unfold readFlag
  cases v with
  | flag b =>
    rw [show skipSpace s = flagText b ++ rest from h]
    cases b <;> exact .ok _ _
  | _ =>
    have ht : c ≠ 't' := Form.ne_of_ofLetter hc (by rintro ⟨⟩)
    have hf : c ≠ 'f' := Form.ne_of_ofLetter hc (by rintro ⟨⟩)
    simp only [hs]
    split
    · simp_all
    · simp_all
    · exact .error _ _ _

lemma agrees_readCount (h : Spells v s rest) : Agrees (readCount s) (count v) rest := by
  obtain ⟨c, r, hs, hc⟩ := h.letter
  unfold readCount
  cases v with
  | number n =>
    obtain ⟨limit, hscan⟩ := h
    rw [hs] at hscan
    simp only [hs, if_pos (Form.ofLetter_eq_number_iff.1 hc), readNumber, hscan, count]
    cases n.value? with
    | none => exact .error _ _ _
    | some k =>
      cases k with
      | natural k => exact .ok _ _
      | _ => exact .error _ _ _
  | _ =>
    have hne : ¬(c = '-' ∨ c.isDigit = true) := fun h => by
      rw [Form.ofLetter_eq_number_iff.2 h] at hc
      cases hc
    simp only [hs, if_neg hne]
    exact .error _ _ _

lemma agrees_readName {r : List Char} {t : String} (hread : readText r = .ok (t, rest))
    (names : List String) : Agrees (readName names ('"' :: r)) (choice.named names t) rest := by
  have hstring : readString "variant identifier" ('"' :: r) = .ok (t, rest) := by
    rw [readString, skipSpace_cons (by decide)]
    exact hread
  unfold readName choice.named
  rw [hstring]
  dsimp only
  cases Shape.indexOf? t names with
  | none => exact .error _ _ _
  | some i => exact .ok _ _

/-- The nothing that stands after the name of a choice. -/
def readNothing (s : List Char) : Except Fault (List Char) :=
  match skipSpace s with
  | 'n' :: r => literal ['u', 'l', 'l'] r
  | t => .error (wrongKind "unit" t)

lemma readNothing_null (h : Spells .null s rest) : readNothing s = .ok rest := by
  rw [readNothing, show skipSpace s = nullText ++ rest from h]
  rfl

lemma readNothing_error (h : Spells v s rest) (hv : v.form ≠ .null) :
    ∃ f, readNothing s = .error f := by
  obtain ⟨c, r, hs, hc⟩ := h.letter
  have hne : c ≠ 'n' := Form.ne_of_ofLetter hc fun h => hv (Option.some.inj h).symm
  unfold readNothing
  simp only [hs]
  split
  · simp_all
  · exact ⟨_, rfl⟩

/-- What stands after the name of a choice in an object, and the end of the object. -/
def readChoiceEnd (i : α) (s : List Char) : Except Fault (Ahead α) :=
  readColon s >>= fun t => readNothing t >>= fun u =>
    match skipSpace u with
    | '\x7d' :: r => .ok (i, r)
    | [] => .error (.before .endInObject [])
    | r => .error (.before .noValue r)

lemma readChoice_object (names : List String) (s : List Char) :
    readChoice names ('\x7b' :: s)
      = readNameMember names s >>= fun a => readChoiceEnd a.1 a.2 := by
  rw [readChoice, skipSpace_cons (by decide)]
  refine congrArg (readNameMember names s >>= ·) (funext fun a => ?_)
  refine congrArg (readColon a.2 >>= ·) (funext fun t => ?_)
  split
  · rename_i r h
    have hread : readNothing t = literal ['u', 'l', 'l'] r := by simp only [readNothing, h]
    exact hread ▸ rfl
  · have hread : readNothing t = .error (wrongKind "unit" (skipSpace t)) := by
      simp only [readNothing]
    exact hread ▸ rfl

/-- The name of a choice has nothing in it, and no other member after it. -/
def choiceEnd (i : α) : Json → List (String × Json) → Except Mismatch α
  | .null, [] => .ok i
  | v, [] => .error (.type v.kind "unit")
  | _, _ :: _ => .error (.value .map "map with a single key")

lemma agrees_readChoiceEnd {members : List (String × Json)} {t u w : List Char}
    (ht : skipSpace t = ':' :: u) (hv : Spells v u w) (h : SpellsMembers false members w rest)
    (i : α) : Agrees (readChoiceEnd i t) (choiceEnd i v members) rest := by
  have hcolon : readColon t = .ok u := by
    simp only [readColon, ht]
  simp only [readChoiceEnd, hcolon, bind, Except.bind]
  cases v with
  | null =>
    rw [readNothing_null hv]
    cases members with
    | nil =>
      simp only [show skipSpace w = '\x7d' :: rest from h]
      exact .ok _ _
    | cons m members =>
      obtain ⟨t', -, -, -, -, hcomma, -⟩ := h
      simp only [show skipSpace w = ',' :: t' from hcomma]
      exact .error _ _ _
  | _ =>
    obtain ⟨f, hf⟩ := readNothing_error hv nofun
    rw [hf]
    cases members with
    | nil => exact .error _ _ _
    | cons m members => exact .error _ _ _

/-- An object is a choice if it has one member, named as the choice, and nothing in it. -/
lemma agrees_readChoice_object {names : List String} {members : List (String × Json)}
    (h : SpellsMembers true members s rest) :
    Agrees (readChoice names ('\x7b' :: s)) (choice names (.object members)) rest := by
  rw [readChoice_object]
  cases members with
  | nil =>
    have hempty : readNameMember names s = .error (.near .noValue ('\x7d' :: rest)) := by
      simp only [readNameMember, show skipSpace s = '\x7d' :: rest from h]
    rw [hempty]
    exact .error _ _ _
  | cons m members =>
    obtain ⟨name, v⟩ := m
    obtain ⟨t, r, u, w, x, hparted, ht, hread, hu, hv, hmembers⟩ := h
    obtain rfl : s = t := hparted
    have hname : readNameMember names s = readName names ('"' :: r) := by
      simp only [readNameMember, ht]
    rw [hname]
    obtain ⟨i, hi, hnamed⟩ | ⟨f, m, hf, hm⟩ := (agrees_readName hread names).ok_or_error
    · have htree : choice names (.object ((name, v) :: members)) = choiceEnd i v members := by
        cases members with
        | nil => cases v <;> simp only [choice, hnamed] <;> rfl
        | cons m members => cases v <;> rfl
      rw [hi, htree]
      exact agrees_readChoiceEnd hu hv hmembers i
    · rw [hf]
      cases members with
      | nil =>
        simp only [choice, hm]
        exact .error _ _ _
      | cons m members => exact .error _ _ _

lemma agrees_readChoice (h : Spells v s rest) (names : List String) :
    Agrees (readChoice names s) (choice names v) rest := by
  obtain ⟨c, r, hs, hc⟩ := h.letter
  cases v with
  | text t =>
    obtain ⟨r, hs, hread⟩ := h
    rw [readChoice, hs]
    exact agrees_readName hread names
  | object members =>
    obtain ⟨r, hs, hmembers⟩ := h
    have hskip : readChoice names s = readChoice names ('\x7b' :: r) := by
      rw [readChoice, readChoice, hs, skipSpace_cons (by decide)]
    rw [hskip]
    exact agrees_readChoice_object hmembers
  | _ =>
    have htext : c ≠ '"' := Form.ne_of_ofLetter hc (by rintro ⟨⟩)
    have hobject : c ≠ '\x7b' := Form.ne_of_ofLetter hc (by rintro ⟨⟩)
    unfold readChoice
    simp only [hs]
    split
    · simp_all
    · simp_all
    · simp_all
    · exact .error _ _ _

/-! ### Parts of arrays and objects -/

variable {first : Bool} {t u : List Char}

lemma nextItem_end (h : skipSpace s = ']' :: rest) :
    nextItem first s = .ok (false, ']' :: rest) := by
  simp only [nextItem, h]

lemma nextItem_part (hparted : Parted first s t) (hv : Spells v t u) :
    nextItem first s = .ok (true, skipSpace t) := by
  obtain ⟨c, r, ht, hc⟩ := hv.letter
  have hne : c ≠ ']' := Form.ne_of_ofLetter hc (by rintro ⟨⟩)
  cases first with
  | true =>
    obtain rfl : s = t := hparted
    simp [nextItem, ht, hne]
  | false => simp [nextItem, show skipSpace s = ',' :: t from hparted, ht, hne]

lemma nextMember_end (h : skipSpace s = '\x7d' :: rest) :
    nextMember first s = .ok (false, '\x7d' :: rest) := by
  simp only [nextMember, h]

lemma nextMember_part {r : List Char} (hparted : Parted first s t) (ht : skipSpace t = '"' :: r) :
    nextMember first s = .ok (true, '"' :: r) := by
  cases first with
  | true =>
    obtain rfl : s = t := hparted
    simp [nextMember, ht]
  | false => simp [nextMember, show skipSpace s = ',' :: t from hparted, ht]

/-- An array is read item by item. -/
lemma agrees_readItems {item : List Char → Except Fault (Ahead α)} {take : Json → Except Mismatch α}
    (hitem : ∀ {v s rest}, Spells v s rest → Agrees (item s) (take v) rest) {items : List Json}
    (h : SpellsItems first items s rest) {fuel : Nat} (hfuel : items.length < fuel) :
    Agrees (readItems item fuel first s) (items.mapM take) (']' :: rest) := by
  induction items generalizing first s fuel with
  | nil =>
    obtain ⟨fuel, rfl⟩ := Nat.exists_eq_add_of_lt hfuel
    simp only [readItems, nextItem_end h]
    exact .ok _ _
  | cons v items ih =>
    obtain ⟨fuel, rfl⟩ := Nat.exists_eq_add_of_lt hfuel
    obtain ⟨t, u, hparted, hv, hitems⟩ := h
    simp only [readItems, nextItem_part hparted hv, List.mapM_cons]
    refine (hitem (spells_skipSpace.2 hv)).bind fun a => ?_
    refine (ih hitems (by simp only [List.length_cons]; omega)).bind fun as => ?_
    exact .ok _ _

/-- An object is read member by member. -/
lemma agrees_readMembers {member : String → α → List Char → Except Fault (Ahead α)}
    {take : α → String × Json → Except Mismatch α}
    (hmember : ∀ {name v u w x found}, skipSpace u = ':' :: w → Spells v w x →
      Agrees (member name found u) (take found (name, v)) x)
    {members : List (String × Json)} (h : SpellsMembers first members s rest) {fuel : Nat}
    (hfuel : members.length < fuel) (found : α) :
    Agrees (readMembers member fuel first found s) (members.foldlM take found)
      ('\x7d' :: rest) := by
  induction members generalizing first s fuel found with
  | nil =>
    obtain ⟨fuel, rfl⟩ := Nat.exists_eq_add_of_lt hfuel
    simp only [readMembers, nextMember_end h]
    exact .ok _ _
  | cons m members ih =>
    obtain ⟨fuel, rfl⟩ := Nat.exists_eq_add_of_lt hfuel
    obtain ⟨name, v⟩ := m
    obtain ⟨t, r, u, w, x, hparted, ht, hread, hu, hv, hmembers⟩ := h
    simp only [readMembers, nextMember_part hparted ht, List.foldlM_cons]
    change Agrees (readText r >>= _) _ _
    rw [hread]
    refine (hmember hu hv).bind fun found' => ?_
    exact ih hmembers (by simp only [List.length_cons]; omega) found'

/-! ### The ends of arrays and objects -/

/-- What was read of an array, if its end follows. -/
def upToEnd (x : Except Fault (Ahead α)) : Except Fault (Ahead α) :=
  x >>= fun a => (endArray a.2).map fun t => (a.1, t)

lemma agrees_upToEnd {x : Except Fault (Ahead α)} {y : Except Mismatch α}
    (h : Agrees x y (']' :: rest)) : Agrees (upToEnd x) y rest := by
  cases h with
  | ok v => exact .ok _ _
  | error f m => exact .error _ _ _

/-- What was read is put into a larger value. -/
lemma agrees_upToEnd_bind_pure {x : Except Fault (Ahead α)} {y : Except Mismatch α}
    (h : Agrees (upToEnd x) y rest) (f : α → β) :
    Agrees (upToEnd (x >>= fun a => pure (f a.1, a.2))) (y.map f) rest := by
  cases x with
  | error e =>
    obtain ⟨v, hv, -⟩ | ⟨e', m, -, rfl⟩ := h.ok_or_error
    · cases hv
    · exact .error _ _ _
  | ok a =>
    change Agrees ((endArray a.2).map fun t => (f a.1, t)) _ rest
    change Agrees ((endArray a.2).map fun t => (a.1, t)) y rest at h
    cases hend : endArray a.2 with
    | error e =>
      rw [hend] at h
      obtain ⟨v, hv, -⟩ | ⟨e', m, -, rfl⟩ := h.ok_or_error
      · cases hv
      · exact .error _ _ _
    | ok t =>
      rw [hend] at h
      obtain ⟨v, hv, rfl⟩ | ⟨e', m, hm, -⟩ := h.ok_or_error
      · cases hv
        exact .ok _ _
      · cases hm

/-- A part was read, and what follows is put together with it. -/
lemma agrees_upToEnd_bind {γ : Type} {x : Except Fault (Ahead α)} {y : Except Mismatch α}
    (hx : Agrees x y t) {f : List Char → Except Fault (Ahead β)} {z : Except Mismatch β}
    (hf : Agrees (upToEnd (f t)) z rest) (pair : α → β → γ) :
    Agrees (upToEnd (x >>= fun a => f a.2 >>= fun b => pure (pair a.1 b.1, b.2)))
      (y >>= fun a => z >>= fun b => pure (pair a b)) rest := by
  cases hx with
  | ok v => exact agrees_upToEnd_bind_pure hf (pair v)
  | error e m => exact .error _ _ _

lemma agrees_inArray {body : List Char → Except Fault (Ahead α)} {y : Except Mismatch α}
    (h : Agrees (upToEnd (body s)) y rest) : Agrees (inArray body s) y rest := by
  unfold inArray
  cases hbody : body s with
  | error f =>
    rw [hbody] at h
    obtain ⟨v, hv, -⟩ | ⟨f', m, -, rfl⟩ := h.ok_or_error
    · cases hv
    · exact .error _ _ _
  | ok a =>
    rw [hbody] at h
    exact h

lemma agrees_inObject {body : List Char → Except Fault (Ahead α)} {y : Except Mismatch α}
    (h : Agrees (body s) y ('\x7d' :: rest)) : Agrees (inObject body s) y rest := by
  unfold inObject
  obtain ⟨v, hv, rfl⟩ | ⟨f, m, hf, rfl⟩ := h.ok_or_error
  · rw [hv]
    exact .ok _ _
  · rw [hf]
    exact .error _ _ _

/-- The end of an array is not reached where an item follows. -/
lemma endArray_part (hparted : Parted first s t) (hv : Spells v t u) :
    ∃ f, endArray s = .error f := by
  obtain ⟨c, r, ht, hc⟩ := hv.letter
  cases first with
  | true =>
    obtain rfl : s = t := hparted
    have hne : c ≠ ']' := Form.ne_of_ofLetter hc (by rintro ⟨⟩)
    unfold endArray
    rw [ht]
    split
    · simp_all
    · split <;> exact ⟨_, rfl⟩
    · exact ⟨_, rfl⟩
    · exact ⟨_, rfl⟩
  | false =>
    simp only [endArray, show skipSpace s = ',' :: t from hparted]
    split <;> exact ⟨_, rfl⟩

/-! ### Values of any shape -/

section Shapes

variable {shape : Shape}
  (hshape : ∀ {v s rest}, Spells v s rest → Agrees (readShape shape s) (readTree shape v) rest)

include hshape

lemma agrees_maybe (h : Spells v s rest) :
    Agrees (readShape (.maybe shape) s) (readTree (.maybe shape) v) rest := by
  obtain ⟨c, r, hs, hc⟩ := h.letter
  cases v with
  | null =>
    simp only [readShape, show skipSpace s = nullText ++ rest from h]
    exact .ok _ _
  | _ =>
    have hne : c ≠ 'n' := Form.ne_of_ofLetter hc (by rintro ⟨⟩)
    have hsome := (hshape (spells_skipSpace.2 h)).map some
    simp only [readShape, hs] at hsome ⊢
    split
    · simp_all
    · exact hsome

lemma agrees_list (h : Spells v s rest) :
    Agrees (readShape (.list shape) s) (readTree (.list shape) v) rest := by
  obtain ⟨c, r, hs, hc⟩ := h.letter
  cases v with
  | array items =>
    obtain ⟨r, hs, hitems⟩ := h
    have hlength := hitems.length_lt
    simp only [readShape, hs]
    exact agrees_inArray (agrees_upToEnd (agrees_readItems hshape hitems (by omega)))
  | _ =>
    have hne : c ≠ '[' := Form.ne_of_ofLetter hc (by rintro ⟨⟩)
    simp only [readShape, hs]
    split
    · simp_all
    · exact .error _ _ _

lemma agrees_table (h : Spells v s rest) :
    Agrees (readShape (.table shape) s) (readTree (.table shape) v) rest := by
  obtain ⟨c, r, hs, hc⟩ := h.letter
  cases v with
  | object members =>
    obtain ⟨r, hs, hmembers⟩ := h
    have hlength := hmembers.length_lt
    simp only [readShape, hs]
    refine agrees_inObject (agrees_readMembers (fun hu hv => ?_) hmembers (by omega) [])
    simp only [readColon, hu]
    exact (hshape hv).bind_pure fun w => putMember _ w _
  | _ =>
    have hne : c ≠ '\x7b' := Form.ne_of_ofLetter hc (by rintro ⟨⟩)
    simp only [readShape, hs]
    split
    · simp_all
    · exact .error _ _ _

end Shapes

mutual

/-- **Reading text is reading its tree.** -/
theorem agrees_readShape : (shape : Shape) → {v : Json} → {s rest : List Char} →
    Spells v s rest → Agrees (readShape shape s) (readTree shape v) rest
  | .text what, v, s, rest, h => by
    have htree : readTree (.text what) v = textOf what v := by
      cases v <;> rfl
    rw [htree]
    exact agrees_readString h what
  | .flag, v, s, rest, h => by
    have htree : readTree .flag v = flagOf v := by
      cases v <;> rfl
    rw [htree]
    exact agrees_readFlag h
  | .count, _, _, _, h => agrees_readCount h
  | .maybe inner, _, _, _, h => agrees_maybe (agrees_readShape inner) h
  | .list inner, _, _, _, h => agrees_list (agrees_readShape inner) h
  | .choice names, _, _, _, h => agrees_readChoice h names
  | .record name members, v, s, rest, h => by
    obtain ⟨c, r, hs, hc⟩ := h.letter
    cases v with
    | array items =>
      obtain ⟨r, hs, hitems⟩ := h
      simp only [readShape, hs]
      exact agrees_inArray
        (agrees_readValues (members.words name) members 0 items.length hitems)
    | object entries =>
      obtain ⟨r, hs, hentries⟩ := h
      have hlength := hentries.length_lt
      simp only [readShape, hs]
      refine agrees_inObject ?_
      refine (agrees_readMembers (fun hu hv => agrees_readMember members _ _ hu hv) hentries
        (by omega) members.none).bind fun found => ?_
      dsimp only
      cases members.close found with
      | ok w => exact .ok _ _
      | error missing => exact .error _ _ _
    | _ =>
      have harray : c ≠ '[' := Form.ne_of_ofLetter hc (by rintro ⟨⟩)
      have hobject : c ≠ '\x7b' := Form.ne_of_ofLetter hc (by rintro ⟨⟩)
      simp only [readShape, hs]
      split
      · simp_all
      · simp_all
      · exact .error _ _ _
  | .table inner, _, _, _, h => agrees_table (agrees_readShape inner) h

/-- What follows the name of a member is read as the tree of the member is taken up. -/
theorem agrees_readMember : (members : Members) → (key : String) → (found : members.Found) →
    {v : Json} → {u w x : List Char} → skipSpace u = ':' :: w → Spells v w x →
    Agrees (readMember members key found u) (treeMember members key found v) x
  | .nil, key, found, v, u, w, x, hu, hv => by
    have hskip : skipMember found u = .ok (found, x) := by
      simp only [skipMember, readColon, hu, bind, Except.bind, skip_of_spells hv]
      rfl
    simp only [readMember, hskip]
    exact .ok _ _
  | .cons name presence shape rest, key, (slot, more), v, u, w, x, hu, hv => by
    simp only [readMember, treeMember]
    split
    · cases slot with
      | some _ => exact .error _ _ _
      | none =>
        simp only [readColon, hu]
        exact (agrees_readShape shape hv).bind_pure fun w => (some w, more)
    · exact (agrees_readMember rest key more hu hv).map _

/-- The array of the values of a record is read as the items of its tree are. -/
theorem agrees_readValues (expected : String) : (members : Members) → (done total : Nat) →
    {items : List Json} → {first : Bool} → {s rest : List Char} →
    SpellsItems first items s rest →
    Agrees (upToEnd (readValues expected members done first s))
      (treeValues expected members done total items) rest
  | .nil, done, total, items, first, s, rest, h => by
    cases items with
    | nil =>
      have hend : endArray s = .ok rest := by
        simp only [endArray, show skipSpace s = ']' :: rest from h]
      change Agrees ((endArray s).map fun t => ((), t)) (.ok ()) rest
      rw [hend]
      exact .ok _ _
    | cons v items =>
      obtain ⟨t, u, hparted, hv, -⟩ := h
      obtain ⟨f, hf⟩ := endArray_part hparted hv
      change Agrees ((endArray s).map fun t => ((), t)) (.error _) rest
      rw [hf]
      exact .error _ _ _
  | .cons _ .required shape more, done, total, items, first, s, rest, h => by
    cases items with
    | nil =>
      simp only [readValues, nextItem_end h, treeValues]
      exact .error _ _ _
    | cons v items =>
      obtain ⟨t, u, hparted, hv, hitems⟩ := h
      have hvalue := agrees_readShape shape (spells_skipSpace.2 hv)
      have hmore := agrees_readValues expected more (done + 1) total hitems
      simp only [readValues, nextItem_part hparted hv, treeValues]
      exact agrees_upToEnd_bind hvalue
        (f := fun t => readValues expected more (done + 1) false t) hmore fun w ws => (w, ws)
  | .cons _ .optional shape more, done, total, items, first, s, rest, h => by
    cases items with
    | nil =>
      have hend : SpellsItems first [] (']' :: rest) rest := skipSpace_cons (by decide) rest
      have hmore := agrees_readValues expected more (done + 1) total hend
      simp only [readValues, nextItem_end h, treeValues]
      exact agrees_upToEnd_bind_pure hmore fun ws => (none, ws)
    | cons v items =>
      obtain ⟨t, u, hparted, hv, hitems⟩ := h
      have hvalue := agrees_readShape shape (spells_skipSpace.2 hv)
      have hmore := agrees_readValues expected more (done + 1) total hitems
      simp only [readValues, nextItem_part hparted hv, treeValues]
      exact agrees_upToEnd_bind hvalue
        (f := fun t => readValues expected more (done + 1) false t) hmore fun w ws => (some w, ws)

end

/-- A whole text is accepted if its tree is, with the same value. -/
theorem toOption_read (shape : Shape) {text : String} (h : Spells v text.toList rest)
    (hrest : skipSpace rest = []) :
    (read shape text).toOption = (readTree shape v).toOption := by
  rw [read, Except.toOption_mapError, readAll]
  obtain ⟨w, hw, hw'⟩ | ⟨f, m, hf, hm⟩ := (agrees_readShape shape h).ok_or_error
  · simp only [hw, hw', bind, Except.bind, hrest]
    rfl
  · rw [hf, hm]
    rfl

end NotNullLint.Json
