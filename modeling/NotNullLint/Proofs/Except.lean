import Mathlib.Tactic.Lemma

/-!
Attempts that may fail.

A chain of attempts succeeds exactly if each of them does. With these a chain is taken apart from
its result, so that no reader has to be followed through its failures, and two chains are compared
by what they come to, whatever the reason of a failure.
-/

namespace Except

variable {ε δ α β : Type}

lemma bind_eq_ok_iff {x : Except ε α} {f : α → Except ε β} {b : β} :
    x.bind f = .ok b ↔ ∃ a, x = .ok a ∧ f a = .ok b := by
  cases x <;> simp [Except.bind]

lemma map_eq_ok_iff {x : Except ε α} {f : α → β} {b : β} :
    x.map f = .ok b ↔ ∃ a, x = .ok a ∧ f a = b := by
  cases x <;> simp [Except.map]

lemma mapError_eq_ok_iff {x : Except ε α} {f : ε → δ} {a : α} :
    x.mapError f = .ok a ↔ x = .ok a := by
  cases x with
  | error e => exact ⟨nofun, nofun⟩
  | ok b =>
    exact ⟨fun h => congrArg Except.ok (Except.ok.inj h),
      fun h => congrArg Except.ok (Except.ok.inj h)⟩

lemma mapM_cons_eq_ok_iff {g : α → Except ε β} {a : α} {as : List α} {bs : List β} :
    (a :: as).mapM g = .ok bs ↔ ∃ c cs, g a = .ok c ∧ as.mapM g = .ok cs ∧ bs = c :: cs := by
  rw [List.mapM_cons]
  constructor
  · intro h
    obtain ⟨c, hc, h⟩ := bind_eq_ok_iff.1 h
    obtain ⟨cs, hcs, h⟩ := bind_eq_ok_iff.1 h
    exact ⟨c, cs, hc, hcs, (ok.inj h).symm⟩
  · rintro ⟨c, cs, hc, hcs, rfl⟩
    rw [hc, hcs]
    rfl

lemma mapM_append_eq_ok_iff {g : α → Except ε β} {as bs : List α} {cs : List β} :
    (as ++ bs).mapM g = .ok cs
      ↔ ∃ xs ys, as.mapM g = .ok xs ∧ bs.mapM g = .ok ys ∧ cs = xs ++ ys := by
  rw [List.mapM_append]
  constructor
  · intro h
    obtain ⟨xs, hxs, h⟩ := bind_eq_ok_iff.1 h
    obtain ⟨ys, hys, h⟩ := bind_eq_ok_iff.1 h
    exact ⟨xs, ys, hxs, hys, (ok.inj h).symm⟩
  · rintro ⟨xs, ys, hxs, hys, rfl⟩
    rw [hxs, hys]
    rfl

/-- All that a list of attempts comes to, one of them comes to. -/
lemma exists_of_mem_mapM {g : α → Except ε β} {as : List α} {bs : List β} {b : β}
    (h : as.mapM g = .ok bs) (hb : b ∈ bs) : ∃ a ∈ as, g a = .ok b := by
  induction as generalizing bs with
  | nil =>
    cases h
    cases hb
  | cons a as ih =>
    obtain ⟨c, cs, hc, hcs, rfl⟩ := mapM_cons_eq_ok_iff.1 h
    obtain rfl | hb := List.mem_cons.1 hb
    · exact ⟨a, List.mem_cons_self, hc⟩
    · obtain ⟨d, hd, hgd⟩ := ih hcs hb
      exact ⟨d, List.mem_cons_of_mem a hd, hgd⟩

/-- What one of a list of attempts comes to is among what all come to. -/
lemma exists_mem_of_mapM {g : α → Except ε β} {as : List α} {bs : List β} {a : α}
    (h : as.mapM g = .ok bs) (ha : a ∈ as) : ∃ b ∈ bs, g a = .ok b := by
  induction as generalizing bs with
  | nil => cases ha
  | cons d as ih =>
    obtain ⟨c, cs, hc, hcs, rfl⟩ := mapM_cons_eq_ok_iff.1 h
    obtain rfl | ha := List.mem_cons.1 ha
    · exact ⟨c, List.mem_cons_self, hc⟩
    · obtain ⟨b, hb, hgb⟩ := ih hcs ha
      exact ⟨b, List.mem_cons_of_mem c hb, hgb⟩

lemma exists_mapM_eq_ok {g : α → Except ε β} {as : List α} (h : ∀ a ∈ as, ∃ b, g a = .ok b) :
    ∃ bs, as.mapM g = .ok bs := by
  induction as with
  | nil => exact ⟨[], rfl⟩
  | cons a as ih =>
    obtain ⟨b, hb⟩ := h a List.mem_cons_self
    obtain ⟨bs, hbs⟩ := ih fun c hc => h c (List.mem_cons_of_mem a hc)
    exact ⟨b :: bs, mapM_cons_eq_ok_iff.2 ⟨b, bs, hb, hbs, rfl⟩⟩

/-- What each attempt comes to may be changed after all have been made. -/
lemma mapM_map {γ : Type} (g : α → Except ε β) (h : β → γ) (as : List α) :
    (as.mapM fun a => (g a).map h) = (as.mapM g).map (List.map h) := by
  induction as with
  | nil => rfl
  | cons a as ih =>
    rw [List.mapM_cons, List.mapM_cons, ih]
    cases g a with
    | error e => rfl
    | ok b => cases as.mapM g <;> rfl

lemma isOk_iff {x : Except ε α} : x.isOk = true ↔ ∃ a, x = .ok a := by
  cases x with
  | error e => exact ⟨nofun, nofun⟩
  | ok a => exact ⟨fun _ => ⟨a, rfl⟩, fun _ => rfl⟩

/-! ### Up to the reason of a failure -/

@[simp] lemma toOption_ok (a : α) : (ok a : Except ε α).toOption = some a := rfl

@[simp] lemma toOption_error (e : ε) : (error e : Except ε α).toOption = none := rfl

lemma toOption_eq_some_iff {x : Except ε α} {a : α} : x.toOption = some a ↔ x = .ok a := by
  cases x <;> simp

@[simp] lemma toOption_bind (x : Except ε α) (f : α → Except ε β) :
    (x >>= f).toOption = x.toOption.bind fun a => (f a).toOption := by
  cases x <;> rfl

@[simp] lemma toOption_mapError (x : Except ε α) (f : ε → δ) :
    (x.mapError f).toOption = x.toOption := by
  cases x <;> rfl

@[simp] lemma toOption_map (x : Except ε α) (f : α → β) :
    (x.map f).toOption = x.toOption.map f := by
  cases x <;> rfl

end Except
