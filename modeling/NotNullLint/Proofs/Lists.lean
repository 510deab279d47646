import Mathlib.Data.List.Basic
import Mathlib.Data.List.Sort
import Mathlib.Tactic.Lemma

/-!
Lists that are put together from parts, and lists in order.
-/

namespace NotNullLint

variable {α β : Type} {q : α → Bool} {f : α → List β} {as : List α}

lemma flatMap_filter (q : α → Bool) (f : α → List β) (as : List α) :
    (as.filter q).flatMap f = as.flatMap fun a => if q a then f a else [] := by
  induction as with
  | nil => rfl
  | cons a as ih => cases h : q a <;> simp [h, ih]

lemma flatMap_filter_of_nil (h : ∀ a ∈ as, ¬q a = true → f a = []) :
    (as.filter q).flatMap f = as.flatMap f := by
  rw [flatMap_filter]
  refine List.flatMap_congr fun a ha => ?_
  split
  · rfl
  · rename_i hq
    exact (h a ha hq).symm

/-- Lists in order are told by what is in them. -/
lemma eq_of_mem_iff_of_lt [Ord α] [Std.OrientedOrd α] {as bs : List α}
    (has : as.Pairwise fun a b => compare a b = .lt)
    (hbs : bs.Pairwise fun a b => compare a b = .lt) (h : ∀ a, a ∈ as ↔ a ∈ bs) : as = bs := by
  have hasymm {a b : α} (hlt : compare a b = .lt) : compare b a ≠ .lt := by
    have hswap : compare b a = (compare a b).swap := Std.OrientedCmp.eq_swap
    rw [hswap, hlt]
    nofun
  have : Std.Irrefl fun a b : α => compare a b = .lt := ⟨fun a hlt => hasymm hlt hlt⟩
  have : Std.Antisymm fun a b : α => compare a b = .lt :=
    ⟨fun a b hlt hgt => absurd hgt (hasymm hlt)⟩
  exact has.eq_of_mem_iff hbs h

end NotNullLint
