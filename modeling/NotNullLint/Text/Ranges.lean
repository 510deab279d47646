/-!
# Ranges of characters

A class of characters is given by the ranges of their code points, in ascending order.
-/

namespace NotNullLint
namespace Text

/-- The code point lies in one of the ranges, ends included; the ranges ascend. -/
def inRanges (c : Char) : List (Nat × Nat) → Bool
  | [] => false
  | (first, last) :: rest => first ≤ c.toNat && (c.toNat ≤ last || inRanges c rest)

/-- The look-up in ascending ranges finds the range that holds the code point, if there is one. -/
theorem inRanges_iff {c : Char} {ranges : List (Nat × Nat)}
    (ascending : ranges.Pairwise fun r q => r.1 ≤ q.1) :
    inRanges c ranges = true ↔ ∃ r ∈ ranges, r.1 ≤ c.toNat ∧ c.toNat ≤ r.2 := by
  induction ranges with
  | nil => simp [inRanges]
  | cons r rest ih =>
    obtain ⟨before, rising⟩ := List.pairwise_cons.1 ascending
    simp only [inRanges, Bool.and_eq_true, Bool.or_eq_true, decide_eq_true_eq, ih rising,
      List.mem_cons]
    constructor
    · rintro ⟨low, high | ⟨q, hq, bounds⟩⟩
      · exact ⟨r, .inl rfl, low, high⟩
      · exact ⟨q, .inr hq, bounds⟩
    · rintro ⟨q, rfl | hq, low, high⟩
      · exact ⟨low, .inl high⟩
      · exact ⟨Nat.le_trans (before q hq) low, .inr ⟨q, hq, low, high⟩⟩

end Text
end NotNullLint
