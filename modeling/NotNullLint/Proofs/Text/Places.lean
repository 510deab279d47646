import Mathlib.Data.List.Infix
import NotNullLint.Text.Basic

/-!
The places of a piece in a text.

If the first character of a piece does not return in it, no two of its places overlap, and none
reaches across a character of that kind. So a text can be cut in front of one: what is put in for the
piece on one side does not depend on the other.
-/

namespace NotNullLint
namespace Text

/-- The number of places in a text where a piece stands. -/
def places (piece text : List Char) : Nat := (suffixes text).countP piece.isPrefixOf

/-- A text is read from the left, a whole piece where one stands, and else a character. -/
theorem pieces_induction (IsPiece : List Char → Prop) (hne : ¬IsPiece [])
    {motive : List Char → Prop} (nil : motive [])
    (piece : ∀ p, IsPiece p → ∀ r, motive r → motive (p ++ r))
    (char : ∀ c r, (∀ p, IsPiece p → ¬p <+: c :: r) → motive r → motive (c :: r))
    (text : List Char) : motive text := by
  induction hlength : text.length using Nat.strong_induction_on generalizing text with
  | _ n ih =>
    subst hlength
    by_cases hpiece : ∃ p, IsPiece p ∧ p <+: text
    · obtain ⟨p, hp, r, rfl⟩ := hpiece
      have hlong : 0 < p.length := List.length_pos_iff.2 fun h => hne (h ▸ hp)
      exact piece p hp r (ih _ (by simpa using hlong) r rfl)
    · cases text with
      | nil => exact nil
      | cons c r =>
        exact char c r (fun p hp h => hpiece ⟨p, hp, h⟩) (ih _ (Nat.lt_succ_self _) r rfl)

/-! ### Replacing -/

section

variable {old new u r : List Char} {c : Char}

lemma replaceFrom_append (u : List Char) :
    replaceFrom old new u.length (u ++ r) = replaceAll old new r := by
  induction u with
  | nil => rfl
  | cons c u ih => exact ih

lemma replaceAll_piece (hne : old ≠ []) :
    replaceAll old new (old ++ r) = new ++ replaceAll old new r := by
  obtain ⟨m, tail, rfl⟩ := List.exists_cons_of_ne_nil hne
  have hstands : (m :: tail).isPrefixOf (m :: (tail ++ r)) = true :=
    List.isPrefixOf_iff_prefix.2 (List.prefix_append _ _)
  rw [replaceAll, List.cons_append, replaceFrom, if_pos hstands]
  exact congrArg _ (replaceFrom_append tail)

lemma replaceAll_cons (h : ¬old <+: c :: r) :
    replaceAll old new (c :: r) = c :: replaceAll old new r := by
  rw [replaceAll, replaceFrom, if_neg (mt List.isPrefixOf_iff_prefix.1 h)]
  rfl

/-! ### Counting -/

lemma places_cons : places old (c :: r) = places old r + if old <+: c :: r then 1 else 0 := by
  rw [places, suffixes, List.countP_cons, places]
  simp only [List.isPrefixOf_iff_prefix]

lemma places_cons_of_not_prefix (h : ¬old <+: c :: r) : places old (c :: r) = places old r := by
  rw [places_cons, if_neg h, Nat.add_zero]

/-- Where the piece has no place, nothing is put in for it. -/
lemma replaceAll_of_places_eq_zero (h : places old u = 0) : replaceAll old new u = u := by
  induction u with
  | nil => rfl
  | cons c u ih =>
    rw [places_cons, Nat.add_eq_zero_iff] at h
    have hstands : ¬old <+: c :: u := fun hstands => by simp [hstands] at h
    rw [replaceAll_cons hstands, ih h.1]

end

/-! ### Pieces that cannot overlap -/

section

variable {m : Char} {tail new u r s : List Char} (hm : m ∉ tail)

@[simp] lemma places_nil : places (m :: tail) [] = 0 := rfl

/-- Where the first character does not occur, there is no place. -/
lemma places_append_of_not_mem (hu : m ∉ u) :
    places (m :: tail) (u ++ r) = places (m :: tail) r := by
  induction u with
  | nil => rfl
  | cons c u ih =>
    rw [List.mem_cons, not_or] at hu
    have hstands : ¬m :: tail <+: c :: (u ++ r) :=
      fun h => hu.1 (List.cons_prefix_cons.1 h).1
    rw [List.cons_append, places_cons_of_not_prefix hstands, ih hu.2]

include hm

lemma places_piece : places (m :: tail) (m :: tail ++ r) = places (m :: tail) r + 1 := by
  have hstands : m :: tail <+: m :: (tail ++ r) := List.prefix_append (m :: tail) r
  rw [List.cons_append, places_cons, places_append_of_not_mem hm, if_pos hstands]

/-- No place reaches across the first character. -/
lemma prefix_append_cons_iff (hu : u ≠ []) : m :: tail <+: u ++ m :: s ↔ m :: tail <+: u := by
  refine ⟨fun h => ?_, fun h => h.trans (List.prefix_append _ _)⟩
  by_cases hlength : (m :: tail).length ≤ u.length
  · exact List.prefix_of_prefix_length_le h (List.prefix_append _ _) hlength
  · have hlonger : u ++ [m] <+: m :: tail := by
      refine List.prefix_of_prefix_length_le ?_ h (by simp at hlength ⊢; omega)
      exact (List.prefix_append_right_inj u).2 (List.prefix_append [m] s)
    obtain ⟨c, u, rfl⟩ := List.exists_cons_of_ne_nil hu
    rw [List.cons_append, List.cons_prefix_cons] at hlonger
    exact absurd (hlonger.2.mem (by simp)) hm

lemma places_append_cons :
    places (m :: tail) (u ++ m :: s) = places (m :: tail) u + places (m :: tail) (m :: s) := by
  induction u with
  | nil => rw [List.nil_append, places_nil, Nat.zero_add]
  | cons c u ih =>
    have hsame : m :: tail <+: c :: (u ++ m :: s) ↔ m :: tail <+: c :: u :=
      prefix_append_cons_iff hm (List.cons_ne_nil c u)
    simp only [List.cons_append, places_cons (c := c), hsame, ih]
    omega

lemma replaceAll_append_cons : replaceAll (m :: tail) new (u ++ m :: s)
    = replaceAll (m :: tail) new u ++ replaceAll (m :: tail) new (m :: s) := by
  induction u using pieces_induction (· = m :: tail) (by simp) with
  | nil => rfl
  | piece p hp u ih =>
    subst hp
    rw [List.append_assoc, replaceAll_piece (by simp), ih, replaceAll_piece (by simp),
      List.append_assoc]
  | char c u hfree ih =>
    have hstands : ¬m :: tail <+: c :: u := hfree _ rfl
    have hacross : ¬m :: tail <+: c :: (u ++ m :: s) := fun h =>
      hstands ((prefix_append_cons_iff hm (List.cons_ne_nil c u)).1 h)
    rw [List.cons_append, replaceAll_cons hacross, ih, replaceAll_cons hstands, List.cons_append]

/-- What is left without the piece is shorter by all of its places. -/
lemma length_replaceAll_nil (text : List Char) : (replaceAll (m :: tail) [] text).length
    + places (m :: tail) text * (m :: tail).length = text.length := by
  induction text using pieces_induction (· = m :: tail) (by simp) with
  | nil => simp
  | piece p hp r ih =>
    subst hp
    rw [replaceAll_piece (by simp), places_piece hm, List.nil_append, Nat.succ_mul,
      List.length_append]
    omega
  | char c r hfree ih =>
    rw [replaceAll_cons (hfree _ rfl), places_cons_of_not_prefix (hfree _ rfl)]
    simp only [List.length_cons] at ih ⊢
    omega

end

end Text
end NotNullLint
