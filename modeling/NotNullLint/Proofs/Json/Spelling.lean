import Mathlib.Tactic.Lemma
import Mathlib.Tactic.SplitIfs
import NotNullLint.Json.Printer
import NotNullLint.Json.Skip
import NotNullLint.Proofs.Except

/-!
The texts of a tree.

One tree has many texts: blanks stand between any two parts of it, a number and a text are written
in several ways. `Spells` says that a text starts with one of the texts of a tree and how it goes
on, without saying how it is read; numbers and quoted texts are those that the strict scanners take.
-/

namespace NotNullLint.Json

/-! ### Blanks -/

lemma skipSpace_cons {c : Char} (h : isSpace c = false) (r : List Char) :
    skipSpace (c :: r) = c :: r := by
  simp [skipSpace, h]

lemma skipSpace_append {blanks : List Char} (h : ∀ c ∈ blanks, isSpace c = true)
    (s : List Char) : skipSpace (blanks ++ s) = skipSpace s :=
  List.dropWhile_append_of_pos h

@[simp] lemma skipSpace_skipSpace (s : List Char) : skipSpace (skipSpace s) = skipSpace s := by
  induction s with
  | nil => rfl
  | cons c r ih =>
    cases h : isSpace c with
    | true => simpa [skipSpace, h] using ih
    | false => rw [skipSpace_cons h, skipSpace_cons h]

lemma length_skipSpace_le (s : List Char) : (skipSpace s).length ≤ s.length :=
  (List.dropWhile_suffix isSpace).length_le

lemma length_lt_of_skipSpace {s r : List Char} {c : Char} (h : skipSpace s = c :: r) :
    r.length < s.length := by
  have hle := length_skipSpace_le s
  rwa [h] at hle

/-! ### What the scanners consume -/

lemma exists_of_digitRun_ne_nil {s : List Char} (h : digitRun s ≠ []) :
    ∃ d r, s = d :: r ∧ d.isDigit = true ∧ pastDigits s <:+ r := by
  cases s with
  | nil => exact absurd rfl h
  | cons d r =>
    cases hd : d.isDigit with
    | false => simp [digitRun, hd] at h
    | true =>
      refine ⟨d, r, rfl, hd, ?_⟩
      rw [pastDigits, List.dropWhile_cons_of_pos hd]
      exact List.dropWhile_suffix _

lemma suffix_of_scanWhole {strict : Bool} {s t : List Char} {n : Nat}
    (h : scanWhole strict s = .ok (n, t)) : ∃ d r, s = d :: r ∧ d.isDigit = true ∧ t <:+ r := by
  unfold scanWhole at h
  split at h
  · refine ⟨_, _, rfl, rfl, ?_⟩
    split at h
    · split at h
      · cases h
      · cases h
        exact List.suffix_refl _
    · cases h
      exact List.suffix_refl _
  · split at h
    · cases h
    · rename_i hne
      cases h
      exact exists_of_digitRun_ne_nil hne

lemma suffix_of_scanFraction {strict : Bool} {s t : List Char} {ds : List (Fin 10)}
    (h : scanFraction strict s = .ok (ds, t)) : t <:+ s := by
  unfold scanFraction at h
  split at h
  · split at h
    · cases h
    · cases h
      exact (List.dropWhile_suffix _).trans (List.suffix_cons ..)
  · cases h
    exact List.suffix_refl _

lemma suffix_of_scanExponent {strict : Bool} {s limit t : List Char} {e : Option Int}
    (h : scanExponent strict s = .ok (e, limit, t)) : t <:+ s := by
  unfold scanExponent at h
  split at h
  · dsimp only at h
    split at h
    · split at h
      · cases h
      · cases h
        refine (List.dropWhile_suffix _).trans (.trans ?_ (List.suffix_cons ..))
        split
        · exact List.suffix_cons ..
        · exact List.suffix_cons ..
        · exact List.suffix_refl _
    · cases h
      exact List.suffix_refl _
  · cases h
    exact List.suffix_refl _

lemma suffix_of_scanNumber {strict : Bool} {s : List Char} {n : Scanned}
    (h : scanNumber strict s = .ok n) :
    ∃ c r, s = c :: r ∧ (c = '-' ∨ c.isDigit = true) ∧ n.rest <:+ r := by
  unfold scanNumber at h
  dsimp only at h
  obtain ⟨⟨whole, t⟩, hwhole, h⟩ := Except.bind_eq_ok_iff.1 h
  obtain ⟨⟨fraction, u⟩, hfraction, h⟩ := Except.bind_eq_ok_iff.1 h
  obtain ⟨⟨exponent, limit, rest⟩, hexponent, h⟩ := Except.bind_eq_ok_iff.1 h
  cases h
  have hrest : rest <:+ t :=
    (suffix_of_scanExponent hexponent).trans (suffix_of_scanFraction hfraction)
  obtain ⟨d, r, hs, hd, ht⟩ := suffix_of_scanWhole hwhole
  split at hs
  · cases (show _ = d :: r from hs)
    exact ⟨_, _, rfl, .inl rfl, (hrest.trans ht).trans (List.suffix_cons d r)⟩
  · exact ⟨d, r, hs, .inr hd, hrest.trans ht⟩

lemma scanHex_ok {s t : List Char} {n : Nat} (h : scanHex s = .ok (n, t)) :
    ∃ a b c d, s = a :: b :: c :: d :: t := by
  unfold scanHex at h
  dsimp only at h
  split at h
  · split at h
    · cases h
      exact ⟨_, _, _, _, rfl⟩
    · cases h
  · cases h

lemma scanLowSurrogate_ok {s t : List Char} {n : Nat} (h : scanLowSurrogate s = .ok (n, t)) :
    ∃ r, s = '\\' :: 'u' :: r ∧ scanHex r = .ok (n, t) := by
  unfold scanLowSurrogate at h
  split at h
  · cases h
  · cases h
  · split at h
    · cases h
    · split at h
      · rename_i hhex _
        cases h
        exact ⟨_, rfl, hhex⟩
      · cases h
  · cases h
  · cases h

/-- An escape is one of a single letter, or has four digits, or is a pair of such. -/
lemma scanEscape_ok {s t : List Char} {c : Char} (h : scanEscape s = .ok (c, t)) :
    (∃ d, s = d :: t ∧ d ≠ 'u' ∧ plainEscape? d = some c)
      ∨ ∃ r n u, s = 'u' :: r ∧ scanHex r = .ok (n, u)
        ∧ (u = t ∨ ∃ r' m, u = '\\' :: 'u' :: r' ∧ scanHex r' = .ok (m, t)) := by
  unfold scanEscape at h
  split at h
  · cases h
  · split at h
    · cases h
    · rename_i hhex
      split at h
      · cases h
      · split at h
        · split at h
          · cases h
          · rename_i hlow
            obtain ⟨-, rfl⟩ := Prod.mk.inj (Except.ok.inj h)
            obtain ⟨r', hu, hhex'⟩ := scanLowSurrogate_ok hlow
            exact .inr ⟨_, _, _, rfl, hhex, .inr ⟨r', _, hu, hhex'⟩⟩
        · obtain ⟨-, rfl⟩ := Prod.mk.inj (Except.ok.inj h)
          exact .inr ⟨_, _, _, rfl, hhex, .inl rfl⟩
  · rename_i hne
    split at h
    · rename_i hplain
      cases h
      exact .inl ⟨_, rfl, hne, hplain⟩
    · cases h

lemma suffix_of_scanEscape {s t : List Char} {c : Char} (h : scanEscape s = .ok (c, t)) :
    t <:+ s := by
  have hhex {s t : List Char} {n : Nat} (h : scanHex s = .ok (n, t)) : t <:+ s := by
    obtain ⟨a, b, c, d, rfl⟩ := scanHex_ok h
    exact ⟨[a, b, c, d], rfl⟩
  obtain ⟨d, rfl, -, -⟩ | ⟨r, n, u, rfl, hr, rfl | ⟨r', m, rfl, hr'⟩⟩ := scanEscape_ok h
  · exact List.suffix_cons ..
  · exact (hhex hr).trans (List.suffix_cons ..)
  · exact (((hhex hr').trans (List.suffix_cons ..)).trans (List.suffix_cons ..)).trans
      ((hhex hr).trans (List.suffix_cons ..))

lemma length_of_scanText {fuel : Nat} {s t : List Char} {cs : List Char}
    (h : scanText fuel s = .ok (cs, t)) : t.length < s.length := by
  induction fuel generalizing s cs with
  | zero => cases h
  | succ fuel ih =>
    unfold scanText at h
    split at h
    · cases h
    · cases h
      exact Nat.lt_succ_self _
    · split at h
      · cases h
      · rename_i hescape
        obtain ⟨⟨cs', t'⟩, hrest, hsame⟩ := Except.map_eq_ok_iff.1 h
        cases hsame
        exact Nat.lt_succ_of_lt (Nat.lt_of_lt_of_le (ih hrest)
          (suffix_of_scanEscape hescape).length_le)
    · split at h
      · cases h
      · obtain ⟨⟨cs', t'⟩, hrest, hsame⟩ := Except.map_eq_ok_iff.1 h
        cases hsame
        exact Nat.lt_succ_of_lt (ih hrest)

lemma length_of_readText {s t : List Char} {text : String} (h : readText s = .ok (text, t)) :
    t.length < s.length := by
  obtain ⟨⟨cs, t'⟩, hscan, hsame⟩ := Except.map_eq_ok_iff.1 h
  cases hsame
  exact length_of_scanText hscan

/-! ### Spellings -/

/-- What stands before a part of an array or an object: nothing before the first one, a comma before
the others. -/
def Parted : (first : Bool) → List Char → List Char → Prop
  | true, s, t => s = t
  | false, s, t => skipSpace s = ',' :: t

mutual

/-- After blanks, the text starts with a text of the tree, and the rest follows. -/
def Spells : Json → List Char → List Char → Prop
  | .null, s, rest => skipSpace s = nullText ++ rest
  | .flag b, s, rest => skipSpace s = flagText b ++ rest
  | .number n, s, rest => ∃ limit, scanNumber true (skipSpace s) = .ok ⟨n, limit, rest⟩
  | .text t, s, rest => ∃ r, skipSpace s = '"' :: r ∧ readText r = .ok (t, rest)
  | .array items, s, rest => ∃ r, skipSpace s = '[' :: r ∧ SpellsItems true items r rest
  | .object members, s, rest => ∃ r, skipSpace s = '\x7b' :: r ∧ SpellsMembers true members r rest

/-- The text starts with texts of the items, parted by commas, and the end of their array. -/
def SpellsItems (first : Bool) : List Json → List Char → List Char → Prop
  | [], s, rest => skipSpace s = ']' :: rest
  | v :: items, s, rest =>
    ∃ t u, Parted first s t ∧ Spells v t u ∧ SpellsItems false items u rest

/-- The text starts with texts of the members, parted by commas, and the end of their object. -/
def SpellsMembers (first : Bool) : List (String × Json) → List Char → List Char → Prop
  | [], s, rest => skipSpace s = '\x7d' :: rest
  | (name, v) :: members, s, rest =>
    ∃ t r u w x, Parted first s t ∧ skipSpace t = '"' :: r ∧ readText r = .ok (name, u)
      ∧ skipSpace u = ':' :: w ∧ Spells v w x ∧ SpellsMembers false members x rest

end

/-- Blanks before a text of a tree make no difference. -/
lemma spells_skipSpace {v : Json} {s rest : List Char} :
    Spells v (skipSpace s) rest ↔ Spells v s rest := by
  cases v <;> simp only [Spells, skipSpace_skipSpace]

/-! ### First letters -/

/-- The kinds of trees. -/
inductive Form where
  | null
  | flag
  | number
  | text
  | array
  | object
  deriving DecidableEq

/-- The kind of a tree. -/
def form : Json → Form
  | .null => .null
  | .flag _ => .flag
  | .number _ => .number
  | .text _ => .text
  | .array _ => .array
  | .object _ => .object

/-- The kind of the trees whose texts start with a letter. -/
def Form.ofLetter (c : Char) : Option Form :=
  if c = '-' ∨ c.isDigit then some .number
  else if c = 'n' then some .null
  else if c = 't' ∨ c = 'f' then some .flag
  else if c = '"' then some .text
  else if c = '[' then some .array
  else if c = '\x7b' then some .object
  else none

lemma Form.ne_of_ofLetter {c d : Char} {form : Form} (hc : ofLetter c = some form)
    (hd : ofLetter d ≠ some form) : c ≠ d := fun h => hd (h ▸ hc)

/-- The first letter of a text of a tree tells the kind of the tree. -/
lemma Spells.letter {v : Json} {s rest : List Char} (h : Spells v s rest) :
    ∃ c r, skipSpace s = c :: r ∧ Form.ofLetter c = some v.form := by
  cases v with
  | null => exact ⟨_, _, h, rfl⟩
  | flag b => cases b <;> exact ⟨_, _, h, rfl⟩
  | number n =>
    obtain ⟨limit, hscan⟩ := h
    obtain ⟨c, r, hs, hc, -⟩ := suffix_of_scanNumber hscan
    exact ⟨c, r, hs, if_pos hc⟩
  | text t =>
    obtain ⟨r, hr, -⟩ := h
    exact ⟨_, r, hr, rfl⟩
  | array items =>
    obtain ⟨r, hr, -⟩ := h
    exact ⟨_, r, hr, rfl⟩
  | object members =>
    obtain ⟨r, hr, -⟩ := h
    exact ⟨_, r, hr, rfl⟩

lemma Form.ofLetter_eq_number_iff {c : Char} :
    ofLetter c = some .number ↔ c = '-' ∨ c.isDigit = true := by
  unfold ofLetter
  split_ifs <;> simp_all

/-! ### Lengths -/

lemma Parted.length_le {first : Bool} {s t : List Char} (h : Parted first s t) :
    t.length ≤ s.length := by
  cases first with
  | true => exact Nat.le_of_eq (congrArg List.length h).symm
  | false => exact Nat.le_of_lt (length_lt_of_skipSpace (show skipSpace s = ',' :: t from h))

/-- The name of a member and its colon take up some of the text. -/
lemma length_lt_of_name {t r u w : List Char} {name : String} (ht : skipSpace t = '"' :: r)
    (hread : readText r = .ok (name, u)) (hu : skipSpace u = ':' :: w) : w.length < t.length := by
  have hlengthT := length_lt_of_skipSpace ht
  have hname := length_of_readText hread
  have hlengthU := length_lt_of_skipSpace hu
  omega

mutual

/-- A text of a tree is not empty. -/
theorem Spells.length_lt : {v : Json} → {s rest : List Char} → Spells v s rest →
    rest.length < s.length
  | .null, s, rest, h => by
    have hs := length_skipSpace_le s
    rw [show skipSpace s = nullText ++ rest from h] at hs
    simp only [nullText, List.length_append, List.length_cons] at hs
    omega
  | .flag b, s, rest, h => by
    have hs := length_skipSpace_le s
    rw [show skipSpace s = flagText b ++ rest from h] at hs
    cases b <;> simp only [flagText, List.length_append, List.length_cons] at hs <;> omega
  | .number n, s, rest, ⟨limit, hscan⟩ => by
    obtain ⟨c, r, hs, -, hrest⟩ := suffix_of_scanNumber hscan
    have hlength := length_lt_of_skipSpace hs
    exact Nat.lt_of_le_of_lt hrest.length_le hlength
  | .text t, s, rest, ⟨r, hs, hread⟩ => by
    have hlength := length_lt_of_skipSpace hs
    have hrest := length_of_readText hread
    omega
  | .array items, s, rest, ⟨r, hs, hitems⟩ => by
    have hlength := length_lt_of_skipSpace hs
    have hrest := SpellsItems.length_lt hitems
    omega
  | .object members, s, rest, ⟨r, hs, hmembers⟩ => by
    have hlength := length_lt_of_skipSpace hs
    have hrest := SpellsMembers.length_lt hmembers
    omega

/-- Each item and the end of the array take up some of the text. -/
theorem SpellsItems.length_lt : {items : List Json} → {first : Bool} → {s rest : List Char} →
    SpellsItems first items s rest → items.length + rest.length < s.length
  | [], first, s, rest, h => by
    have hlength := length_lt_of_skipSpace (show skipSpace s = ']' :: rest from h)
    simp only [List.length_nil]
    omega
  | v :: items, first, s, rest, ⟨t, u, hparted, hv, hitems⟩ => by
    have hs := hparted.length_le
    have ht := Spells.length_lt hv
    have hu := SpellsItems.length_lt hitems
    simp only [List.length_cons]
    omega

/-- Each member and the end of the object take up some of the text. -/
theorem SpellsMembers.length_lt : {members : List (String × Json)} → {first : Bool} →
    {s rest : List Char} → SpellsMembers first members s rest →
    members.length + rest.length < s.length
  | [], first, s, rest, h => by
    have hlength := length_lt_of_skipSpace (show skipSpace s = '\x7d' :: rest from h)
    simp only [List.length_nil]
    omega
  | (name, v) :: members, first, s, rest,
      ⟨t, r, u, w, x, hparted, ht, hread, hu, hv, hmembers⟩ => by
    have hs := hparted.length_le
    have hname := length_lt_of_name ht hread hu
    have hw := Spells.length_lt hv
    have hx := SpellsMembers.length_lt hmembers
    simp only [List.length_cons]
    omega

end

end NotNullLint.Json
