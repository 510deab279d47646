import Mathlib.Data.List.Basic
import NotNullLint.Json.Number
import NotNullLint.Proofs.Json.Spelling

/-!
What is printed spells the tree.

Both printers, on one line and over several lines, write a text of the tree that they are given. A
number has no end of its own, so what follows a printed tree must not go on with a number.
-/

namespace NotNullLint.Json

variable {strict : Bool} {s t u rest : List Char}

/-! ### Numbers -/

/-- The text does not start with a digit. -/
def NoDigit (s : List Char) : Prop := ∀ c ∈ s.head?, c.isDigit = false

/-- The text does not go on with a number. -/
def Apart (s : List Char) : Prop :=
  NoDigit s ∧ ∀ c ∈ s.head?, c ≠ '.' ∧ c ≠ 'e' ∧ c ≠ 'E'

lemma digitRun_append {ds : List Char} (hds : ∀ c ∈ ds, c.isDigit = true) (ht : NoDigit t) :
    digitRun (ds ++ t) = ds := by
  rw [digitRun, List.takeWhile_append_of_pos hds]
  cases t with
  | nil => simp
  | cons c t => simp [ht c rfl]

lemma pastDigits_append {ds : List Char} (hds : ∀ c ∈ ds, c.isDigit = true) (ht : NoDigit t) :
    pastDigits (ds ++ t) = t := by
  rw [pastDigits, List.dropWhile_append_of_pos hds]
  cases t with
  | nil => rfl
  | cons c t => simp [ht c rfl]

lemma isDigit_of_mem_natText {n : Nat} {c : Char} (h : c ∈ Numeral.natText n) :
    c.isDigit = true :=
  Nat.isDigit_of_mem_toDigits (by decide) (by decide) h

lemma exists_natText_eq (n : Nat) : ∃ c ds, Numeral.natText n = c :: ds ∧ c.isDigit = true := by
  obtain ⟨c, ds, h⟩ := List.exists_cons_of_ne_nil (Nat.toDigits_ne_nil (n := n) (b := 10))
  exact ⟨c, ds, h, isDigit_of_mem_natText (h ▸ List.mem_cons_self)⟩

lemma digit_val {c : Char} (h : c.isDigit = true) : (digit c).val = c.toNat - '0'.toNat := by
  have hc : c.toNat ≤ 57 := by
    simp only [Char.isDigit, Bool.and_eq_true, decide_eq_true_eq] at h
    exact h.2
  exact Nat.mod_eq_of_lt (by
    change c.toNat - 48 < 10
    omega)

lemma digitsValue_natText (n : Nat) : digitsValue (Numeral.natText n) = n := by
  have hvalue : digitsValue (Numeral.natText n) = Nat.ofDigitChars 10 (Numeral.natText n) 0 := by
    rw [Nat.ofDigitChars_eq_foldl, digitsValue]
    refine List.foldl_ext _ _ _ fun k c hc => ?_
    rw [digit_val (isDigit_of_mem_natText hc)]
  rw [hvalue]
  exact Nat.ofDigitChars_toDigits (by decide) (by decide)

/-- Only zero starts with a zero. -/
lemma exists_natText_eq_cons {n : Nat} (hn : n ≠ 0) :
    ∃ c ds, Numeral.natText n = c :: ds ∧ c ≠ '0' := by
  induction n using Nat.strongRecOn with
  | _ n ih =>
    by_cases hlt : n < 10
    · have hne : ∀ k < 10, k ≠ 0 → Nat.digitChar k ≠ '0' := by decide
      exact ⟨_, [], Nat.toDigits_of_lt_base hlt, hne n hlt hn⟩
    · have hle : 10 ≤ n := Nat.le_of_not_lt hlt
      obtain ⟨c, ds, htext, hc⟩ := ih (n / 10) (by omega) (by omega)
      refine ⟨c, ds ++ [Nat.digitChar (n % 10)], ?_, hc⟩
      rw [Numeral.natText] at htext ⊢
      rw [Nat.toDigits_of_base_le (by decide) hle, htext, List.cons_append]

lemma scanWhole_natText (n : Nat) (ht : NoDigit t) :
    scanWhole strict (Numeral.natText n ++ t) = .ok (n, t) := by
  have hdigits : ∀ c ∈ Numeral.natText n, c.isDigit = true := fun c => isDigit_of_mem_natText
  by_cases hn : n = 0
  · subst hn
    cases t with
    | nil => rfl
    | cons c t =>
      change (if c.isDigit then _ else _) = _
      simp [ht c rfl]
  · obtain ⟨c, ds, htext, hc⟩ := exists_natText_eq_cons hn
    have hrun := digitRun_append hdigits ht
    have hpast := pastDigits_append hdigits ht
    have hvalue := digitsValue_natText n
    rw [htext] at hrun hpast hvalue ⊢
    unfold scanWhole
    split
    · simp_all
    · rw [hrun]
      simp only [hvalue, hpast]

lemma scanFraction_print (ds : List (Fin 10)) (ht : NoDigit t) (hpoint : ∀ c ∈ t.head?, c ≠ '.') :
    scanFraction strict
        ((if ds = [] then [] else '.' :: ds.map fun d => Nat.digitChar d.val) ++ t)
      = .ok (ds, t) := by
  by_cases hds : ds = []
  · subst hds
    cases t with
    | nil => rfl
    | cons c t => simp [scanFraction, hpoint c rfl]
  · have hdigit : ∀ d : Fin 10, digit (Nat.digitChar d.val) = d := by decide
    have hdigits : ∀ c ∈ ds.map fun d => Nat.digitChar d.val, c.isDigit = true := by
      intro c hc
      obtain ⟨d, -, rfl⟩ := List.mem_map.1 hc
      simp [Nat.isDigit_digitChar]
    have hrun := digitRun_append hdigits ht
    have hpast := pastDigits_append hdigits ht
    rw [if_neg hds, List.cons_append]
    simp only [scanFraction, hrun, hpast]
    split
    · simp_all
    · simp [Function.comp_def, hdigit]

lemma scanExponent_none (strict : Bool) (ht : Apart t) :
    ∃ limit, scanExponent strict t = .ok (none, limit, t) := by
  cases t with
  | nil => exact ⟨_, rfl⟩
  | cons c t =>
    obtain ⟨-, he, hE⟩ := ht.2 c rfl
    exact ⟨_, by simp [scanExponent, he, hE]; rfl⟩

lemma scanExponent_some (strict : Bool) (e : Int) (ht : NoDigit t) :
    ∃ limit, scanExponent strict
        ('e' :: ((if e < 0 then ['-'] else []) ++ (Numeral.natText e.natAbs ++ t)))
      = .ok (some e, limit, t) := by
  have hdigits : ∀ c ∈ Numeral.natText e.natAbs, c.isDigit = true := fun c => isDigit_of_mem_natText
  have hrun := digitRun_append hdigits ht
  have hpast := pastDigits_append hdigits ht
  have hvalue := digitsValue_natText e.natAbs
  obtain ⟨c, ds, htext, hc⟩ := exists_natText_eq e.natAbs
  rw [htext] at hrun hpast hvalue ⊢
  by_cases he : e < 0
  · have habs : -(e.natAbs : Int) = e := by omega
    simp only [scanExponent, if_pos he, true_or, if_true, List.cons_append, List.nil_append]
      at hrun hpast ⊢
    simp only [hrun, hvalue, habs, hpast]
    exact ⟨_, rfl⟩
  · have habs : (e.natAbs : Int) = e := by omega
    have hplus : c ≠ '+' := by
      rintro rfl
      cases hc
    have hminus : c ≠ '-' := by
      rintro rfl
      cases hc
    simp only [scanExponent, if_neg he, true_or, if_true, List.cons_append, List.nil_append]
      at hrun hpast ⊢
    simp [hplus, hminus, hrun, hvalue, habs, hpast]

/-- The parts of a number are scanned one after the other. -/
lemma scanNumber_of_parts (negative : Bool) {whole : Nat} {fraction : List (Fin 10)}
    {exponent : Option Int} {limit : List Char} (hs : s.head? ≠ some '-')
    (hwhole : scanWhole strict s = .ok (whole, t))
    (hfraction : scanFraction strict t = .ok (fraction, u))
    (hexponent : scanExponent strict u = .ok (exponent, limit, rest)) :
    scanNumber strict ((if negative then ['-'] else []) ++ s)
      = .ok ⟨⟨negative, whole, fraction, exponent⟩, limit, rest⟩ := by
  cases negative with
  | true =>
    simp only [scanNumber, if_true, List.cons_append, List.nil_append, hwhole, bind, Except.bind,
      hfraction, hexponent]
    rfl
  | false =>
    unfold scanNumber
    simp only [Bool.false_eq_true, if_false, List.nil_append]
    split
    · exact absurd rfl hs
    · simp only [hwhole, bind, Except.bind, hfraction, hexponent]
      rfl

/-- A printed number is scanned to its end. -/
lemma scanNumber_print (n : Numeral) (h : Apart rest) :
    ∃ limit, scanNumber true (n.print ++ rest) = .ok ⟨n, limit, rest⟩ := by
  obtain ⟨negative, whole, fraction, exponent⟩ := n
  obtain ⟨c, ds, htext, hc⟩ := exists_natText_eq whole
  have hsign (t : List Char) : (Numeral.natText whole ++ t).head? ≠ some '-' := by
    rw [htext]
    rintro ⟨⟩
    cases hc
  have hfractionStart {t : List Char} (ht : NoDigit t) :
      NoDigit ((if fraction = [] then [] else '.' :: fraction.map fun d => Nat.digitChar d.val)
        ++ t) := by
    split
    · exact ht
    · rintro c ⟨⟩
      rfl
  -- whatever is scanned as the exponent, the parts before it are scanned as they were printed
  have hparts {t limit : List Char} (ht : NoDigit t) (hpoint : ∀ c ∈ t.head?, c ≠ '.')
      (hexponent : scanExponent true t = .ok (exponent, limit, rest)) :=
    scanNumber_of_parts negative (hsign _)
      (scanWhole_natText whole (hfractionStart ht)) (scanFraction_print fraction ht hpoint)
      hexponent
  cases exponent with
  | none =>
    obtain ⟨limit, hexponent⟩ := scanExponent_none true h
    refine ⟨limit, ?_⟩
    rw [← hparts h.1 (fun c hc => (h.2 c hc).1) hexponent]
    simp [Numeral.print]
  | some e =>
    obtain ⟨limit, hexponent⟩ := scanExponent_some true e h.1
    refine ⟨limit, ?_⟩
    rw [← hparts (by rintro c ⟨⟩; rfl) (by rintro c ⟨⟩; decide) hexponent]
    simp [Numeral.print]

/-! ### Texts -/

lemma hexDigit?_digitChar : ∀ k < 16, Text.hexDigit? (Nat.digitChar k) = some k := by decide

lemma scanEscape_hex {c : Char} (hc : c.toNat < 0x20) (r : List Char) :
    scanEscape (['u', '0', '0', Nat.digitChar (c.toNat / 16), Nat.digitChar (c.toNat % 16)] ++ r)
      = .ok (c, r) := by
  have hvalue : hexValue? '0' '0' (Nat.digitChar (c.toNat / 16)) (Nat.digitChar (c.toNat % 16))
      = some c.toNat := by
    have hhigh := hexDigit?_digitChar (c.toNat / 16) (by omega)
    have hlow := hexDigit?_digitChar (c.toNat % 16) (by omega)
    have hzero : Text.hexDigit? '0' = some 0 := rfl
    simp only [hexValue?, hzero, hhigh, hlow, bind, Option.bind, pure]
    congr 1
    omega
  have hlow : ¬(0xDC00 ≤ c.toNat ∧ c.toNat ≤ 0xDFFF) := by omega
  have hhigh : ¬(0xD800 ≤ c.toNat ∧ c.toNat ≤ 0xDBFF) := by omega
  simp only [List.cons_append, List.nil_append, scanEscape, scanHex, hvalue, hlow, hhigh, if_false]
  exact congrArg (fun d => Except.ok (d, r)) (Char.ofNat_toNat c)

lemma scanText_backslash {c : Char} {r t : List Char} (h : scanEscape r = .ok (c, t))
    (fuel : Nat) :
    scanText (fuel + 1) ('\\' :: r) = (scanText fuel t).map fun a => (c :: a.1, a.2) := by
  simp only [scanText, h]

/-- An escaped character is scanned as that character. -/
lemma scanText_escape (c : Char) (r : List Char) (fuel : Nat) :
    scanText (fuel + 1) (escape c ++ r) = (scanText fuel r).map fun a => (c :: a.1, a.2) := by
  unfold escape
  split_ifs with hquote hbackslash hb hf hn hr ht hcontrol
  any_goals
    subst c
    exact scanText_backslash rfl fuel
  · exact scanText_backslash (scanEscape_hex hcontrol r) fuel
  · simp [scanText, hcontrol]

/-- A quoted text is scanned up to its closing quote. -/
lemma scanText_quoted (cs : List Char) (rest : List Char) {fuel : Nat} (hfuel : cs.length < fuel) :
    scanText fuel (cs.flatMap escape ++ '"' :: rest) = .ok (cs, rest) := by
  induction cs generalizing fuel with
  | nil =>
    obtain ⟨fuel, rfl⟩ := Nat.exists_eq_add_of_lt hfuel
    rfl
  | cons c cs ih =>
    obtain ⟨fuel, rfl⟩ := Nat.exists_eq_add_of_lt hfuel
    rw [List.flatMap_cons, List.append_assoc, scanText_escape,
      ih (by simp only [List.length_cons]; omega)]
    rfl

lemma length_le_flatMap_escape (cs : List Char) : cs.length ≤ (cs.flatMap escape).length := by
  induction cs with
  | nil => exact Nat.le_refl 0
  | cons c cs ih =>
    have hc : 1 ≤ (escape c).length := by
      unfold escape
      split_ifs <;> exact Nat.succ_pos _
    simp only [List.flatMap_cons, List.length_append, List.length_cons]
    omega

lemma readText_quoted (text : String) (rest : List Char) :
    readText (text.toList.flatMap escape ++ '"' :: rest) = .ok (text, rest) := by
  have hlength := length_le_flatMap_escape text.toList
  have hscan := scanText_quoted text.toList rest
    (show text.toList.length < (text.toList.flatMap escape ++ '"' :: rest).length + 1 by
      simp only [List.length_append]
      omega)
  rw [readText, hscan]
  exact congrArg (fun t => Except.ok (t, rest)) String.ofList_toList

/-! ### Parts of trees -/

lemma apart_cons {c : Char} (h : c.isDigit = false ∧ c ≠ '.' ∧ c ≠ 'e' ∧ c ≠ 'E') (r : List Char) :
    Apart (c :: r) := by
  refine ⟨?_, ?_⟩ <;> rintro d ⟨⟩
  · exact h.1
  · exact h.2

lemma apart_blanks {blanks : List Char} (h : ∀ c ∈ blanks, isSpace c = true) : Apart blanks := by
  cases blanks with
  | nil => exact ⟨nofun, nofun⟩
  | cons c blanks =>
    refine apart_cons ?_ blanks
    have hc := h c List.mem_cons_self
    simp only [isSpace, Bool.or_eq_true, beq_iff_eq] at hc
    obtain ((rfl | rfl) | rfl) | rfl := hc <;> decide

lemma spells_append (blanks : List Char) (h : ∀ c ∈ blanks, isSpace c = true) {v : Json} :
    Spells v (blanks ++ s) rest ↔ Spells v s rest := by
  rw [← spells_skipSpace, skipSpace_append h, spells_skipSpace]

lemma spells_number {n : Numeral} (h : Apart rest) : Spells (.number n) (n.print ++ rest) rest := by
  obtain ⟨limit, hscan⟩ := scanNumber_print n h
  obtain ⟨c, r, hs, hc, -⟩ := suffix_of_scanNumber hscan
  have hspace : isSpace c = false := by
    rw [← Bool.not_eq_true]
    simp only [isSpace, Bool.or_eq_true, beq_iff_eq]
    rintro (((rfl | rfl) | rfl) | rfl) <;> revert hc <;> decide
  refine ⟨limit, ?_⟩
  rw [hs, skipSpace_cons hspace, ← hs, hscan]

lemma skipSpace_quote (blanks : List Char) (h : ∀ c ∈ blanks, isSpace c = true) (text : String) :
    skipSpace (blanks ++ (quote text ++ s))
      = '"' :: (text.toList.flatMap escape ++ '"' :: s) := by
  rw [skipSpace_append h, quote, List.cons_append, List.append_assoc]
  exact skipSpace_cons (by decide) _

lemma spells_quote (text : String) (rest : List Char) :
    Spells (.text text) (quote text ++ rest) rest :=
  ⟨_, skipSpace_quote [] nofun text, readText_quoted text rest⟩

/-- Items go on after a comma as they start. -/
lemma spellsItems_comma {v : Json} {items : List Json} (h : SpellsItems true (v :: items) s rest) :
    SpellsItems false (v :: items) (',' :: s) rest := by
  obtain ⟨t, u, hst, hv, hitems⟩ := h
  obtain rfl : s = t := hst
  exact ⟨s, u, skipSpace_cons (by decide) s, hv, hitems⟩

lemma spellsMembers_comma {m : String × Json} {members : List (String × Json)}
    (h : SpellsMembers true (m :: members) s rest) :
    SpellsMembers false (m :: members) (',' :: s) rest := by
  obtain ⟨t, r, u, w, x, hst, hmember⟩ := h
  obtain rfl : s = t := hst
  exact ⟨s, r, u, w, x, skipSpace_cons (by decide) s, hmember⟩

/-- A first item, with blanks before it. -/
lemma spellsItems_cons (blanks : List Char) (h : ∀ c ∈ blanks, isSpace c = true) {v : Json}
    {items : List Json} (hv : Spells v s t) (hitems : SpellsItems false items t rest) :
    SpellsItems true (v :: items) (blanks ++ s) rest :=
  ⟨_, t, rfl, (spells_append blanks h).2 hv, hitems⟩

/-- A first member, with blanks before it. -/
lemma spellsMembers_cons (blanks : List Char) (h : ∀ c ∈ blanks, isSpace c = true) (name : String)
    {v : Json} {members : List (String × Json)} (hv : Spells v s t)
    (hmembers : SpellsMembers false members t rest) :
    SpellsMembers true ((name, v) :: members) (blanks ++ (quote name ++ ':' :: s)) rest :=
  ⟨_, _, _, s, t, rfl, skipSpace_quote blanks h name, readText_quoted name _,
    skipSpace_cons (by decide) s, hv, hmembers⟩

/-! ### Trees on one line -/

mutual

/-- What the printer for one line writes spells the tree. -/
theorem spells_print : (v : Json) → {rest : List Char} → Apart rest →
    Spells v (v.print ++ rest) rest
  | .null, rest, _ => skipSpace_cons (by decide) _
  | .flag true, rest, _ => skipSpace_cons (by decide) _
  | .flag false, rest, _ => skipSpace_cons (by decide) _
  | .number n, rest, h => spells_number h
  | .text t, rest, _ => spells_quote t rest
  | .array items, rest, _ => ⟨_, skipSpace_cons (by decide) _, spellsItems_print items rest⟩
  | .object members, rest, _ => ⟨_, skipSpace_cons (by decide) _, spellsMembers_print members rest⟩

theorem spellsItems_print : (items : List Json) → (rest : List Char) →
    SpellsItems true items (printItems items ++ rest) rest
  | [], rest => skipSpace_cons (by decide) _
  | [v], rest => by
    have hv := spells_print v (apart_cons (c := ']') (by decide) rest)
    simp only [printItems, List.append_assoc, List.cons_append, List.nil_append]
    exact spellsItems_cons [] nofun hv (skipSpace_cons (by decide) rest)
  | v :: w :: items, rest => by
    have hmore := spellsItems_comma (spellsItems_print (w :: items) rest)
    have hv := spells_print v (apart_cons (c := ',') (by decide) (printItems (w :: items) ++ rest))
    simp only [printItems, List.append_assoc, List.cons_append]
    exact spellsItems_cons [] nofun hv hmore

theorem spellsMembers_print : (members : List (String × Json)) → (rest : List Char) →
    SpellsMembers true members (printMembers members ++ rest) rest
  | [], rest => skipSpace_cons (by decide) _
  | [(n, v)], rest => by
    have hv := spells_print v (apart_cons (c := '\x7d') (by decide) rest)
    simp only [printMembers, List.append_assoc, List.cons_append, List.nil_append]
    exact spellsMembers_cons [] nofun n hv (skipSpace_cons (by decide) rest)
  | (n, v) :: m :: members, rest => by
    have hmore := spellsMembers_comma (spellsMembers_print (m :: members) rest)
    have hv := spells_print v
      (apart_cons (c := ',') (by decide) (printMembers (m :: members) ++ rest))
    simp only [printMembers, List.append_assoc, List.cons_append]
    exact spellsMembers_cons [] nofun n hv hmore

end

/-! ### Trees over several lines -/

lemma isSpace_newline {depth : Nat} : ∀ c ∈ newline depth, isSpace c = true := by
  intro c hc
  obtain rfl | hc := List.mem_cons.1 hc
  · rfl
  · obtain rfl := List.eq_of_mem_replicate hc
    rfl

lemma apart_newline (depth : Nat) (r : List Char) : Apart (newline depth ++ r) :=
  apart_cons (by decide) _

mutual

/-- What the printer for several lines writes spells the tree. -/
theorem spells_pretty : (v : Json) → (depth : Nat) → {rest : List Char} → Apart rest →
    Spells v (v.pretty depth ++ rest) rest
  | .null, depth, rest, _ => skipSpace_cons (by decide) _
  | .flag true, depth, rest, _ => skipSpace_cons (by decide) _
  | .flag false, depth, rest, _ => skipSpace_cons (by decide) _
  | .number n, depth, rest, h => spells_number h
  | .text t, depth, rest, _ => spells_quote t rest
  | .array [], depth, rest, _ => ⟨_, skipSpace_cons (by decide) _, skipSpace_cons (by decide) _⟩
  | .array (v :: items), depth, rest, _ =>
    ⟨_, skipSpace_cons (by decide) _, spellsItems_pretty (v :: items) depth rest⟩
  | .object [], depth, rest, _ => ⟨_, skipSpace_cons (by decide) _, skipSpace_cons (by decide) _⟩
  | .object (m :: members), depth, rest, _ =>
    ⟨_, skipSpace_cons (by decide) _, spellsMembers_pretty (m :: members) depth rest⟩

theorem spellsItems_pretty : (items : List Json) → (depth : Nat) → (rest : List Char) →
    SpellsItems true items (prettyItems depth items ++ rest) rest
  | [], depth, rest => by
    simp only [prettyItems, List.append_assoc]
    exact (skipSpace_append isSpace_newline _).trans (skipSpace_cons (by decide) rest)
  | [v], depth, rest => by
    have hend : SpellsItems false [] (newline depth ++ ']' :: rest) rest :=
      (skipSpace_append isSpace_newline _).trans (skipSpace_cons (by decide) rest)
    have hv := spells_pretty v (depth + 1) (apart_newline depth (']' :: rest))
    simp only [prettyItems, List.append_assoc, List.cons_append, List.nil_append]
    exact spellsItems_cons _ isSpace_newline hv hend
  | v :: w :: items, depth, rest => by
    have hmore := spellsItems_comma (spellsItems_pretty (w :: items) depth rest)
    have hv := spells_pretty v (depth + 1)
      (apart_cons (c := ',') (by decide) (prettyItems depth (w :: items) ++ rest))
    simp only [prettyItems, List.append_assoc, List.cons_append]
    exact spellsItems_cons _ isSpace_newline hv hmore

theorem spellsMembers_pretty : (members : List (String × Json)) → (depth : Nat) →
    (rest : List Char) → SpellsMembers true members (prettyMembers depth members ++ rest) rest
  | [], depth, rest => by
    simp only [prettyMembers, List.append_assoc]
    exact (skipSpace_append isSpace_newline _).trans (skipSpace_cons (by decide) rest)
  | [(n, v)], depth, rest => by
    have hend : SpellsMembers false [] (newline depth ++ '\x7d' :: rest) rest :=
      (skipSpace_append isSpace_newline _).trans (skipSpace_cons (by decide) rest)
    have hv := spells_pretty v (depth + 1) (apart_newline depth ('\x7d' :: rest))
    have hspace := (spells_append [' '] (List.forall_mem_singleton.2 rfl)).2 hv
    simp only [prettyMembers, List.append_assoc, List.cons_append, List.nil_append]
    exact spellsMembers_cons _ isSpace_newline n hspace hend
  | (n, v) :: m :: members, depth, rest => by
    have hmore := spellsMembers_comma (spellsMembers_pretty (m :: members) depth rest)
    have hv := spells_pretty v (depth + 1)
      (apart_cons (c := ',') (by decide) (prettyMembers depth (m :: members) ++ rest))
    have hspace := (spells_append [' '] (List.forall_mem_singleton.2 rfl)).2 hv
    simp only [prettyMembers, List.append_assoc, List.cons_append]
    exact spellsMembers_cons _ isSpace_newline n hspace hmore

end

end NotNullLint.Json
