import NotNullLint.Proofs.Json.Spelling

/-!
Skipping what is spelled.

Every text of a tree can be skipped, and nothing more than that text is skipped: skipping is laxer
than reading, but it stops at the same place.
-/

namespace NotNullLint.Json

/-! ### Numbers -/

lemma toOption_scanWhole (strict : Bool) (s : List Char) :
    (scanWhole strict s).toOption = (scanWhole true s).toOption := by
  unfold scanWhole
  split
  · split
    · split <;> rfl
    · rfl
  · split <;> rfl

lemma toOption_scanFraction (strict : Bool) (s : List Char) :
    (scanFraction strict s).toOption = (scanFraction true s).toOption := by
  unfold scanFraction
  split
  · split <;> rfl
  · rfl

lemma toOption_scanExponent (strict : Bool) (s : List Char) :
    (scanExponent strict s).toOption = (scanExponent true s).toOption := by
  unfold scanExponent
  split
  · dsimp only
    split
    · split <;> rfl
    · rfl
  · rfl

/-- Skipping a number, one gets as far as reading it. -/
lemma toOption_scanNumber (strict : Bool) (s : List Char) :
    (scanNumber strict s).toOption = (scanNumber true s).toOption := by
  unfold scanNumber
  simp only [Except.toOption_bind, toOption_scanWhole strict, toOption_scanFraction strict,
    toOption_scanExponent strict]

/-! ### Texts -/

lemma skipText_hex {r t : List Char} {n : Nat} (h : scanHex r = .ok (n, t)) (fuel : Nat) :
    skipText (fuel + 1) ('\\' :: 'u' :: r) = skipText fuel t := by
  simp [skipText, h]

lemma skipText_plain {d c : Char} (hd : d ≠ 'u') (hplain : plainEscape? d = some c)
    (r : List Char) (fuel : Nat) : skipText (fuel + 1) ('\\' :: d :: r) = skipText fuel r := by
  simp [skipText, hplain]

/-- An escape that forms a character is skipped in one step, or in two if it is a pair. -/
lemma skipText_escape {r t : List Char} {c : Char} (h : scanEscape r = .ok (c, t)) :
    ∃ k, t.length + k ≤ r.length ∧ ∀ fuel, skipText (fuel + k) ('\\' :: r) = skipText fuel t := by
  obtain ⟨d, rfl, hd, hplain⟩ | ⟨r, n, u, rfl, hr, rfl | ⟨r', m, rfl, hr'⟩⟩ := scanEscape_ok h
  · exact ⟨1, by simp, skipText_plain hd hplain t⟩
  · obtain ⟨a, b, c, d, rfl⟩ := scanHex_ok hr
    refine ⟨1, ?_, skipText_hex hr⟩
    simp only [List.length_cons]
    omega
  · obtain ⟨a, b, c, d, rfl⟩ := scanHex_ok hr
    obtain ⟨a', b', c', d', rfl⟩ := scanHex_ok hr'
    refine ⟨2, ?_, fun fuel => (skipText_hex hr (fuel + 1)).trans (skipText_hex hr' fuel)⟩
    simp only [List.length_cons]
    omega

lemma skipText_letter {c : Char} (hquote : c ≠ '"') (hescape : c ≠ '\\')
    (hcontrol : ¬c.toNat < 0x20) (r : List Char) (fuel : Nat) :
    skipText (fuel + 1) (c :: r) = skipText fuel r := by
  simp [skipText, hescape, hcontrol]

/-- A quoted text that can be read is skipped up to its closing quote. -/
lemma skipText_of_scanText {fuel : Nat} {s t cs : List Char}
    (h : scanText fuel s = .ok (cs, t)) {steps : Nat} (hsteps : s.length < steps) :
    skipText steps s = .ok t := by
  induction fuel generalizing s cs steps with
  | zero => cases h
  | succ fuel ih =>
    obtain ⟨steps, rfl⟩ := Nat.exists_eq_add_of_lt (Nat.zero_lt_of_lt hsteps)
    rw [Nat.zero_add] at hsteps ⊢
    unfold scanText at h
    split at h
    · cases h
    · cases h
      rfl
    · split at h
      · cases h
      · rename_i r _ _ u hescape
        obtain ⟨⟨cs', t'⟩, hrest, hsame⟩ := Except.map_eq_ok_iff.1 h
        cases hsame
        obtain ⟨k, hk, hskip⟩ := skipText_escape hescape
        obtain ⟨more, hmore⟩ := Nat.exists_eq_add_of_le (show u.length + 1 + k ≤ steps + 1 by
          simp only [List.length_cons] at hsteps
          omega)
        rw [hmore, show u.length + 1 + k + more = u.length + 1 + more + k by omega, hskip]
        exact ih hrest (by omega)
    · rename_i hquote hescape
      split at h
      · cases h
      · rename_i hcontrol
        obtain ⟨⟨cs', t'⟩, hrest, hsame⟩ := Except.map_eq_ok_iff.1 h
        cases hsame
        rw [skipText_letter hquote hescape hcontrol]
        exact ih hrest (Nat.lt_of_succ_lt_succ hsteps)

lemma skipText_of_readText {s t : List Char} {text : String} (h : readText s = .ok (text, t)) :
    skipText (s.length + 1) s = .ok t := by
  obtain ⟨⟨cs, t'⟩, hscan, hsame⟩ := Except.map_eq_ok_iff.1 h
  cases hsame
  exact skipText_of_scanText hscan (Nat.lt_succ_self _)

/-! ### Values -/

/-- What remains after an array of which an item has been skipped. -/
def skipMoreItems (fuel : Nat) (t : List Char) : Except Fault (List Char) :=
  match skipSpace t with
  | [] => .error (.before .endInArray [])
  | ',' :: u => skipItems fuel u
  | ']' :: u => .ok u
  | u => .error (.near .noItemSeparator u)

/-- What remains after an object of which a member has been skipped. -/
def skipMoreMembers (fuel : Nat) (t : List Char) : Except Fault (List Char) :=
  match skipSpace t with
  | [] => .error (.before .endInObject [])
  | ',' :: u => skipMembers fuel u
  | '\x7d' :: u => .ok u
  | u => .error (.near .noMemberSeparator u)

lemma skipItems_succ {fuel : Nat} {s t : List Char} (h : skipValue fuel s = .ok t) :
    skipItems (fuel + 1) s = skipMoreItems fuel t := by
  rw [skipItems, h]
  rfl

lemma skipMembers_succ {fuel : Nat} {s r u w x : List Char} {name : String}
    (hs : skipSpace s = '"' :: r) (hread : readText r = .ok (name, u))
    (hu : skipSpace u = ':' :: w) (h : skipValue fuel w = .ok x) :
    skipMembers (fuel + 1) s = skipMoreMembers fuel x := by
  simp only [skipMembers, hs, skipText_of_readText hread, bind, Except.bind, hu, h]
  rfl

lemma skipValue_number {c : Char} (hc : c = '-' ∨ c.isDigit = true) {fuel : Nat} {s r : List Char}
    (hs : skipSpace s = c :: r) :
    skipValue (fuel + 1) s = (scanNumber false (c :: r)).map (·.rest) := by
  unfold skipValue
  rw [hs]
  split
  case h_8 d t _ _ _ _ _ _ hd =>
    cases hd
    rw [if_pos hc]
  all_goals simp_all

lemma skipValue_items {c : Char} (hc : c ≠ ']') {fuel : Nat} {s r r' : List Char}
    (hs : skipSpace s = '[' :: r) (hr : skipSpace r = c :: r') :
    skipValue (fuel + 1) s = skipItems fuel (skipSpace r) := by
  simp [skipValue, hs, hr, hc]

lemma skipValue_members {fuel : Nat} {s r r' : List Char} (hs : skipSpace s = '\x7b' :: r)
    (hr : skipSpace r = '"' :: r') : skipValue (fuel + 1) s = skipMembers fuel (skipSpace r) := by
  simp [skipValue, hs, hr]

mutual

/-- A text of a tree can be skipped, and what follows it remains. -/
theorem skipValue_of_spells : (v : Json) → {s rest : List Char} → Spells v s rest →
    {fuel : Nat} → 2 * s.length < fuel → skipValue fuel s = .ok rest
  | v, s, rest, h, 0, hfuel => absurd hfuel (Nat.not_lt_zero _)
  | .null, s, rest, h, fuel + 1, hfuel => by
    rw [skipValue, show skipSpace s = nullText ++ rest from h]
    rfl
  | .flag b, s, rest, h, fuel + 1, hfuel => by
    rw [skipValue, show skipSpace s = flagText b ++ rest from h]
    cases b <;> rfl
  | .number n, s, rest, ⟨limit, hscan⟩, fuel + 1, hfuel => by
    obtain ⟨c, r, hs, hc, -⟩ := suffix_of_scanNumber hscan
    have hlax : scanNumber false (c :: r) = .ok ⟨n, limit, rest⟩ := by
      rw [← Except.toOption_eq_some_iff, toOption_scanNumber, ← hs, hscan]
      rfl
    rw [skipValue_number hc hs, hlax]
    rfl
  | .text t, s, rest, ⟨r, hs, hread⟩, fuel + 1, hfuel => by
    rw [skipValue, hs]
    exact skipText_of_readText hread
  | .array [], s, rest, ⟨r, hs, hitems⟩, fuel + 1, hfuel => by
    rw [skipValue, hs]
    simp only [show skipSpace r = ']' :: rest from hitems]
  | .array (v :: items), s, rest, ⟨r, hs, t, u, hrt, hv, hitems⟩, fuel + 1, hfuel => by
    obtain ⟨c, r', hr, hc⟩ := hv.letter
    have hlength := length_lt_of_skipSpace hs
    have hu := hv.length_lt
    obtain rfl : r = t := hrt
    have hlengthT := length_skipSpace_le r
    obtain ⟨fuel, rfl⟩ := Nat.exists_eq_add_of_lt (show 0 < fuel by omega)
    have hvalue := skipValue_of_spells v (spells_skipSpace.2 hv)
      (show 2 * (skipSpace r).length < 0 + fuel by omega)
    have hne : c ≠ ']' := Form.ne_of_ofLetter hc (by rintro ⟨⟩)
    rw [skipValue_items hne hs hr, skipItems_succ hvalue]
    exact skipMoreItems_of_spells items hitems (by omega)
  | .object [], s, rest, ⟨r, hs, hmembers⟩, fuel + 1, hfuel => by
    rw [skipValue, hs]
    simp only [show skipSpace r = '\x7d' :: rest from hmembers]
  | .object ((name, v) :: members), s, rest,
      ⟨r, hs, t, r', u, w, x, hrt, ht, hread, hu, hv, hmembers⟩, fuel + 1, hfuel => by
    have hlength := length_lt_of_skipSpace hs
    obtain rfl : r = t := hrt
    have hname := length_lt_of_name ht hread hu
    have hx := hv.length_lt
    obtain ⟨fuel, rfl⟩ := Nat.exists_eq_add_of_lt (show 0 < fuel by omega)
    have hvalue := skipValue_of_spells v hv (show 2 * w.length < 0 + fuel by omega)
    rw [skipValue_members hs ht,
      skipMembers_succ ((skipSpace_skipSpace r).trans ht) hread hu hvalue]
    exact skipMoreMembers_of_spells members hmembers (by omega)

theorem skipMoreItems_of_spells : (items : List Json) → {t rest : List Char} →
    SpellsItems false items t rest → {fuel : Nat} → 2 * t.length ≤ fuel →
    skipMoreItems fuel t = .ok rest
  | [], t, rest, hitems, fuel, _ => by
    rw [skipMoreItems, show skipSpace t = ']' :: rest from hitems]
    rfl
  | v :: items, t, rest, ⟨t', u, hparted, hv, hitems⟩, fuel, hfuel => by
    have hlength := length_lt_of_skipSpace (show skipSpace t = ',' :: t' from hparted)
    have hu := hv.length_lt
    obtain ⟨fuel, rfl⟩ := Nat.exists_eq_add_of_lt (show 0 < fuel by omega)
    rw [skipMoreItems, show skipSpace t = ',' :: t' from hparted]
    have hvalue := skipValue_of_spells v hv (show 2 * t'.length < 0 + fuel by omega)
    exact (skipItems_succ hvalue).trans (skipMoreItems_of_spells items hitems (by omega))

theorem skipMoreMembers_of_spells : (members : List (String × Json)) → {t rest : List Char} →
    SpellsMembers false members t rest → {fuel : Nat} → 2 * t.length ≤ fuel →
    skipMoreMembers fuel t = .ok rest
  | [], t, rest, hmembers, fuel, _ => by
    rw [skipMoreMembers, show skipSpace t = '\x7d' :: rest from hmembers]
    rfl
  | (name, v) :: members, t, rest, ⟨t', r, u, w, x, hparted, ht, hread, hu, hv, hmembers⟩, fuel,
      hfuel => by
    have hlength := length_lt_of_skipSpace (show skipSpace t = ',' :: t' from hparted)
    have hname := length_lt_of_name ht hread hu
    have hx := hv.length_lt
    obtain ⟨fuel, rfl⟩ := Nat.exists_eq_add_of_lt (show 0 < fuel by omega)
    rw [skipMoreMembers, show skipSpace t = ',' :: t' from hparted]
    have hvalue := skipValue_of_spells v hv (show 2 * w.length < 0 + fuel by omega)
    exact (skipMembers_succ ht hread hu hvalue).trans
      (skipMoreMembers_of_spells members hmembers (by omega))

end

lemma skip_of_spells {v : Json} {s rest : List Char} (h : Spells v s rest) : skip s = .ok rest :=
  skipValue_of_spells v h (by omega)

end NotNullLint.Json
