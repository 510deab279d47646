import NotNullLint.Proofs.Text.Places
import NotNullLint.Rule.Descriptor

/-!
Messages, and the text that arguments bring into them.

A message is made by putting in the arguments one after the other, so a later argument is also put in
where an earlier one brings its placeholder along, or where one arises between an argument and the
template. Unless that happens, the message is what reading the template once gives, with every
argument as it is.
-/

namespace NotNullLint
namespace Descriptor

open Text (places replaceAll)

/-! ### Placeholders -/

section

variable {i j : Nat} {c : Char} {r s u : List Char}

/-- A placeholder after its opening brace. -/
def placeholderTail (i : Nat) : List Char := Nat.toDigits 10 i ++ ['\x7d']

lemma placeholder_eq (i : Nat) : placeholder i = '\x7b' :: placeholderTail i := rfl

lemma not_mem_placeholderTail (i : Nat) : '\x7b' ∉ placeholderTail i := by
  rw [placeholderTail, List.mem_append, not_or]
  refine ⟨fun h => ?_, by decide⟩
  have hdigit := Nat.isDigit_of_mem_toDigits (by decide) (by decide) h
  exact absurd hdigit (by decide)

lemma takeWhile_placeholderTail (i : Nat) (s : List Char) :
    (placeholderTail i ++ s).takeWhile Char.isDigit = Nat.toDigits 10 i := by
  have hdigits : ∀ c ∈ Nat.toDigits 10 i, c.isDigit = true := fun c hc =>
    Nat.isDigit_of_mem_toDigits (by decide) (by decide) hc
  rw [placeholderTail, List.append_assoc, List.takeWhile_append_of_pos hdigits]
  exact (congrArg _ (List.takeWhile_cons_of_neg (by decide))).trans (List.append_nil _)

/-- Placeholders of two numbers differ before either ends. -/
lemma placeholder_prefix_iff : placeholder i <+: placeholder j ++ r ↔ i = j := by
  constructor
  · rintro ⟨s, hs⟩
    have htail : placeholderTail i ++ s = placeholderTail j ++ r := List.cons_injective hs
    have hdigits := congrArg (List.takeWhile Char.isDigit) htail
    rw [takeWhile_placeholderTail, takeWhile_placeholderTail] at hdigits
    have hnumber := congrArg (Nat.ofDigitChars 10 · 0) hdigits
    simpa only [Nat.ofDigitChars_ten_toDigits] using hnumber
  · rintro rfl
    exact List.prefix_append _ _

lemma not_placeholder_of_ne (hc : c ≠ '\x7b') : ¬placeholder i <+: c :: r := fun h =>
  hc (List.cons_prefix_cons.1 h).1.symm

lemma places_placeholder : places (placeholder i) (placeholder j ++ r)
    = places (placeholder i) r + if i = j then 1 else 0 := by
  have hbrace : places (placeholder i) (placeholder j ++ r)
      = places (placeholder i) (placeholderTail j ++ r)
        + if placeholder i <+: placeholder j ++ r then 1 else 0 := Text.places_cons
  simp only [hbrace, placeholder_prefix_iff]
  rw [placeholder_eq i, Text.places_append_of_not_mem (not_mem_placeholderTail j)]

lemma places_append_placeholder : places (placeholder i) (u ++ (placeholder i ++ s))
    = places (placeholder i) u + (places (placeholder i) s + 1) := by
  have hcut : places (placeholder i) (u ++ (placeholder i ++ s))
      = places (placeholder i) u + places (placeholder i) (placeholder i ++ s) :=
    Text.places_append_cons (not_mem_placeholderTail i)
  rw [hcut, places_placeholder, if_pos rfl]

lemma replaceAll_append_placeholder {new : List Char} :
    replaceAll (placeholder i) new (u ++ (placeholder i ++ s))
      = replaceAll (placeholder i) new u ++ (new ++ replaceAll (placeholder i) new s) := by
  have hcut : replaceAll (placeholder i) new (u ++ (placeholder i ++ s))
      = replaceAll (placeholder i) new u ++ replaceAll (placeholder i) new (placeholder i ++ s) :=
    Text.replaceAll_append_cons (not_mem_placeholderTail i)
  have hne : placeholder i ≠ [] := List.cons_ne_nil _ _
  rw [hcut, Text.replaceAll_piece hne]

/-- A template is read from the left, a whole placeholder of one of the first numbers where one
stands, and else a character. -/
lemma template_induction (n : Nat) {motive : List Char → Prop} (nil : motive [])
    (place : ∀ i < n, ∀ r, motive r → motive (placeholder i ++ r))
    (char : ∀ c r, (∀ i < n, ¬placeholder i <+: c :: r) → motive r → motive (c :: r))
    (t : List Char) : motive t := by
  induction t using Text.pieces_induction (fun p => ∃ i < n, p = placeholder i)
    (by rintro ⟨i, -, hi⟩; cases hi) with
  | nil => exact nil
  | piece p hp r ih =>
    obtain ⟨i, hi, rfl⟩ := hp
    exact place i hi r ih
  | char c r hfree ih => exact char c r (fun i hi => hfree _ ⟨i, hi, rfl⟩) ih

end

/-! ### Reading the template once -/

/-- The argument in whose place the text begins, and its number. -/
def argumentAt? (args : List String) (text : List Char) : Option (String × Nat) :=
  args.zipIdx.find? fun e => (placeholder e.2).isPrefixOf text

/-- Reads a template once, from left to right, and puts every argument in as it is; `skip` characters
belong to a placeholder that has been read. -/
def filledFrom (args : List String) : Nat → List Char → List Char
  | _, [] => []
  | skip + 1, _ :: r => filledFrom args skip r
  | 0, c :: r =>
    match argumentAt? args (c :: r) with
    | some (arg, i) => arg.toList ++ filledFrom args (placeholderTail i).length r
    | none => c :: filledFrom args 0 r

/-- The template with every argument in the places that the template has for it. -/
def filled (args : List String) (template : List Char) : List Char := filledFrom args 0 template

section

variable {args : List String} {a : String} {i : Nat} {c : Char} {r t u : List Char}

lemma filledFrom_append (u : List Char) :
    filledFrom args u.length (u ++ r) = filled args r := by
  induction u with
  | nil => rfl
  | cons c u ih => exact ih

lemma argumentAt?_some {text : List Char} (h : argumentAt? args text = some (a, i)) :
    args[i]? = some a ∧ placeholder i <+: text := by
  unfold argumentAt? at h
  refine ⟨List.mem_zipIdx_iff_getElem?.1 (List.mem_of_find?_eq_some h), ?_⟩
  have hplace := List.find?_some h
  exact List.isPrefixOf_iff_prefix.1 hplace

lemma argumentAt?_eq_none_iff {text : List Char} :
    argumentAt? args text = none ↔ ∀ i < args.length, ¬placeholder i <+: text := by
  rw [argumentAt?, List.find?_eq_none]
  simp only [List.isPrefixOf_iff_prefix]
  constructor
  · exact fun h i hi => h (args[i], i) (List.mem_zipIdx_iff_getElem?.2 (by simp [hi]))
  · exact fun h e he => h e.2 (List.snd_lt_of_mem_zipIdx he)

lemma argumentAt?_placeholder (hi : i < args.length) :
    argumentAt? args (placeholder i ++ r) = some (args[i], i) := by
  cases hfind : argumentAt? args (placeholder i ++ r) with
  | none => exact absurd (List.prefix_append _ _) (argumentAt?_eq_none_iff.1 hfind i hi)
  | some e =>
    obtain ⟨arg, j⟩ := e
    obtain ⟨harg, hplace⟩ := argumentAt?_some hfind
    obtain rfl : j = i := placeholder_prefix_iff.1 hplace
    rw [List.getElem?_eq_getElem hi] at harg
    rw [Option.some.inj harg]

/-- The place of an argument is filled with it. -/
lemma filled_placeholder (hi : i < args.length) :
    filled args (placeholder i ++ r) = args[i].toList ++ filled args r := by
  rw [filled, placeholder_eq, List.cons_append, filledFrom, ← List.cons_append, ← placeholder_eq,
    argumentAt?_placeholder hi]
  exact congrArg _ (filledFrom_append (placeholderTail i))

/-- Other text stays. -/
lemma filled_cons (h : ∀ i < args.length, ¬placeholder i <+: c :: r) :
    filled args (c :: r) = c :: filled args r := by
  have hnone : argumentAt? args (c :: r) = none := argumentAt?_eq_none_iff.2 h
  rw [filled, filledFrom, hnone]
  rfl

lemma filled_append_of_not_mem (hu : '\x7b' ∉ u) : filled args (u ++ r) = u ++ filled args r := by
  induction u with
  | nil => rfl
  | cons c u ih =>
    rw [List.mem_cons, not_or] at hu
    rw [List.cons_append, filled_cons fun i _ => not_placeholder_of_ne (Ne.symm hu.1), ih hu.2,
      List.cons_append]

/-- Places with larger numbers stay. -/
lemma filled_placeholder_of_le (hi : args.length ≤ i) :
    filled args (placeholder i ++ r) = placeholder i ++ filled args r := by
  have hfree : ∀ j < args.length, ¬placeholder j <+: placeholder i ++ r := fun j hj h =>
    absurd (placeholder_prefix_iff.1 h) (Nat.ne_of_lt (Nat.lt_of_lt_of_le hj hi))
  rw [placeholder_eq, List.cons_append] at hfree ⊢
  rw [filled_cons hfree, filled_append_of_not_mem (not_mem_placeholderTail i), List.cons_append]

@[simp] lemma filled_nil : filled args [] = [] := rfl

/-- Without arguments, the template stays. -/
lemma filled_no_args (t : List Char) : filled [] t = t := by
  induction t with
  | nil => rfl
  | cons c r ih =>
    have hfree : ∀ i < ([] : List String).length, ¬placeholder i <+: c :: r :=
      fun i hi => absurd hi (Nat.not_lt_zero i)
    rw [filled_cons hfree, ih]

end

/-! ### One more argument -/

section

variable {args : List String} {t : List Char}

/-- The places that the template has for the next argument are there once those before it are in. -/
lemma le_places_filled (args : List String) (t u : List Char) :
    places (placeholder args.length) t
      ≤ places (placeholder args.length) (u ++ filled args t) := by
  -- `u` is what has been made since the last such place.
  induction t using template_induction (args.length + 1) generalizing u with
  | nil => exact Nat.zero_le _
  | place i hi r ih =>
    rw [places_placeholder]
    rcases Nat.lt_succ_iff_lt_or_eq.1 hi with hi | rfl
    · rw [if_neg (Nat.ne_of_gt hi), filled_placeholder hi, ← List.append_assoc]
      exact ih _
    · rw [if_pos rfl, filled_placeholder_of_le le_rfl, places_append_placeholder]
      have hrest := ih []
      rw [List.nil_append] at hrest
      omega
  | char c r hfree ih =>
    rw [Text.places_cons_of_not_prefix (hfree _ (Nat.lt_succ_self _)),
      filled_cons fun i hi => hfree i (Nat.lt_succ_of_lt hi), List.append_cons]
    exact ih _

/-- If there are no others, putting the next argument in is reading the template with it. -/
lemma replaceAll_filled (a : String) (u : List Char)
    (h : places (placeholder args.length) (u ++ filled args t)
      = places (placeholder args.length) t) :
    replaceAll (placeholder args.length) a.toList (u ++ filled args t)
      = u ++ filled (args ++ [a]) t := by
  have hlength : (args ++ [a]).length = args.length + 1 := by simp
  -- `u` is what the earlier arguments have made since the last place for `a`: a further place could
  -- begin in it and end in what follows, so it is counted together with that.
  induction t using template_induction (args.length + 1) generalizing u with
  | nil =>
    rw [filled_nil, List.append_nil] at h
    rw [filled_nil, filled_nil, List.append_nil]
    exact Text.replaceAll_of_places_eq_zero h
  | place i hi r ih =>
    have hconcat : i < (args ++ [a]).length := by omega
    rw [places_placeholder] at h
    rw [filled_placeholder hconcat]
    rcases Nat.lt_succ_iff_lt_or_eq.1 hi with hi | rfl
    · rw [if_neg (Nat.ne_of_gt hi), filled_placeholder hi, ← List.append_assoc] at h
      rw [filled_placeholder hi, ← List.append_assoc, ih _ h, List.append_assoc,
        List.getElem_append_left hi]
    · rw [if_pos rfl, filled_placeholder_of_le le_rfl, places_append_placeholder] at h
      have hrest := le_places_filled args r []
      rw [List.nil_append] at hrest
      have hbefore : places (placeholder args.length) u = 0 := by omega
      have hafter := ih [] (by rw [List.nil_append]; omega)
      rw [List.nil_append, List.nil_append] at hafter
      rw [filled_placeholder_of_le le_rfl, replaceAll_append_placeholder, hafter,
        Text.replaceAll_of_places_eq_zero hbefore, List.getElem_concat_length rfl]
  | char c r hfree ih =>
    have hargs : ∀ i < args.length, ¬placeholder i <+: c :: r := fun i hi =>
      hfree i (Nat.lt_succ_of_lt hi)
    rw [filled_cons hargs, Text.places_cons_of_not_prefix (hfree _ (Nat.lt_succ_self _)),
      List.append_cons] at h
    rw [filled_cons hargs, filled_cons (hlength ▸ hfree), List.append_cons, ih _ h,
      ← List.append_cons]

/-- An empty argument shortens the text by the places that the template has for it. -/
lemma length_filled_concat (args : List String) (t : List Char) :
    (filled (args ++ [""]) t).length
      + places (placeholder args.length) t * (placeholder args.length).length
      = (filled args t).length := by
  have hlength : (args ++ [""]).length = args.length + 1 := by simp
  induction t using template_induction (args.length + 1) with
  | nil => simp [placeholder_eq]
  | place i hi r ih =>
    have hconcat : i < (args ++ [""]).length := by omega
    rw [places_placeholder, filled_placeholder hconcat]
    rcases Nat.lt_succ_iff_lt_or_eq.1 hi with hi | rfl
    · rw [if_neg (Nat.ne_of_gt hi), filled_placeholder hi, List.getElem_append_left hi,
        Nat.add_zero, List.length_append, List.length_append]
      omega
    · rw [if_pos rfl, filled_placeholder_of_le le_rfl, List.getElem_concat_length rfl,
        Nat.succ_mul, String.toList_empty, List.nil_append, List.length_append]
      omega
  | char c r hfree ih =>
    rw [filled_cons fun i hi => hfree i (Nat.lt_succ_of_lt hi), filled_cons (hlength ▸ hfree),
      Text.places_cons_of_not_prefix (hfree _ (Nat.lt_succ_self _))]
    simp only [List.length_cons]
    omega

end

/-! ### The whole message -/

/-- What the arguments bring into a template makes no new place for a later one: each has as many
places when its turn comes as in the template. -/
def Unmixed (args : List String) (t : List Char) : Prop :=
  ∀ i < args.length, places (placeholder i) (filled (args.take i) t) = places (placeholder i) t

section

variable {args : List String} {a : String} {t : List Char}

lemma fill_concat (i : Nat) (args : List String) (a : String) (t : List Char) :
    fill i (args ++ [a]) t = replaceAll (placeholder (i + args.length)) a.toList (fill i args t) := by
  induction args generalizing i t with
  | nil => rfl
  | cons b args ih =>
    rw [List.cons_append, fill, ih, fill, List.length_cons, Nat.add_right_comm, Nat.add_assoc]

/-- What holds of the arguments before each one. -/
lemma forall_take_concat {P : Nat → List String → Prop} :
    (∀ i < (args ++ [a]).length, P i ((args ++ [a]).take i))
      ↔ (∀ i < args.length, P i (args.take i)) ∧ P args.length args := by
  have htake : ∀ i ≤ args.length, (args ++ [a]).take i = args.take i := fun i hi =>
    List.take_append_of_le_length hi
  rw [List.length_append, List.length_singleton, Nat.forall_lt_succ_right, htake _ le_rfl,
    List.take_length]
  refine and_congr_left fun _ => forall₂_congr fun i hi => ?_
  rw [htake i hi.le]

lemma unmixed_concat : Unmixed (args ++ [a]) t ↔ Unmixed args t
    ∧ places (placeholder args.length) (filled args t) = places (placeholder args.length) t :=
  forall_take_concat
    (P := fun i before => places (placeholder i) (filled before t) = places (placeholder i) t)

/-- Unless the arguments get mixed, putting them in one after the other is reading the template
once. -/
lemma fill_of_unmixed (h : Unmixed args t) : fill 0 args t = filled args t := by
  induction args using List.reverseRecOn with
  | nil => rw [fill, filled_no_args]
  | append_singleton args a ih =>
    obtain ⟨hargs, hlast⟩ := unmixed_concat.1 h
    rw [fill_concat, Nat.zero_add, ih hargs]
    exact replaceAll_filled a [] hlast

/-- If an empty argument is put in as the template says, there was no place for it but those of the
template. -/
lemma places_of_fill_empty (h : fill 0 args t = filled args t)
    (hempty : fill 0 (args ++ [""]) t = filled (args ++ [""]) t) :
    places (placeholder args.length) (filled args t) = places (placeholder args.length) t := by
  have hcode := Text.length_replaceAll_nil (not_mem_placeholderTail args.length) (filled args t)
  have htemplate := length_filled_concat args t
  rw [fill_concat, Nat.zero_add, h, String.toList_empty] at hempty
  rw [← placeholder_eq, hempty] at hcode
  have hlong : 0 < (placeholder args.length).length := List.length_pos_iff.2 (List.cons_ne_nil _ _)
  exact Nat.eq_of_mul_eq_mul_right hlong (by omega)

/-- No condition on the arguments before the last is weaker. -/
lemma unmixed_iff : Unmixed args t ↔ ∀ i < args.length, ∀ a,
    fill 0 (args.take i ++ [a]) t = filled (args.take i ++ [a]) t := by
  induction args using List.reverseRecOn with
  | nil => simp [Unmixed]
  | append_singleton args b ih =>
    rw [unmixed_concat, ih, forall_take_concat
      (P := fun _ before => ∀ a, fill 0 (before ++ [a]) t = filled (before ++ [a]) t)]
    refine and_congr_right fun h => ⟨fun hlast a => ?_, fun hlast => ?_⟩
    · exact fill_of_unmixed (unmixed_concat.2 ⟨ih.2 h, hlast⟩)
    · exact places_of_fill_empty (fill_of_unmixed (ih.2 h)) (hlast "")

lemma unmixed_of_length_le_one (h : args.length ≤ 1) : Unmixed args t := by
  intro i hi
  rw [Nat.lt_one_iff.1 (Nat.lt_of_lt_of_le hi h), List.take_zero, filled_no_args]

end

/-! ### Braces -/

/-- Every opening brace of the template begins a placeholder. -/
inductive Braced : List Char → Prop
  | nil : Braced []
  | place (i : Nat) {r : List Char} (rest : Braced r) : Braced (placeholder i ++ r)
  | char {c : Char} {r : List Char} (noBrace : c ≠ '\x7b') (rest : Braced r) : Braced (c :: r)

section

variable {args : List String} {t : List Char}

lemma Braced.places_filled (h : Braced t) (hargs : ∀ a ∈ args, '\x7b' ∉ a.toList) {i : Nat}
    (hi : args.length ≤ i) :
    places (placeholder i) (filled args t) = places (placeholder i) t := by
  induction h with
  | nil => rfl
  | @place j r _ ih =>
    rw [places_placeholder]
    by_cases hj : j < args.length
    · rw [filled_placeholder hj, placeholder_eq i,
        Text.places_append_of_not_mem (hargs _ (List.getElem_mem hj)), ← placeholder_eq, ih,
        if_neg (Nat.ne_of_gt (Nat.lt_of_lt_of_le hj hi))]
      rfl
    · rw [filled_placeholder_of_le (Nat.le_of_not_lt hj), places_placeholder, ih]
  | @char c r hc _ ih =>
    rw [filled_cons fun j _ => not_placeholder_of_ne hc,
      Text.places_cons_of_not_prefix (not_placeholder_of_ne hc),
      Text.places_cons_of_not_prefix (not_placeholder_of_ne hc), ih]

/-- Without braces in the arguments, nothing gets mixed in such a template. -/
lemma Braced.unmixed (h : Braced t) (hargs : ∀ a ∈ args.dropLast, '\x7b' ∉ a.toList) :
    Unmixed args t := by
  intro i hi
  have hbefore : args.take i ⊆ args.dropLast := by
    rw [List.dropLast_eq_take]
    exact (List.take_prefix_take_left (Nat.le_sub_one_of_lt hi)).subset
  exact h.places_filled (fun a ha => hargs a (hbefore ha)) (List.length_take_le i args)

end

/-- **Messages.** A message is the template with every argument in the places that the template has
for it, unless the arguments get mixed; they do exactly if some argument, put in after those before
it, goes wrong. One argument alone never does, nor do arguments without braces in a template whose
braces are all those of placeholders. -/
theorem message_of_unmixed (d : Descriptor) (args : List String) :
    (Unmixed args d.template.toList →
      d.message args = String.ofList (filled args d.template.toList))
    ∧ (Unmixed args d.template.toList ↔ ∀ i < args.length, ∀ a,
      d.message (args.take i ++ [a]) = String.ofList (filled (args.take i ++ [a]) d.template.toList))
    ∧ (args.length ≤ 1 → Unmixed args d.template.toList)
    ∧ (Braced d.template.toList → (∀ a ∈ args.dropLast, '\x7b' ∉ a.toList) →
      Unmixed args d.template.toList) := by
  refine ⟨fun h => ?_, ?_, unmixed_of_length_le_one, Braced.unmixed⟩
  · rw [message, fill_of_unmixed h]
  · simp only [message, String.ofList_inj]
    exact unmixed_iff

/-- A diagnostic with two places. -/
def twoPlaces : Descriptor where
  code := "TEST01"
  name := "test-rule"
  title := "A test rule"
  template := "Parameter '\x7b0\x7d' of '\x7b1\x7d' is suspicious"
  description := ""
  category := "Usage"
  defaultSeverity := .warning
  enabledByDefault := true

/-- An argument that looks like a place for an earlier one stays as it is. -/
theorem message_backward :
    twoPlaces.message ["\x7b0\x7d", "M"] = "Parameter '\x7b0\x7d' of 'M' is suspicious" := by
  have hunmixed : Unmixed ["\x7b0\x7d", "M"] twoPlaces.template.toList := by
    unfold Unmixed
    decide +kernel
  exact ((message_of_unmixed twoPlaces _).1 hunmixed).trans (by decide +kernel)

/-- An argument that looks like a place for a later one is lost. -/
theorem message_forward :
    twoPlaces.message ["\x7b1\x7d", "M"] = "Parameter 'M' of 'M' is suspicious"
    ∧ twoPlaces.message ["\x7b1\x7d", "M"]
      ≠ String.ofList (filled ["\x7b1\x7d", "M"] twoPlaces.template.toList) := by
  decide +kernel

end Descriptor
end NotNullLint
