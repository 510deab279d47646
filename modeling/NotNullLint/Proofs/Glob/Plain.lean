import NotNullLint.Glob.Pattern
import NotNullLint.Proofs.Except

/-!
Text without wildcards in patterns.

Such a text is a pattern for itself, alone and in front of another pattern: only `?`, `*` and `[`
start anything else than a character.
-/

namespace NotNullLint.Glob

/-- The character stands for itself wherever it starts a token. -/
def IsPlain (c : Char) : Prop := c ≠ '?' ∧ c ≠ '*' ∧ c ≠ '['
  deriving Decidable

/-- The pattern that has a text as its only match. -/
def literally (text : List Char) : Pattern := text.map .char

lemma tokens_cons_plain {c : Char} (hc : IsPlain c) (position : Nat) (boundary : Bool)
    (r : List Char) : tokens 0 position boundary (c :: r)
      = (tokens 0 (position + 1) (c == '/') r).map (.char c :: ·) := by
  obtain ⟨hany, hstar, hset⟩ := hc
  simp only [tokens, hany, hstar, hset, if_false]
  rfl

lemma tokens_plain {text : List Char} (h : ∀ c ∈ text, IsPlain c) (position : Nat)
    (boundary : Bool) : tokens 0 position boundary text = .ok (literally text) := by
  induction text generalizing position boundary with
  | nil => simp [tokens, literally]
  | cons c r ih =>
    rw [tokens_cons_plain (h c List.mem_cons_self), ih fun d hd => h d (List.mem_cons_of_mem c hd)]
    rfl

/-- A text without wildcards stands for itself. -/
lemma parse_plain {text : List Char} (h : ∀ c ∈ text, IsPlain c) :
    parse text = .ok (literally text) :=
  tokens_plain h 0 true

lemma mapM_parse_plain {ss : List String} (h : ∀ s ∈ ss, ∀ c ∈ s.toList, IsPlain c) :
    (ss.map String.toList).mapM parse = .ok (ss.map (literally ·.toList)) := by
  induction ss with
  | nil => rfl
  | cons s ss ih =>
    rw [List.map_cons, List.mapM_cons, parse_plain (h s List.mem_cons_self),
      ih fun t ht => h t (List.mem_cons_of_mem s ht)]
    rfl

/-- What follows a text without wildcards is read as if it stood alone, if it starts with a slash
and has no defect. -/
lemma tokens_append_slash {text rest : List Char} {ts : Pattern} (h : ∀ c ∈ text, IsPlain c)
    (hrest : ∀ position boundary, tokens 0 position boundary ('/' :: rest) = .ok ts)
    (position : Nat) (boundary : Bool) :
    tokens 0 position boundary (text ++ '/' :: rest) = .ok (literally text ++ ts) := by
  induction text generalizing position boundary with
  | nil => exact hrest position boundary
  | cons c r ih =>
    rw [List.cons_append, tokens_cons_plain (h c List.mem_cons_self),
      ih fun d hd => h d (List.mem_cons_of_mem c hd)]
    rfl

/-! ### Matches -/

lemma accepts_literally {text s : List Char} :
    (literally text).accepts s = true ↔ s = text := by
  induction text generalizing s with
  | nil => simp [literally, Pattern.accepts]
  | cons c r ih =>
    cases s with
    | nil => simp [literally, Pattern.accepts]
    | cons d t =>
      have htail : Pattern.accepts (List.map Token.char r) t = true ↔ t = r := ih
      simp [literally, Pattern.accepts, Token.admits, htail]

/-- What ends with a text matches any characters with that text after them. -/
lemma accepts_sequence_literally {text s : List Char} :
    Pattern.accepts (.sequence :: literally text) s = true ↔ text <:+ s := by
  simp only [Pattern.accepts, List.any_eq_true, Text.mem_suffixes, accepts_literally,
    exists_eq_right]

lemma literal?_literally (text : List Char) :
    (literally text).literal? = some (String.ofList text) := by
  unfold Pattern.literal?
  refine Option.map_eq_some_iff.2 ⟨text, ?_, rfl⟩
  induction text with
  | nil => rfl
  | cons c r ih => rw [literally, List.map_cons, List.mapM_cons, ← literally, ih]; rfl

end NotNullLint.Glob
