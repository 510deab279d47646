import NotNullLint.Glob.Walk
import NotNullLint.Proofs.Glob.Plain

/-!
A pattern and its components.

A text is read as a pattern both as a whole, to exclude, and component by component, to follow it
into folders. Where each component is a pattern so is the whole: the tokens of the components with
slashes between them, except that `**` takes the slash after it along. Names that the components
stand for, one after the other, spell a text that the whole stands for.
-/

namespace NotNullLint.Glob

variable {skip n : Nat} {boundary : Bool} {c : Char} {r a b s : List Char} {token : Token}
  {p q ts us : Pattern}

lemma cons_of_ne (h : token ≠ .folders) (ts : Pattern) : cons token ts = token :: ts := by
  cases token <;> first | rfl | exact absurd rfl h

lemma exists_cons_folders (ts : Pattern) : ∃ us, cons .folders ts = .folders :: us := by
  unfold cons
  split
  · exact ⟨_, rfl⟩
  · exact ⟨_, rfl⟩

/-! ### Sets -/

lemma takeWhile_bracket (h : ∀ c ∈ a, (c != ']') = true) (s : List Char) :
    (a ++ ']' :: s).takeWhile (· != ']') = a := by
  rw [List.takeWhile_append_of_pos h, List.takeWhile_cons_of_neg (by simp), List.append_nil]

lemma exists_bracket (h : (r.takeWhile (· != ']')).length < r.length) :
    ∃ a s, r = a ++ ']' :: s ∧ ∀ c ∈ a, (c != ']') = true := by
  have hsplit := List.takeWhile_append_dropWhile (p := (· != ']')) (l := r)
  cases hrest : r.dropWhile (· != ']') with
  | nil =>
    rw [hrest, List.append_nil] at hsplit
    rw [hsplit] at h
    omega
  | cons c s =>
    have hc : c = ']' := by
      have hhead := List.head?_dropWhile_not (· != ']') r
      simpa [hrest] using hhead
    rw [hrest, hc] at hsplit
    exact ⟨_, s, hsplit.symm, fun d hd => List.all_eq_true.1 List.all_takeWhile d hd⟩

/-- A set reaches up to a closing bracket, and is the same whatever follows that. -/
lemma set?_spec (h : set? r = some (token, n)) :
    token ≠ .folders ∧ ∃ a s, r = a ++ ']' :: s ∧ n = a.length + 1
      ∧ ∀ s, set? (a ++ ']' :: s) = some (token, n) := by
  unfold set? at h
  split at h
  · rename_i c r
    dsimp only at h
    split at h
    · rename_i hin
      obtain ⟨a, s, rfl, ha⟩ := exists_bracket hin
      rw [takeWhile_bracket ha] at h
      cases h
      refine ⟨nofun, '!' :: c :: a, s, rfl, rfl, fun s => ?_⟩
      simp [set?, takeWhile_bracket ha]
    · cases h
  · cases h
  · rename_i c r hbang hsingle
    dsimp only at h
    split at h
    · rename_i hin
      obtain ⟨a, s, rfl, ha⟩ := exists_bracket hin
      rw [takeWhile_bracket ha] at h
      cases h
      have hc : c ≠ '!' := by
        rintro rfl
        cases a with
        | nil => exact hbang ']' s rfl rfl
        | cons d a => exact hbang d (a ++ ']' :: s) rfl rfl
      refine ⟨nofun, c :: a, s, rfl, rfl, fun s => ?_⟩
      rw [List.cons_append, set?.eq_3 _ _ (fun _ _ h => absurd h hc) fun h => absurd h hc]
      simp [takeWhile_bracket ha]
    · cases h
  · cases h

lemma set?_le (h : set? r = some (token, n)) : n ≤ r.length := by
  obtain ⟨-, a, s, rfl, rfl, -⟩ := set?_spec h
  simp

lemma set?_append (h : set? r = some (token, n)) (s : List Char) :
    set? (r ++ s) = some (token, n) := by
  obtain ⟨-, a, t, rfl, rfl, hset⟩ := set?_spec h
  rw [List.append_assoc, List.cons_append, hset]

/-! ### Reading without positions -/

/-- The text is read as the tokens, after the given number of its characters. -/
inductive Reads : (skip : Nat) → (boundary : Bool) → List Char → Pattern → Prop
  | done {skip : Nat} {boundary : Bool} : Reads skip boundary [] []
  | skipped {skip : Nat} {boundary : Bool} {c : Char} {r : List Char} {ts : Pattern} :
      Reads skip (c == '/') r ts → Reads (skip + 1) boundary (c :: r) ts
  | anyChar {boundary : Bool} {r : List Char} {ts : Pattern} :
      Reads 0 false r ts → Reads 0 boundary ('?' :: r) (.anyChar :: ts)
  | sequence {boundary : Bool} {r : List Char} {ts : Pattern} :
      r.head? ≠ some '*' → Reads 0 false r ts → Reads 0 boundary ('*' :: r) (.sequence :: ts)
  | folders {r : List Char} {ts : Pattern} : r = [] ∨ r.head? = some '/' →
      Reads 2 false ('*' :: r) ts → Reads 0 true ('*' :: '*' :: r) (cons .folders ts)
  | set {boundary : Bool} {r : List Char} {token : Token} {n : Nat} {ts : Pattern} :
      set? r = some (token, n) → Reads n false r ts → Reads 0 boundary ('[' :: r) (token :: ts)
  | char {boundary : Bool} {c : Char} {r : List Char} {ts : Pattern} :
      IsPlain c → Reads 0 (c == '/') r ts → Reads 0 boundary (c :: r) (.char c :: ts)

lemma reads_of_tokens {position : Nat} (h : tokens skip position boundary s = .ok ts) :
    Reads skip boundary s ts := by
  fun_induction tokens skip position boundary s generalizing ts with
  | case1 =>
    cases h
    exact .done
  | case2 skip position boundary c r ih => exact .skipped (ih h)
  | case3 position boundary r ih =>
    obtain ⟨us, hus, rfl⟩ := Except.map_eq_ok_iff.1 h
    exact .anyChar (ih hus)
  | case4 => cases h
  | case5 => cases h
  | case6 position boundary r hstar hboundary hend hany ih =>
    obtain ⟨us, hus, rfl⟩ := Except.map_eq_ok_iff.1 h
    rw [(Bool.not_eq_false boundary).mp hboundary]
    exact .folders hend (ih hus)
  | case7 => cases h
  | case8 position boundary r hstars hstar hany ih =>
    obtain ⟨us, hus, rfl⟩ := Except.map_eq_ok_iff.1 h
    refine .sequence (fun hhead => ?_) (ih hus)
    obtain ⟨t, rfl⟩ := List.head?_eq_some_iff.1 hhead
    exact hstar t rfl
  | case9 position boundary r token n hset hany hstar ih =>
    obtain ⟨us, hus, rfl⟩ := Except.map_eq_ok_iff.1 h
    rw [cons_of_ne (set?_spec hset).1]
    exact .set hset (ih hus)
  | case10 => cases h
  | case11 position boundary c r hany hstar hopen ih =>
    obtain ⟨us, hus, rfl⟩ := Except.map_eq_ok_iff.1 h
    exact .char ⟨hany, hstar, hopen⟩ (ih hus)

lemma tokens_star (hr : r.head? ≠ some '*') (position : Nat) (boundary : Bool) :
    tokens 0 position boundary ('*' :: r)
      = (tokens 0 (position + 1) false r).map (cons .sequence) := by
  have hany : '*' ≠ '?' := by decide
  simp only [tokens, hany, if_false, if_true]
  split
  · simp at hr
  · simp at hr
  · rfl

lemma tokens_stars (hr : r = [] ∨ r.head? = some '/') (position : Nat) :
    tokens 0 position true ('*' :: '*' :: r)
      = (tokens 2 (position + 1) false ('*' :: r)).map (cons .folders) := by
  have hany : '*' ≠ '?' := by decide
  have hstar : r.head? ≠ some '*' := by
    rcases hr with rfl | hr
    · simp
    · simp [hr]
  simp only [tokens, hany, if_false, if_true]
  split
  · rename_i heq
    cases heq
    simp at hstar
  · rename_i heq
    cases heq
    simp [hr]
  · rename_i hother
    exact absurd rfl (hother _)

lemma tokens_set (hset : set? r = some (token, n)) (position : Nat) (boundary : Bool) :
    tokens 0 position boundary ('[' :: r)
      = (tokens n (position + 1) false r).map (cons token) := by
  have hany : '[' ≠ '?' := by decide
  have hstar : '[' ≠ '*' := by decide
  simp only [tokens, hany, hstar, if_false, if_true, hset]

/-- What is read as tokens is read so at any position. -/
lemma tokens_of_reads (h : Reads skip boundary s ts) (position : Nat) :
    tokens skip position boundary s = .ok ts := by
  induction h generalizing position with
  | done => simp [tokens]
  | skipped _ ih => rw [tokens, ih]
  | anyChar _ ih =>
    simp only [tokens, if_true, ih]
    rfl
  | sequence hr _ ih =>
    rw [tokens_star hr, ih]
    rfl
  | folders hr _ ih =>
    rw [tokens_stars hr, ih]
    rfl
  | set hset _ ih =>
    rw [tokens_set hset, ih]
    exact congrArg Except.ok (cons_of_ne (set?_spec hset).1 _)
  | char hc _ ih =>
    rw [tokens_cons_plain hc, ih]
    rfl

lemma reads_of_parse (h : parse s = .ok p) : Reads 0 true s p := reads_of_tokens h

lemma parse_of_reads (h : Reads 0 true s p) : parse s = .ok p := tokens_of_reads h 0

/-! ### Components -/

/-- Only what starts a component may stand for folders. -/
lemma Reads.not_mem_folders (h : Reads skip boundary s ts) (hs : '/' ∉ s)
    (hboundary : boundary = false) : .folders ∉ ts := by
  induction h with
  | done => exact List.not_mem_nil
  | skipped _ ih =>
    rw [List.mem_cons, not_or] at hs
    exact ih hs.2 (by simpa using Ne.symm hs.1)
  | anyChar _ ih | sequence _ _ ih =>
    rw [List.mem_cons, not_or] at hs
    simpa using ih hs.2 rfl
  | folders => cases hboundary
  | set hset _ ih =>
    rw [List.mem_cons, not_or] at hs
    simpa [(set?_spec hset).1.symm] using ih hs.2 rfl
  | char _ _ ih =>
    rw [List.mem_cons, not_or] at hs
    simpa using ih hs.2 (by simpa using Ne.symm hs.1)

/-- The only component that stands for folders is `**`. -/
lemma Reads.eq_stars (h : Reads 0 boundary s ts) (hs : '/' ∉ s) (hts : .folders ∈ ts) :
    s = ['*', '*'] ∧ ts = [.folders] := by
  cases h with
  | done => cases hts
  | anyChar hr | sequence _ hr =>
    rw [List.mem_cons, not_or] at hs
    exact absurd (by simpa using hts) (hr.not_mem_folders hs.2 rfl)
  | folders hr hrest =>
    rcases hr with rfl | hr
    · cases hrest with
      | skipped hrest =>
        cases hrest
        exact ⟨rfl, rfl⟩
    · obtain ⟨t, rfl⟩ := List.head?_eq_some_iff.1 hr
      simp at hs
  | set hset hr =>
    rw [List.mem_cons, not_or] at hs
    exact absurd (by simpa [(set?_spec hset).1.symm] using hts) (hr.not_mem_folders hs.2 rfl)
  | @char _ c _ _ _ hr =>
    rw [List.mem_cons, not_or] at hs
    have hc : (c == '/') = false := by simpa using Ne.symm hs.1
    rw [hc] at hr
    exact absurd (by simpa using hts) (hr.not_mem_folders hs.2 rfl)

/-- A component and what comes after a slash are read one after the other. -/
lemma Reads.append_slash (h : Reads skip boundary a ts) (ha : '/' ∉ a) (hskip : skip ≤ a.length)
    (hts : .folders ∉ ts) (hb : Reads 0 true b us) :
    Reads skip boundary (a ++ '/' :: b) (ts ++ .char '/' :: us) := by
  induction h with
  | @done skip =>
    obtain rfl : skip = 0 := Nat.le_zero.1 hskip
    exact .char (by decide) hb
  | skipped _ ih =>
    rw [List.mem_cons, not_or] at ha
    exact .skipped (ih ha.2 (Nat.le_of_succ_le_succ hskip) hts)
  | anyChar _ ih =>
    rw [List.mem_cons, not_or] at ha hts
    exact .anyChar (ih ha.2 (Nat.zero_le _) hts.2)
  | @sequence _ r _ hr _ ih =>
    rw [List.mem_cons, not_or] at ha hts
    refine .sequence ?_ (ih ha.2 (Nat.zero_le _) hts.2)
    cases r with
    | nil => simp
    | cons d r => simpa using hr
  | @folders r ts =>
    obtain ⟨us, hus⟩ := exists_cons_folders ts
    simp [hus] at hts
  | set hset _ ih =>
    rw [List.mem_cons, not_or] at ha hts
    exact .set (set?_append hset _) (ih ha.2 (set?_le hset) hts.2)
  | char hc _ ih =>
    rw [List.mem_cons, not_or] at ha hts
    exact .char hc (ih ha.2 (Nat.zero_le _) hts.2)

lemma Reads.stars_slash (h : Reads 0 true b us) :
    Reads 0 true ('*' :: '*' :: '/' :: b) (cons .folders us) :=
  .folders (.inr rfl) (.skipped (.skipped h))

/-- The components as one pattern. -/
def glue : List Pattern → Pattern
  | [] => []
  | [p] => p
  | p :: q :: ps =>
    if isDeep p then cons .folders (glue (q :: ps)) else p ++ .char '/' :: glue (q :: ps)

/-- **The whole of a pattern is put together from its components.** -/
theorem reads_glue {pieces : List (List Char)} {ps : List Pattern} (hne : pieces ≠ [])
    (hslash : ∀ a ∈ pieces, '/' ∉ a) (h : pieces.mapM parse = .ok ps) :
    Reads 0 true (['/'].intercalate pieces) (glue ps) := by
  induction pieces generalizing ps with
  | nil => exact absurd rfl hne
  | cons a pieces ih =>
    obtain ⟨p, qs, hp, hqs, rfl⟩ := Except.mapM_cons_eq_ok_iff.1 h
    have ha := hslash a List.mem_cons_self
    cases pieces with
    | nil =>
      cases hqs
      simpa [glue] using reads_of_parse hp
    | cons b pieces =>
      have hslash' : ∀ c ∈ b :: pieces, '/' ∉ c := fun c hc =>
        hslash c (List.mem_cons_of_mem a hc)
      have hrest := ih (List.cons_ne_nil b pieces) hslash' hqs
      obtain ⟨q, ps, -, -, rfl⟩ := Except.mapM_cons_eq_ok_iff.1 hqs
      rw [List.intercalate_cons_cons, glue]
      by_cases hfolders : .folders ∈ p
      · obtain ⟨rfl, rfl⟩ := (reads_of_parse hp).eq_stars ha hfolders
        exact hrest.stars_slash
      · have hdeep : isDeep p = false := by
          rw [isDeep, beq_eq_false_iff_ne]
          rintro rfl
          simp at hfolders
        rw [hdeep, if_neg Bool.false_ne_true]
        simpa using (reads_of_parse hp).append_slash ha (Nat.zero_le _) hfolders hrest

/-! ### What the whole stands for -/

lemma mem_afterSlashes : r ∈ afterSlashes s ↔ '/' :: r <:+ s := by
  rw [afterSlashes, List.mem_filterMap]
  constructor
  · rintro ⟨t, ht, hr⟩
    split at hr
    · cases hr
      exact Text.mem_suffixes.1 ht
    · cases hr
  · intro h
    exact ⟨_, Text.mem_suffixes.2 h, rfl⟩

lemma accepts_folders : Pattern.accepts (.folders :: ts) s = true
    ↔ ts = [] ∨ ts.accepts s = true ∨ ∃ r, '/' :: r <:+ s ∧ ts.accepts r = true := by
  simp only [Pattern.accepts, Bool.or_eq_true, List.any_eq_true, mem_afterSlashes, List.isEmpty_iff,
    or_assoc]

lemma accepts_cons_folders (h : Pattern.accepts ts s = true) :
    Pattern.accepts (cons .folders ts) s = true := by
  unfold cons
  split
  · exact h
  · exact accepts_folders.2 (.inr (.inl h))

/-- Folders stand for one more of them. -/
lemma accepts_folders_slash (h : Pattern.accepts (cons .folders ts) s = true) (a : List Char) :
    Pattern.accepts (cons .folders ts) (a ++ '/' :: s) = true := by
  obtain ⟨us, hus⟩ := exists_cons_folders ts
  rw [hus, accepts_folders] at h ⊢
  have hsuffix : '/' :: s <:+ a ++ '/' :: s := List.suffix_append a _
  rcases h with h | h | ⟨r, hr, h⟩
  · exact .inl h
  · exact .inr (.inr ⟨s, hsuffix, h⟩)
  · exact .inr (.inr ⟨r, (hr.trans (List.suffix_cons '/' s)).trans hsuffix, h⟩)

/-- What starts with a star, after any number of `?`, also stands for one character more. Folders at
the start take in nothing but a slash. -/
lemma Reads.accepts_cons (h : Reads 0 boundary s ts)
    (hstar : (s.dropWhile (· == '?')).head? = some '*') (hc : boundary = true → c = '/')
    (ha : ts.accepts a = true) : ts.accepts (c :: a) = true := by
  generalize hskip : 0 = skip at h
  induction h generalizing c a with
  | done => cases hstar
  | skipped => cases hskip
  | anyChar _ ih =>
    cases a with
    | nil => simp [Pattern.accepts] at ha
    | cons d a =>
      simp only [Pattern.accepts, Token.admits, Bool.true_and] at ha ⊢
      exact ih (by simpa using hstar) (fun h => absurd h Bool.false_ne_true) ha rfl
  | sequence =>
    simp only [Pattern.accepts, List.any_eq_true, Text.mem_suffixes] at ha ⊢
    obtain ⟨t, ht, ha⟩ := ha
    exact ⟨t, ht.trans (List.suffix_cons c a), ha⟩
  | folders =>
    rw [hc rfl]
    exact accepts_folders_slash ha []
  | set => simp at hstar
  | char hd =>
    rw [List.dropWhile_cons_of_neg (by simpa using hd.1)] at hstar
    exact absurd (by simpa using hstar) hd.2.1

lemma accepts_append (hp : .folders ∉ p) (ha : p.accepts a = true) (hb : q.accepts b = true) :
    Pattern.accepts (p ++ q) (a ++ b) = true := by
  induction p generalizing a with
  | nil =>
    obtain rfl : a = [] := by simpa [Pattern.accepts] using ha
    exact hb
  | cons token p ih =>
    rw [List.mem_cons, not_or] at hp
    cases token with
    | folders => exact absurd rfl hp.1
    | sequence =>
      simp only [Pattern.accepts, List.any_eq_true, Text.mem_suffixes, List.cons_append] at ha ⊢
      obtain ⟨t, ⟨u, rfl⟩, ht⟩ := ha
      exact ⟨t ++ b, ⟨u, by simp⟩, ih hp.2 ht⟩
    | char | anyChar | oneOf | noneOf =>
      cases a with
      | nil => simp [Pattern.accepts] at ha
      | cons c a =>
        simp only [Pattern.accepts, Bool.and_eq_true, List.cons_append] at ha ⊢
        exact ⟨ha.1, ih hp.2 ha.2⟩

/-- The components stand for the names, one after the other, and `**` for any number of them. -/
inductive Along : List Pattern → List String → Prop
  | done : Along [] []
  | name {p : Pattern} {ps : List Pattern} {n : String} {ns : List String} :
      .folders ∉ p → p.accepts n.toList = true → Along ps ns → Along (p :: ps) (n :: ns)
  | stay {q : Pattern} {ps : List Pattern} {ns : List String} :
      Along (q :: ps) ns → Along ([.folders] :: q :: ps) ns
  | down {ps : List Pattern} {n : String} {ns : List String} :
      Along ([.folders] :: ps) ns → Along ([.folders] :: ps) (n :: ns)

lemma Along.ne_nil {ps : List Pattern} {ns : List String} (h : Along ps ns) (hne : ps ≠ []) :
    ns ≠ [] := by
  induction h with
  | done => exact absurd rfl hne
  | name => exact List.cons_ne_nil _ _
  | stay _ ih => exact ih (List.cons_ne_nil _ _)
  | down => exact List.cons_ne_nil _ _

/-- Folders are no names by themselves. -/
lemma Along.getLast?_ne {ps : List Pattern} {ns : List String} (h : Along ps ns) :
    ps.getLast? ≠ some [.folders] := by
  induction h with
  | done => nofun
  | @name p ps n ns hp _ _ ih =>
    cases ps with
    | nil =>
      rw [List.getLast?_singleton]
      rintro ⟨⟩
      simp at hp
    | cons q ps => rwa [List.getLast?_cons_cons]
  | stay _ ih => rwa [List.getLast?_cons_cons]
  | down _ ih => exact ih

/-- **The whole stands for what its components lead along**: the names with slashes between them. -/
theorem Along.accepts_glue {ps : List Pattern} {ns : List String} (h : Along ps ns)
    (hne : ps ≠ []) : (glue ps).accepts (String.intercalate "/" ns).toList = true := by
  induction h with
  | done => exact absurd rfl hne
  | @name p ps n ns hp hn hrest ih =>
    cases ps with
    | nil =>
      cases hrest
      simpa [glue] using hn
    | cons q ps =>
      have hns : ns ≠ [] := hrest.ne_nil (List.cons_ne_nil q ps)
      have hdeep : isDeep p = false := by
        rw [isDeep, beq_eq_false_iff_ne]
        rintro rfl
        simp at hp
      rw [glue, hdeep, if_neg Bool.false_ne_true, String.intercalate_cons_of_ne_nil hns]
      have hslash : Pattern.accepts (.char '/' :: glue (q :: ps))
          ('/' :: (String.intercalate "/" ns).toList) = true := by
        simpa [Pattern.accepts, Token.admits] using ih (List.cons_ne_nil q ps)
      simpa using accepts_append hp hn hslash
  | @stay q ps ns _ ih =>
    rw [glue, isDeep, beq_self_eq_true, if_pos rfl]
    exact accepts_cons_folders (ih (List.cons_ne_nil q ps))
  | @down ps n ns hrest ih =>
    have hns : ns ≠ [] := hrest.ne_nil (List.cons_ne_nil _ ps)
    have hrest' := ih (List.cons_ne_nil _ ps)
    rw [String.intercalate_cons_of_ne_nil hns]
    obtain ⟨ts, hts⟩ : ∃ ts, glue ([.folders] :: ps) = cons .folders ts := by
      cases ps with
      | nil => exact ⟨[], rfl⟩
      | cons q ps => exact ⟨glue (q :: ps), rfl⟩
    rw [hts] at hrest' ⊢
    simpa using accepts_folders_slash hrest' n.toList

end NotNullLint.Glob
