import NotNullLint.Proofs.Files.Joined

/-!
Text that occurs in a path.

Between slashes a path has its segments. A text that occurs in it either stays inside a segment, or
it has slashes of its own: then it starts at the end of a segment, goes on with whole ones, and stops
at the start of one. A path that goes on by segments is, seen from its first part, what it goes on
with; that also holds for segments such as `..`, which are no names.
-/

namespace NotNullLint

/-! ### Stretches between separators -/

namespace Text

variable {α : Type} {sep : α} {f g p t : List α} {fs ps : List (List α)}

lemma prefix_iff_of_not_mem (hf : sep ∉ f) : f <+: p ++ sep :: t ↔ f <+: p := by
  constructor
  · intro h
    rcases List.prefix_or_prefix_of_prefix h (List.prefix_append p (sep :: t)) with hp | ⟨r, rfl⟩
    · exact hp
    · rw [List.prefix_append_right_inj] at h
      rcases List.prefix_cons_iff.1 h with rfl | ⟨r, rfl, -⟩
      · exact ⟨[], by simp⟩
      · exact absurd (List.mem_append_right p List.mem_cons_self) hf
  · intro h
    exact h.trans (List.prefix_append p (sep :: t))

/-- Up to the first separator there is one way to start alike. -/
lemma prefix_sep_iff (hf : sep ∉ f) (hp : sep ∉ p) :
    f ++ sep :: g <+: p ++ sep :: t ↔ f = p ∧ g <+: t := by
  induction f generalizing p with
  | nil =>
    cases p with
    | nil => simp
    | cons c p =>
      have hc : sep ≠ c := by
        rintro rfl
        exact hp List.mem_cons_self
      simp [hc]
  | cons d f ih =>
    rw [List.mem_cons, not_or] at hf
    cases p with
    | nil => simp [Ne.symm hf.1]
    | cons c p =>
      rw [List.mem_cons, not_or] at hp
      simp only [List.cons_append, List.cons_prefix_cons, List.cons.injEq, ih hf.2 hp.2, and_assoc]

/-- A text without separators stays on one side of each of them. -/
lemma infix_iff_of_not_mem (hf : sep ∉ f) : f <:+: p ++ sep :: t ↔ f <:+: p ∨ f <:+: t := by
  have hstart : f <+: sep :: t → f = [] := by
    intro h
    rcases List.prefix_cons_iff.1 h with hnil | ⟨r, rfl, -⟩
    · exact hnil
    · exact absurd List.mem_cons_self hf
  constructor
  · intro h
    rcases List.infix_append_iff.1 h with hp | ht | ⟨a, b, rfl, ha, hb⟩
    · exact .inl hp
    · rcases List.infix_cons_iff.1 ht with hf' | ht
      · rw [hstart hf']
        exact .inl List.nil_infix
      · exact .inr ht
    · rcases List.prefix_cons_iff.1 hb with rfl | ⟨r, rfl, -⟩
      · rw [List.append_nil]
        exact .inl ha.isInfix
      · exact absurd (List.mem_append_right a List.mem_cons_self) hf
  · rintro (hp | ht)
    · exact hp.trans (List.prefix_append p _).isInfix
    · exact ht.trans ((List.suffix_cons sep t).trans (List.suffix_append p _)).isInfix

/-- A text with a separator has its first one at the first of the other, or occurs after that. -/
lemma infix_sep_iff (hf : sep ∉ f) (hp : sep ∉ p) :
    f ++ sep :: g <:+: p ++ sep :: t ↔ f <:+ p ∧ g <+: t ∨ f ++ sep :: g <:+: t := by
  constructor
  · intro h
    rcases List.infix_append_iff.1 h with hin | hin | ⟨a, b, hab, ha, hb⟩
    · exact absurd (hin.subset (List.mem_append_right f List.mem_cons_self)) hp
    · rcases List.infix_cons_iff.1 hin with hf' | hin
      · obtain ⟨rfl, hg⟩ := (prefix_sep_iff hf List.not_mem_nil).1 hf'
        exact .inl ⟨List.nil_suffix, hg⟩
      · exact .inr hin
    · -- the first separator cannot be on the left
      rcases List.append_eq_append_iff.1 hab with ⟨c, rfl, hc⟩ | ⟨c, rfl, rfl⟩
      · cases c with
        | nil =>
          rw [List.nil_append] at hc
          rw [← hc, List.cons_prefix_cons] at hb
          rw [List.append_nil] at ha
          exact .inl ⟨ha, hb.2⟩
        | cons d c =>
          have hd : sep = d := (List.cons.inj hc).1
          exact absurd (ha.subset (List.mem_append_right f (hd ▸ List.mem_cons_self))) hp
      · rw [List.mem_append, not_or] at hf
        obtain ⟨rfl, hg⟩ := (prefix_sep_iff hf.2 List.not_mem_nil).1 hb
        rw [List.append_nil]
        exact .inl ⟨ha, hg⟩
  · rintro (⟨⟨u, rfl⟩, ⟨v, rfl⟩⟩ | h)
    · exact ⟨u, v, by simp⟩
    · exact h.trans ((List.suffix_cons sep t).trans (List.suffix_append p _)).isInfix

/-- The stretches start as the others do: whole ones first, and the last one in part. -/
def Begins : List (List α) → List (List α) → Prop
  | [], _ => False
  | _ :: _, [] => False
  | [f], p :: _ => f <+: p
  | f :: g :: fs, p :: ps => f = p ∧ Begins (g :: fs) ps

/-- The stretches lie somewhere along the others: one alone inside of one, and several from the end
of one on. -/
def Fits : List (List α) → List (List α) → Prop
  | [], _ => False
  | [f], ps => ∃ p ∈ ps, f <:+: p
  | f :: g :: fs, ps => ∃ p rest, p :: rest <:+ ps ∧ f <:+ p ∧ Begins (g :: fs) rest

@[simp] lemma fits_singleton : Fits [f] ps ↔ ∃ p ∈ ps, f <:+: p := Iff.rfl

lemma not_fits_nil : ¬Fits fs ([] : List (List α)) := by
  match fs with
  | [] => exact id
  | [f] => simp
  | f :: g :: fs =>
    rintro ⟨p, rest, hsuffix, -⟩
    exact absurd (List.suffix_nil.1 hsuffix) (List.cons_ne_nil p rest)

lemma fits_cons :
    Fits (f :: g :: fs) (p :: ps) ↔ f <:+ p ∧ Begins (g :: fs) ps ∨ Fits (f :: g :: fs) ps := by
  constructor
  · rintro ⟨q, rest, hsuffix, hq⟩
    rcases List.suffix_cons_iff.1 hsuffix with heq | hsuffix
    · cases heq
      exact .inl hq
    · exact .inr ⟨q, rest, hsuffix, hq⟩
  · rintro (hp | ⟨q, rest, hsuffix, hq⟩)
    · exact ⟨p, ps, List.suffix_refl _, hp⟩
    · exact ⟨q, rest, hsuffix.trans (List.suffix_cons p ps), hq⟩

lemma prefix_intercalate_iff (hfs : ∀ f ∈ fs, sep ∉ f) (hne : fs ≠ []) (hps : ∀ p ∈ ps, sep ∉ p)
    (hne' : ps ≠ []) : [sep].intercalate fs <+: [sep].intercalate ps ↔ Begins fs ps := by
  induction fs generalizing ps with
  | nil => exact absurd rfl hne
  | cons f fs ih =>
    obtain ⟨hf, hrest⟩ := List.forall_mem_cons.1 hfs
    match fs, ps with
    | _, [] => exact absurd rfl hne'
    | [], [p] => simp [Begins]
    | [], p :: q :: ps =>
      rw [List.intercalate_singleton, List.intercalate_cons_cons, List.append_assoc,
        List.singleton_append, prefix_iff_of_not_mem hf]
      rfl
    | g :: fs, [p] =>
      have hsep : sep ∉ p := hps p List.mem_cons_self
      rw [List.intercalate_singleton, List.intercalate_cons_cons]
      refine ⟨fun h => absurd (h.subset (by simp)) hsep, fun h => ?_⟩
      cases fs with
      | nil => exact absurd h.2 id
      | cons => exact absurd h.2 id
    | g :: fs, p :: q :: ps =>
      obtain ⟨hp, hps⟩ := List.forall_mem_cons.1 hps
      have ih := ih hrest (List.cons_ne_nil g fs) hps (List.cons_ne_nil q ps)
      rw [List.intercalate_cons_cons, List.intercalate_cons_cons, List.append_assoc,
        List.append_assoc, List.singleton_append, List.singleton_append, prefix_sep_iff hf hp, ih]
      rfl

/-- **A text occurs where its stretches lie along the others.** -/
theorem infix_intercalate_iff (hfs : ∀ f ∈ fs, sep ∉ f) (hne : fs ≠ []) (hps : ∀ p ∈ ps, sep ∉ p)
    (hne' : ps ≠ []) : [sep].intercalate fs <:+: [sep].intercalate ps ↔ Fits fs ps := by
  induction ps with
  | nil => exact absurd rfl hne'
  | cons p ps ih =>
    obtain ⟨hp, hps⟩ := List.forall_mem_cons.1 hps
    match fs with
    | [] => exact absurd rfl hne
    | [f] =>
      have hf : sep ∉ f := hfs f List.mem_cons_self
      cases ps with
      | nil => simp
      | cons q ps =>
        have ih := ih hps (List.cons_ne_nil q ps)
        rw [List.intercalate_singleton] at ih ⊢
        rw [List.intercalate_cons_cons, List.append_assoc, List.singleton_append,
          infix_iff_of_not_mem hf, ih]
        exact (List.exists_mem_cons_iff _ _ _).symm
    | f :: g :: fs =>
      obtain ⟨hf, hrest⟩ := List.forall_mem_cons.1 hfs
      cases ps with
      | nil =>
        rw [List.intercalate_singleton, List.intercalate_cons_cons, fits_cons]
        refine ⟨fun h => absurd (h.subset (by simp)) hp, ?_⟩
        rintro (⟨-, h⟩ | h)
        · cases fs <;> exact absurd h id
        · exact absurd h not_fits_nil
      | cons q ps =>
        have ih := ih hps (List.cons_ne_nil q ps)
        have hbegins := prefix_intercalate_iff hrest (List.cons_ne_nil g fs) hps
          (List.cons_ne_nil q ps)
        rw [List.intercalate_cons_cons, List.append_assoc, List.singleton_append] at ih ⊢
        rw [List.intercalate_cons_cons, List.append_assoc, List.singleton_append,
          infix_sep_iff hf hp, ih, hbegins, ← fits_cons]

end Text

/-! ### Paths of segments -/

namespace Path

variable {ns : List String} {text : List Char}

lemma pieces_ofNames_segments (h : ∀ n ∈ ns, IsSegment n) (hne : ns ≠ []) :
    (ofNames ns).pieces = ns :=
  pieces_intercalate (fun n hn => (h n hn).2.2) hne

/-- With a slash in front, a path has nothing before its first piece. -/
lemma slash_eq_intercalate (p : Path) : '/' :: p.text.toList
    = ['/'].intercalate ([] :: p.pieces.map String.toList) := by
  have hcut : ('/' :: p.text.toList).splitOn '/' = [] :: p.pieces.map String.toList := by
    rw [splitOn_slash_cons]
    simp [pieces, Function.comp_def]
  rw [← hcut, List.intercalate_splitOn]

/-- What occurs in a path lies along its pieces. -/
lemma infix_slash_iff (p : Path) (text : List Char) : text <:+: '/' :: p.text.toList
    ↔ Text.Fits (text.splitOn '/') ([] :: p.pieces.map String.toList) := by
  have hparts : ∀ f ∈ text.splitOn '/', '/' ∉ f := fun f => not_mem_splitOn
  have hpieces : ∀ f ∈ [] :: p.pieces.map String.toList, '/' ∉ f := by
    rw [List.forall_mem_cons, List.forall_mem_map]
    exact ⟨List.not_mem_nil, fun n hn => not_mem_of_mem_pieces hn⟩
  rw [slash_eq_intercalate, ← Text.infix_intercalate_iff hparts (List.splitOn_ne_nil '/' text)
    hpieces (List.cons_ne_nil _ _), List.intercalate_splitOn]

end Path
end NotNullLint
