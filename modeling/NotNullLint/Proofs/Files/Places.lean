import Mathlib.Data.List.Infix
import NotNullLint.Proofs.Files.Spellings

/-!
Paths of places.

The path of a place spells the names on the way from the root. Its parent is the path of the place
above, so the paths above it are those of the places that lead to it. It is followed to the place if
something stands there, unless a name or the whole path is longer than the system takes.
-/

namespace NotNullLint

/-- A path is told by its pieces. -/
lemma Path.eq_of_pieces {p q : Path} (h : p.pieces = q.pieces) : p = q := by
  cases p
  cases q
  have htext := congrArg (String.intercalate "/") h
  rw [← text_eq, ← text_eq] at htext
  exact congrArg Path.mk htext

/-! ### The paths above -/

namespace Place

variable {q ss : Place} {n : String}

lemma path_of_ne_nil (hne : ss ≠ []) : ss.path = ⟨String.intercalate "/" ("" :: ss)⟩ := by
  rw [path, String.intercalate_cons_of_ne_nil hne, String.empty_append]

/-- Pieces of names spell the path of a place. -/
lemma spell_root_others (ss : Place) :
    Path.spell (("", some .root) :: Path.others ss) = ss.path := by
  by_cases hne : ss = []
  · subst hne
    rfl
  · rw [path_of_ne_nil hne]
    exact Path.spell_of_ne_root (s := "") (.inr hne)

lemma trimEnd_root_others (h : ∀ s ∈ ss, IsFileName s) :
    Path.trimEnd (("", some .root) :: Path.others ss) = ("", some .root) :: Path.others ss := by
  obtain rfl | ⟨front, s, rfl⟩ := List.eq_nil_or_concat ss
  · rfl
  · rw [List.concat_eq_append] at h ⊢
    have hs : Path.inner s = some (.name s) := Path.inner_of_isFileName (h s (by simp))
    rw [Path.others, List.map_append, ← List.cons_append]
    exact List.rdropWhile_concat_neg _ _ _ (by simp [hs])

/-- The parent of a path of a place is the path of the place above. -/
theorem parent?_path (h : ∀ s ∈ ss ++ [n], IsFileName s) :
    (Place.path (ss ++ [n])).parent? = some ss.path := by
  have hn : Path.inner n = some (.name n) := Path.inner_of_isFileName (h n (by simp))
  have hss : ∀ s ∈ ss, IsFileName s := fun s hs => h s (List.mem_append_left [n] hs)
  have hmarked : (Place.path (ss ++ [n])).marked
      = (("", some .root) :: Path.others ss) ++ [(n, some (.name n))] := by
    rw [Path.marked_of_pieces (Path.pieces_path h (by simp)) (by simp), Path.others,
      List.map_append, List.map_singleton, hn]
    rfl
  rw [Path.parent?_eq hmarked, trimEnd_root_others hss, spell_root_others]

lemma length_components_path (h : ∀ s ∈ q, IsFileName s) :
    q.path.components.length = q.length + 1 := by
  by_cases hne : q = []
  · subst hne
    rfl
  · rw [Path.components_of_pieces (Path.pieces_path h hne) hne, Path.filterMap_inner_of_names h]
    simp

lemma climb_path (h : ∀ s ∈ q, IsFileName s) {k : Nat} (hk : q.length ≤ k) :
    Path.climb k q.path = q.inits.reverse.map path := by
  induction q using List.reverseRecOn generalizing k with
  | nil => cases k <;> rfl
  | append_singleton ss n ih =>
    rw [List.length_append, List.length_singleton] at hk
    obtain ⟨k, rfl⟩ := Nat.exists_eq_add_of_le' (Nat.le_of_add_left_le hk)
    have hss : ∀ s ∈ ss, IsFileName s := fun s hs => h s (List.mem_append_left [n] hs)
    have hinits : (ss ++ [n]).inits = ss.inits ++ [ss ++ [n]] := by simp [List.inits_append]
    rw [Path.climb, parent?_path h, hinits, List.reverse_append, List.map_append]
    exact congrArg _ (ih hss (Nat.le_of_add_le_add_right hk))

/-- **The paths above** the path of a place are those of the places that lead to it, nearest
first. -/
theorem ancestors_path (h : ∀ s ∈ q, IsFileName s) :
    q.path.ancestors = q.inits.reverse.map path := by
  rw [Path.ancestors]
  exact climb_path h (by simp [length_components_path h])

lemma getLast?_path (h : ∀ s ∈ q, IsFileName s) (hne : q ≠ []) :
    q.path.text.toList.getLast? ≠ some '/' := by
  intro hslash
  obtain ⟨front, hfront⟩ := List.getLast?_eq_some_iff.1 hslash
  have hpieces : q.path.pieces = Path.pieces ⟨String.ofList front⟩ ++ [""] :=
    Path.pieces_of_toList (q := ⟨""⟩) (by simpa using hfront)
  rw [Path.pieces_path h hne] at hpieces
  have hlast : ("" :: q).getLast? = some "" := by rw [hpieces]; simp
  rw [List.getLast?_cons, List.getLast?_eq_some_getLast hne, Option.getD_some,
    Option.some.injEq] at hlast
  exact (h _ (List.getLast_mem hne)).1 hlast

/-- Joining a name leads to the place below. -/
theorem join_path (h : ∀ s ∈ q ++ [n], IsFileName s) : q.path.join ⟨n⟩ = Place.path (q ++ [n]) := by
  have hslash : '/' ∉ n.toList := (h n (by simp)).2.2.2
  have hq : ∀ s ∈ q, IsFileName s := fun s hs => h s (List.mem_append_left [n] hs)
  rw [Path.join, if_neg (by simp [Path.isAbsolute_piece hslash])]
  by_cases hne : q = []
  · subst hne
    rfl
  · have htext : q.path.text ≠ "" := by simp [path]
    rw [if_neg (not_or.2 ⟨htext, getLast?_path hq hne⟩)]
    refine Path.eq_of_pieces ?_
    have hjoined : Path.pieces ⟨q.path.text ++ "/" ++ n⟩ = q.path.pieces ++ Path.pieces ⟨n⟩ :=
      Path.pieces_of_toList (by simp)
    rw [hjoined, Path.pieces_path hq hne, Path.pieces_path h (by simp), Path.pieces_piece hslash,
      List.cons_append]

end Place

/-! ### Following the path of a place -/

/-- The system takes the path of the place: no name on the way has too many bytes, nor has the whole
path, and none has the character of code 0. -/
structure Place.WithinLimits (q : Place) : Prop where
  names : ∀ s ∈ q, s.utf8ByteSize ≤ Files.maxName ∧ '\x00' ∉ s.toList
  path : q.path.text.utf8ByteSize < Files.maxPath

namespace Files

variable {f : Files} {here q ss : Place} {s : String}

/-- What leads to something is a folder. -/
lemma node?_of_append (h : (f.node? (here ++ ss)).isSome = true) (hne : ss ≠ []) :
    f.node? here = some .folder := by
  induction ss using List.reverseRecOn with
  | nil => exact absurd rfl hne
  | append_singleton ss s ih =>
    obtain ⟨n, hn⟩ := Option.isSome_iff_exists.1 h
    have habove := node?_dropLast hn (by simp)
    rw [← List.append_assoc, List.dropLast_concat] at habove
    by_cases hss : ss = []
    · rwa [hss, List.append_nil] at habove
    · exact ih (by simp [habove]) hss

/-- Names that lead to something are followed if none of them is too long. -/
lemma foldlM_step_iff (hnames : ∀ s ∈ ss, IsFileName s)
    (h : (f.node? (here ++ ss)).isSome = true) :
    ss.foldlM f.step here = .ok (here ++ ss) ↔ ∀ s ∈ ss, s.utf8ByteSize ≤ maxName := by
  induction ss generalizing here with
  | nil => simp [pure, Except.pure]
  | cons s ss ih =>
    obtain ⟨hempty, hpoint, hpoints, -⟩ := hnames s List.mem_cons_self
    have hmore : here ++ s :: ss = here ++ [s] ++ ss := by simp
    have hfolder : f.node? here = some .folder := node?_of_append h (by simp)
    have hnext : (f.node? (here ++ [s])).isSome = true := by
      by_cases hss : ss = []
      · rwa [hss] at h
      · simp [node?_of_append (hmore ▸ h) hss]
    have hstep : f.step here s
        = if maxName < s.utf8ByteSize then .error .nameTooLong else .ok (here ++ [s]) := by
      simp [step, hfolder, hempty, hpoint, hpoints, hnext]
    rw [List.foldlM_cons, hstep, List.forall_mem_cons, ← not_lt]
    split
    · rename_i hlong
      refine iff_of_false (fun hok => ?_) fun hshort => hshort.1 hlong
      cases hok
    · rename_i hshort
      rw [hmore, and_iff_right hshort]
      exact ih (fun t ht => hnames t (List.mem_cons_of_mem s ht)) (hmore ▸ h)

lemma foldlM_pieces_path (hnames : ∀ s ∈ q, IsFileName s) :
    q.path.pieces.foldlM f.step [] = q.foldlM f.step [] := by
  have hroot : f.step [] "" = .ok [] := rfl
  by_cases hne : q = []
  · subst hne
    rfl
  · rw [Path.pieces_path hnames hne, List.foldlM_cons, hroot]
    rfl

lemma telling_pieces_path (hnames : ∀ s ∈ q, IsFileName s) : Path.telling q.path.pieces = q := by
  by_cases hne : q = []
  · subst hne
    rfl
  · have hself : Path.telling q = q := List.filter_eq_self.2 fun s hs => by
      simp [Path.inner_of_isFileName (hnames s hs)]
    rw [Path.pieces_path hnames hne]
    exact hself

/-- **Following the path of a place** where something stands leads there, within the limits of the
system. -/
theorem resolve_path_iff (hnames : ∀ s ∈ q, IsFileName s) (h : (f.node? q).isSome = true) :
    f.resolve here q.path = .ok q ↔ q.WithinLimits := by
  have habsolute : q.path.isAbsolute = true := by simp [Place.path, Path.isAbsolute]
  have htext : q.path.text ≠ "" := by simp [Place.path]
  have hnul : '\x00' ∈ q.path.text.toList ↔ ∃ s ∈ q, '\x00' ∈ s.toList := by
    rw [Path.mem_text_iff (by decide) (by decide), telling_pieces_path hnames]
  have hwalk : q.foldlM f.step [] = .ok ([] ++ q) ↔ ∀ s ∈ q, s.utf8ByteSize ≤ maxName :=
    foldlM_step_iff hnames h
  rw [resolve, if_neg htext, if_pos habsolute, foldlM_pieces_path hnames]
  constructor
  · intro hq
    split at hq
    · cases hq
    rename_i hclean
    split at hq
    · cases hq
    rename_i hshort
    exact ⟨fun s hs => ⟨hwalk.1 hq s hs, fun hin => hclean (hnul.2 ⟨s, hs, hin⟩)⟩,
      Nat.lt_of_not_le hshort⟩
  · intro hq
    have hclean : '\x00' ∉ q.path.text.toList := by
      intro hin
      obtain ⟨s, hs, hin⟩ := hnul.1 hin
      exact (hq.names s hs).2 hin
    rw [if_neg hclean, if_neg (Nat.not_le_of_lt hq.path)]
    exact hwalk.2 fun s hs => (hq.names s hs).1

end Files
end NotNullLint
