import Mathlib.Data.List.DropRight
import NotNullLint.Proofs.Files.Destination

/-!
The folder of a file.

A path without its last component leads to the folder that the file stands in. This takes a file:
`a/..` without its last component leads somewhere else, but no path to a file ends like that.
-/

namespace NotNullLint

/-! ### Paths to files end in a name -/

namespace Files

variable {f : Files} {here q : Place}

lemma lookup_of_mem {p : Place} {n : Node} (h : (p, n) ∈ f.entries) :
    f.entries.lookup p = some n := by
  obtain ⟨before, after, hsplit⟩ := List.append_of_mem h
  refine List.lookup_eq_some_iff.2 ⟨before, after, hsplit, fun e he => ?_⟩
  have hlt : compare e.1 p = .lt :=
    (List.pairwise_append.1 (hsplit ▸ f.sorted)).2.2 e he (p, n) List.mem_cons_self
  rw [bne_iff_ne]
  rintro rfl
  have hself : compare e.1 e.1 = .eq := Std.ReflCmp.compare_self
  rw [hself] at hlt
  cases hlt

lemma mem_of_node? {n : Node} (hq : q ≠ []) (h : f.node? q = some n) : (q, n) ∈ f.entries := by
  obtain ⟨s, ss, rfl⟩ := List.exists_cons_of_ne_nil hq
  obtain ⟨before, after, hsplit, -⟩ := List.lookup_eq_some_iff.1 h
  simp [hsplit]

lemma node?_dropLast {n : Node} (h : f.node? q = some n) (hq : q ≠ []) :
    f.node? q.dropLast = some .folder := by
  obtain hroot | habove := f.closed _ (mem_of_node? hq h)
  · rw [show q.dropLast = [] from hroot]
    rfl
  · cases hd : q.dropLast with
    | nil => rfl
    | cons s ss =>
      change f.entries.lookup (s :: ss) = _
      rw [← hd]
      exact lookup_of_mem habove

lemma node?_of_step {s : String} (h : f.step here s = .ok q) : f.node? here = some .folder := by
  unfold step at h
  split at h
  · cases h
  · rename_i hfolder
    exact not_not.1 hfolder

/-- The last step to a file takes a name. -/
lemma isName_of_step {s : String} {content : ByteArray} (h : f.step here s = .ok q)
    (hq : f.node? q = some (.file content)) : s ≠ "" ∧ s ≠ "." ∧ s ≠ ".." := by
  have hfolder := node?_of_step h
  have hwalk := step_ok h
  refine ⟨?_, ?_, ?_⟩
  · rintro rfl
    rw [show here.walk "" = here from rfl] at hwalk
    rw [hwalk, hfolder] at hq
    cases hq
  · rintro rfl
    rw [show here.walk "." = here from rfl] at hwalk
    rw [hwalk, hfolder] at hq
    cases hq
  · rintro rfl
    rw [show here.walk ".." = here.dropLast from rfl] at hwalk
    by_cases hroot : here = []
    · rw [hwalk, hroot] at hq
      cases hq
    · rw [hwalk, node?_dropLast hfolder hroot] at hq
      cases hq

lemma read_ok {p : Path} {text : String} (h : f.read here p = .ok text) :
    ∃ q content, f.resolve here p = .ok q ∧ f.node? q = some (.file content) := by
  unfold read at h
  obtain ⟨q, hq, htext⟩ := Except.bind_eq_ok_iff.1 h
  split at htext
  · rename_i content hn
    exact ⟨q, content, hq, hn⟩
  · cases htext
  · cases htext

lemma decode_toUTF8 (text : String) : decode text.toUTF8 = .ok text := by
  rw [decode, String.fromUTF8?, String.toUTF8_eq_toByteArray, dif_pos text.isValidUTF8]
  rfl

/-- Text in a file is read as it stands. -/
lemma read_text {p : Path} {q : Place} {text : String} (hplace : f.resolve here p = .ok q)
    (hfile : f.node? q = some (.file text.toUTF8)) : f.read here p = .ok text := by
  simp only [read, hplace, bind, Except.bind, hfile, decode_toUTF8]

end Files

/-! ### Spelling pieces -/

namespace Path

lemma not_mem_splitOn {α : Type} [DecidableEq α] {a : α} {as piece : List α}
    (h : piece ∈ as.splitOn a) : a ∉ piece := by
  induction as generalizing piece with
  | nil =>
    rw [List.splitOn_nil, List.mem_singleton] at h
    simp [h]
  | cons b as ih =>
    rw [List.splitOn_cons_eq_if_modifyHead] at h
    split at h
    · obtain rfl | h := List.mem_cons.1 h
      · simp
      · exact ih h
    · rename_i hb
      obtain ⟨first, others, hsplit⟩ := List.exists_cons_of_ne_nil (List.splitOn_ne_nil a as)
      rw [hsplit, List.modifyHead_cons] at h
      rw [hsplit] at ih
      obtain rfl | h := List.mem_cons.1 h
      · have hne : a ≠ b := fun he => hb (by simp [he])
        simpa [hne] using ih List.mem_cons_self
      · exact ih (List.mem_cons_of_mem first h)

/-- No piece of a path has a slash. -/
lemma not_mem_of_mem_pieces {p : Path} {s : String} (h : s ∈ p.pieces) : '/' ∉ s.toList := by
  obtain ⟨piece, hpiece, rfl⟩ := List.mem_map.1 h
  rw [String.toList_ofList]
  exact not_mem_splitOn hpiece

lemma pieces_ne_nil (p : Path) : p.pieces ≠ [] := by
  simp [pieces, List.splitOn_ne_nil]

/-- A path is its pieces with slashes between them. -/
lemma text_eq (p : Path) : p.text = String.intercalate "/" p.pieces := by
  apply String.toList_injective
  simp [pieces, Function.comp_def]

/-- Only an empty first piece before a slash makes a path absolute. -/
lemma isAbsolute_eq {p : Path} {s : String} {ss : List String} (h : p.pieces = s :: ss) :
    p.isAbsolute = decide (s = "" ∧ ss ≠ []) := by
  have hs : '/' ∉ s.toList := not_mem_of_mem_pieces (h ▸ List.mem_cons_self)
  have htext : p.text.toList.head? = (s.toList ++ if ss = [] then [] else ['/']).head? := by
    rw [text_eq, h]
    by_cases hss : ss = []
    · simp [hss]
    · rw [String.intercalate_cons_of_ne_nil hss]
      cases hl : s.toList <;> simp [hl, hss]
  have hempty : s = "" ↔ s.toList = [] := String.toList_eq_nil_iff.symm
  rw [isAbsolute, htext]
  cases hl : s.toList with
  | nil => by_cases hss : ss = [] <;> simp [hempty, hl, hss]
  | cons c cs =>
    have hc : c ≠ '/' := by
      rintro rfl
      exact hs (hl ▸ List.mem_cons_self)
    simp [hempty, hl, hc]

lemma destination_eq {p : Path} {s : String} {ss : List String} (h : p.pieces = s :: ss)
    (here : Place) : p.destination here
      = (s :: ss).foldl Place.walk (if s = "" ∧ ss ≠ [] then [] else here) := by
  rw [destination, isAbsolute_eq h, h]
  by_cases hroot : s = "" ∧ ss ≠ [] <;> simp [hroot]

/-- Pieces that follow the first of a path. -/
def others (ss : List String) : List Piece := ss.map fun s => (s, inner s)

lemma marked_eq {p : Path} {s : String} {ss : List String} (h : p.pieces = s :: ss) :
    p.marked = (s, leading ss.isEmpty s) :: others ss := by
  rw [marked, h]
  rfl

lemma inner_eq_none_iff {s : String} : inner s = none ↔ s = "" ∨ s = "." := by
  unfold inner
  split
  · rename_i hskip
    exact iff_of_true rfl hskip
  · rename_i hkeep
    split <;> exact iff_of_false nofun hkeep

lemma walk_of_inner_none {s : String} (h : inner s = none) (here : Place) :
    here.walk s = here := by
  rw [Place.walk, if_pos (inner_eq_none_iff.1 h)]

lemma leading_isNone (s : String) : (leading false s).isNone = false := by
  unfold leading inner
  split
  · rfl
  · split
    · rfl
    · split
      · simp_all
      · split <;> rfl

lemma leading_ne_root {s : String} (h : s ≠ "") : leading false s ≠ some .root := by
  unfold leading inner
  split
  · simp
  · split
    · simp_all
    · split
      · simp
      · split <;> simp

lemma spell_of_ne_root {s : String} {ss : List String} (h : s ≠ "" ∨ ss ≠ []) :
    spell ((s, leading false s) :: others ss) = ⟨String.intercalate "/" (s :: ss)⟩ := by
  have htexts : ((s, leading false s) :: others ss).map (·.1) = s :: ss := by
    simp [others, Function.comp_def]
  unfold spell
  split
  · rename_i hroot
    obtain ⟨he, hss⟩ := List.cons.inj hroot
    have hempty : ss = [] := by simpa [others] using hss
    have hs : s ≠ "" := h.resolve_right (not_not.2 hempty)
    exact absurd (Prod.mk.inj he).2 (leading_ne_root hs)
  · rw [htexts]

lemma destination_spell {s : String} {ss : List String} (h : ∀ t ∈ s :: ss, '/' ∉ t.toList)
    (here : Place) : (spell ((s, leading false s) :: others ss)).destination here
      = (s :: ss).foldl Place.walk (if s = "" then [] else here) := by
  by_cases hroot : s = "" ∧ ss = []
  · obtain ⟨rfl, rfl⟩ := hroot
    rfl
  · have hne : s ≠ "" ∨ ss ≠ [] := by
      rw [← not_and_or]
      exact hroot
    rw [spell_of_ne_root hne, destination_eq (pieces_intercalate h (List.cons_ne_nil s ss))]
    by_cases hs : s = ""
    · have hss : ss ≠ [] := hne.resolve_left (not_not.2 hs)
      simp [hs, hss]
    · simp [hs]

/-- Pieces at the end that contribute nothing lead no further. -/
lemma destination_spell_trimEnd {s : String} {ss : List String}
    (h : ∀ t ∈ s :: ss, '/' ∉ t.toList) (here : Place) :
    (spell (trimEnd ((s, leading false s) :: others ss))).destination here
      = (s :: ss).foldl Place.walk (if s = "" then [] else here) := by
  induction ss using List.reverseRecOn with
  | nil =>
    have hhead : trimEnd ((s, leading false s) :: others []) = (s, leading false s) :: others [] :=
      List.rdropWhile_concat_neg _ [] _ (by
        simp only [leading_isNone, Bool.false_eq_true, not_false_eq_true])
    rw [hhead]
    exact destination_spell h here
  | append_singleton ss t ih =>
    have hsnoc : (s, leading false s) :: others (ss ++ [t])
        = ((s, leading false s) :: others ss) ++ [(t, inner t)] := by simp [others]
    cases ht : inner t with
    | none =>
      have htrim : trimEnd ((s, leading false s) :: others (ss ++ [t]))
          = trimEnd ((s, leading false s) :: others ss) := by
        rw [hsnoc]
        exact List.rdropWhile_concat_pos _ _ _ (by simp [ht])
      have hfold (start : Place) : (s :: (ss ++ [t])).foldl Place.walk start
          = (s :: ss).foldl Place.walk start := by
        rw [← List.cons_append, List.foldl_append]
        exact walk_of_inner_none ht _
      rw [htrim, hfold]
      exact ih fun u hu => h u (List.mem_cons.2 ((List.mem_cons.1 hu).imp_right
        (List.mem_append_left [t])))
    | some c =>
      have htrim : trimEnd ((s, leading false s) :: others (ss ++ [t]))
          = (s, leading false s) :: others (ss ++ [t]) := by
        rw [hsnoc]
        exact List.rdropWhile_concat_neg _ _ _ (by simp [ht])
      rw [htrim]
      exact destination_spell h here

/-! ### The folder of a file -/

/-- The folder that a path without its last component leads to. -/
def folder (p : Path) : Path := p.parent?.getD ⟨""⟩

lemma inner_of_isName {s : String} (h : s ≠ "" ∧ s ≠ "." ∧ s ≠ "..") :
    inner s = some (.name s) := by
  simp [inner, h]

lemma parent?_eq {p : Path} {ps : List Piece} {s : String}
    (hmarked : p.marked = ps ++ [(s, some (.name s))]) : p.parent? = some (spell (trimEnd ps)) := by
  have htrim : trimEnd p.marked = ps ++ [(s, some (.name s))] := by
    rw [hmarked]
    exact List.rdropWhile_concat_neg _ _ _ (by simp)
  simp [parent?, htrim]

/-- **The folder of a file.** A path that leads to a file leads to the folder of the file once its
last component is taken away. -/
theorem destination_folder {f : Files} {here : Place} {p : Path} {text : String}
    (h : f.read here p = .ok text) :
    p.folder.destination here = (p.destination here).dropLast := by
  obtain ⟨q, content, hresolve, hfile⟩ := Files.read_ok h
  obtain ⟨ss, s, hpieces⟩ : ∃ ss s, p.pieces = ss ++ [s] :=
    ⟨_, _, (List.dropLast_append_getLast p.pieces_ne_nil).symm⟩
  have hslash : ∀ t ∈ ss ++ [s], '/' ∉ t.toList := fun t ht =>
    not_mem_of_mem_pieces (hpieces ▸ ht)
  have hname : s ≠ "" ∧ s ≠ "." ∧ s ≠ ".." := by
    have hwalk := Files.foldlM_of_resolve hresolve
    rw [hpieces, List.foldlM_append] at hwalk
    obtain ⟨r, -, hlast⟩ := Except.bind_eq_ok_iff.1 hwalk
    rw [List.foldlM_cons] at hlast
    obtain ⟨u, hstep, hu⟩ := Except.bind_eq_ok_iff.1 hlast
    cases Except.ok.inj hu
    exact Files.isName_of_step hstep hfile
  have hlast (here : Place) : here.walk s = here ++ [s] := by simp [Place.walk, hname]
  cases ss with
  | nil =>
    -- a name alone: its folder is where the path starts
    have hmarked : p.marked = [] ++ [(s, some (.name s))] := by
      simp [marked, hpieces, leading, hname, inner_of_isName hname]
    rw [folder, parent?_eq hmarked, destination_eq hpieces]
    simp only [List.foldl_cons, List.foldl_nil, hlast, ne_eq, not_true_eq_false, and_false,
      if_false, List.dropLast_concat]
    exact destination_empty here
  | cons t ss =>
    -- what stands before the name is spelled again, up to the last piece that contributes
    have hmarked : p.marked = ((t, leading false t) :: others ss) ++ [(s, some (.name s))] := by
      have hmore : (ss ++ [s]).isEmpty = false := by simp
      simp only [marked, hpieces, List.cons_append, hmore, others, List.map_append, List.map_cons,
        List.map_nil, inner_of_isName hname]
    have hsteps : p.destination here
        = ((t :: ss) ++ [s]).foldl Place.walk (if t = "" then [] else here) := by
      rw [List.cons_append] at hpieces
      rw [destination_eq hpieces]
      simp
    rw [folder, parent?_eq hmarked, Option.getD_some, hsteps, List.foldl_append,
      destination_spell_trimEnd fun u hu => hslash u (List.mem_append_left _ hu)]
    simp only [List.foldl_cons, List.foldl_nil, hlast, List.dropLast_concat]

end Path
end NotNullLint
