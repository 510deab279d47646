import NotNullLint.Files.Lookup
import NotNullLint.Proofs.Except

/-!
Where a path leads from a folder, if it leads anywhere.

Since there are no links, this is found without looking: names are appended, `..` takes the last
name away, and an absolute path starts over. A joined path leads where its second part leads from
where its first part leads.
-/

namespace NotNullLint

/-- One step of a path, whatever stands there. -/
def Place.walk (here : Place) (s : String) : Place :=
  if s = "" ∨ s = "." then here else if s = ".." then here.dropLast else here ++ [s]

/-- The place that a path leads to from a folder, if it leads anywhere. -/
def Path.destination (here : Place) (p : Path) : Place :=
  p.pieces.foldl Place.walk (if p.isAbsolute then [] else here)

/-! ### What is found is at the destination -/

namespace Files

variable {f : Files} {here q : Place}

lemma step_ok {s : String} (h : f.step here s = .ok q) : q = here.walk s := by
  unfold step at h
  unfold Place.walk
  split at h
  · cases h
  split at h
  · rename_i hstay
    rw [if_pos hstay, Except.ok.inj h]
  rename_i hgo
  rw [if_neg hgo]
  split at h
  · rename_i hup
    rw [if_pos hup, Except.ok.inj h]
  rename_i hdown
  rw [if_neg hdown]
  split at h
  · cases h
  split at h
  · exact (Except.ok.inj h).symm
  · cases h

lemma foldlM_step_ok {ss : List String} (h : ss.foldlM f.step here = .ok q) :
    q = ss.foldl Place.walk here := by
  induction ss generalizing here with
  | nil => exact (Except.ok.inj h).symm
  | cons s ss ih =>
    rw [List.foldlM_cons] at h
    obtain ⟨r, hstep, hrest⟩ := Except.bind_eq_ok_iff.1 h
    rw [List.foldl_cons, ← step_ok hstep]
    exact ih hrest

lemma foldlM_of_resolve {p : Path} (h : f.resolve here p = .ok q) :
    p.pieces.foldlM f.step (if p.isAbsolute then [] else here) = .ok q := by
  unfold resolve at h
  split at h
  · cases h
  split at h
  · cases h
  split at h
  · cases h
  exact h

/-- A path that leads somewhere leads to its destination. -/
theorem resolve_ok {p : Path} (h : f.resolve here p = .ok q) : q = p.destination here :=
  foldlM_step_ok (foldlM_of_resolve h)

end Files

/-! ### Joined paths -/

namespace Path

lemma pieces_of_toList {p q r : Path} (h : r.text.toList = p.text.toList ++ '/' :: q.text.toList) :
    r.pieces = p.pieces ++ q.pieces := by
  simp only [pieces, h, List.splitOn_append_cons_self, List.map_append]

lemma isAbsolute_of_toList {p q : Path} {s : List Char} (hp : p.text ≠ "")
    (h : q.text.toList = p.text.toList ++ s) : q.isAbsolute = p.isAbsolute := by
  have hne : p.text.toList ≠ [] := fun he => hp (String.toList_eq_nil_iff.1 he)
  obtain ⟨c, cs, hcs⟩ := List.exists_cons_of_ne_nil hne
  simp only [isAbsolute, h, hcs, List.cons_append, List.head?_cons]

lemma destination_of_isAbsolute {p : Path} (h : p.isAbsolute = true) (here there : Place) :
    p.destination here = p.destination there := by
  simp only [destination, h, if_true]

lemma destination_empty (here : Place) : destination here ⟨""⟩ = here := by
  have hpieces : pieces ⟨""⟩ = [""] := rfl
  have habsolute : isAbsolute ⟨""⟩ = false := rfl
  simp [destination, hpieces, habsolute, Place.walk]

/-- **Joining is walking on.** -/
theorem destination_join (here : Place) (p q : Path) :
    (p.join q).destination here = q.destination (p.destination here) := by
  unfold join
  split
  · rename_i hq
    exact destination_of_isAbsolute hq _ _
  rename_i hq
  rw [Bool.not_eq_true] at hq
  have hrelative : q.destination (p.destination here)
      = q.pieces.foldl Place.walk (p.destination here) := by
    simp only [destination, hq, Bool.false_eq_true, if_false]
  by_cases hempty : p.text = ""
  · have hp : p = ⟨""⟩ := congrArg Path.mk hempty
    simp [hp, destination_empty]
  split
  · -- the slash is there already, with nothing after it
    rename_i hslash
    obtain ⟨s, hs⟩ := List.getLast?_eq_some_iff.1 (hslash.resolve_left hempty)
    have habsolute : isAbsolute ⟨p.text ++ q.text⟩ = p.isAbsolute :=
      isAbsolute_of_toList hempty (String.toList_append ..)
    have hpieces : p.pieces = pieces ⟨String.ofList s⟩ ++ [""] :=
      pieces_of_toList (q := ⟨""⟩) (by simpa using hs)
    have hjoined : pieces ⟨p.text ++ q.text⟩ = pieces ⟨String.ofList s⟩ ++ q.pieces :=
      pieces_of_toList (by simp [hs])
    rw [hrelative, destination, destination, habsolute, hpieces, hjoined, List.foldl_append,
      List.foldl_append]
    simp [Place.walk]
  · have habsolute : isAbsolute ⟨p.text ++ "/" ++ q.text⟩ = p.isAbsolute :=
      isAbsolute_of_toList (s := '/' :: q.text.toList) hempty (by simp)
    have hjoined : pieces ⟨p.text ++ "/" ++ q.text⟩ = p.pieces ++ q.pieces :=
      pieces_of_toList (by simp)
    rw [hrelative, destination, destination, habsolute, hjoined, List.foldl_append]

/-! ### Places -/

lemma pieces_intercalate {ss : List String} (h : ∀ s ∈ ss, '/' ∉ s.toList) (hne : ss ≠ []) :
    pieces ⟨String.intercalate "/" ss⟩ = ss := by
  have hslash : ∀ l ∈ ss.map String.toList, '/' ∉ l := by
    intro l hl
    obtain ⟨s, hs, rfl⟩ := List.mem_map.1 hl
    exact h s hs
  have hchar : "/".toList = ['/'] := rfl
  simp only [pieces, String.toList_intercalate, hchar, List.splitOn_intercalate '/' hslash
    (by simpa using hne)]
  simp [Function.comp_def]

lemma pieces_path {here : Place} (h : ∀ s ∈ here, IsFileName s) (hne : here ≠ []) :
    here.path.pieces = "" :: here := by
  have htext : here.path = ⟨String.intercalate "/" ("" :: here)⟩ := by
    rw [Place.path, String.intercalate_cons_of_ne_nil hne, String.empty_append]
  rw [htext]
  refine pieces_intercalate (fun s hs => ?_) (List.cons_ne_nil "" here)
  obtain rfl | hs := List.mem_cons.1 hs
  · simp
  · exact (h s hs).2.2.2

lemma foldl_walk {ss : List String} (h : ∀ s ∈ ss, IsFileName s) (here : Place) :
    ss.foldl Place.walk here = here ++ ss := by
  induction ss generalizing here with
  | nil => simp
  | cons s ss ih =>
    obtain ⟨hempty, hdot, hdots, -⟩ := h s List.mem_cons_self
    have hstep : here.walk s = here ++ [s] := by simp [Place.walk, hempty, hdot, hdots]
    rw [List.foldl_cons, hstep, ih fun t ht => h t (List.mem_cons_of_mem s ht)]
    simp

/-- The path of a place leads there from everywhere. -/
theorem destination_path {here : Place} (h : ∀ s ∈ here, IsFileName s) (there : Place) :
    here.path.destination there = here := by
  have habsolute : here.path.isAbsolute = true := by simp [Place.path, isAbsolute]
  by_cases hne : here = []
  · subst hne
    rfl
  · rw [destination, habsolute, if_pos rfl, pieces_path h hne, List.foldl_cons, foldl_walk h]
    rfl

end Path

/-- The names on the way to a folder are names of files. -/
lemma Files.HasFolder.names {f : Files} {here : Place} (h : f.HasFolder here) :
    ∀ s ∈ here, IsFileName s := by
  obtain rfl | h := h
  · simp
  · exact (f.named _ h).2

end NotNullLint
