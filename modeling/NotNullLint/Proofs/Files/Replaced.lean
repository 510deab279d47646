import NotNullLint.Proofs.Files.Without

/-!
Trees that differ at one place.

A path that leads somewhere leads there in every tree that keeps what is on the way. So if two trees
differ in a file only, or in whether it is there, a path that leads elsewhere in one of them leads
to the same in the other.
-/

namespace NotNullLint
namespace Files

variable {f g : Files} {here p q r : Place} {n : Node}

/-! ### Trees that keep what is there -/

/-- The folders of the first tree are folders of the second, and what is there stays there. -/
structure Within (f g : Files) : Prop where
  folder : ∀ p, f.node? p = some .folder → g.node? p = some .folder
  there : ∀ p, (f.node? p).isSome = true → (g.node? p).isSome = true

lemma Within.step (h : f.Within g) {s : String} (hstep : f.step here s = .ok r) :
    g.step here s = .ok r := by
  obtain ⟨hfolder, hshort, hr, hthere⟩ := step_eq_ok_iff.1 hstep
  exact step_eq_ok_iff.2 ⟨h.folder _ hfolder, hshort, hr, h.there _ hthere⟩

lemma Within.foldlM_step (h : f.Within g) {ss : List String}
    (hwalk : ss.foldlM f.step here = .ok r) : ss.foldlM g.step here = .ok r := by
  induction ss generalizing here with
  | nil => exact hwalk
  | cons s ss ih =>
    rw [List.foldlM_cons] at hwalk ⊢
    obtain ⟨t, hstep, hrest⟩ := Except.bind_eq_ok_iff.1 hwalk
    rw [h.step hstep]
    exact ih hrest

/-- A path leads where it led before. -/
lemma Within.resolve (h : f.Within g) {p : Path} (hp : f.resolve here p = .ok r) :
    g.resolve here p = .ok r := by
  have hwalk := h.foldlM_step (foldlM_of_resolve hp)
  unfold Files.resolve at hp ⊢
  split at hp
  · cases hp
  rename_i hnul
  split at hp
  · cases hp
  rename_i hempty
  split at hp
  · cases hp
  rename_i hlong
  rw [if_neg hnul, if_neg hempty, if_neg hlong, hwalk]

lemma without_within {h : ¬f.HasFolder q} : (f.without q h).Within f where
  folder _ := folder_without.1
  there _ hthere := (isSome_node?_without.1 hthere).1

/-! ### Trees that are the same but for a file -/

/-- The trees are the same at all other places, and no folder stands at this one. -/
structure SameBut (q : Place) (f g : Files) : Prop where
  noFolder : ¬f.HasFolder q
  noFolder' : ¬g.HasFolder q
  others : ∀ p, p ≠ q → g.node? p = f.node? p

/-- A tree is told by what stands where. -/
lemma eq_of_node? (h : ∀ p, g.node? p = f.node? p) : f = g := by
  have hmem (e : Place × Node) : e ∈ f.entries ↔ e ∈ g.entries := by
    obtain ⟨p, n⟩ := e
    by_cases hp : p = []
    · exact iff_of_false (fun he => (f.named _ he).1 hp) fun he => (g.named _ he).1 hp
    · rw [← node?_eq_some_iff hp, ← node?_eq_some_iff hp, h]
  have hirrefl : Std.Irrefl fun a b : Place × Node => compare a.1 b.1 = .lt :=
    ⟨fun a hlt => by simp [Std.ReflCmp.compare_self] at hlt⟩
  have hantisymm : Std.Antisymm fun a b : Place × Node => compare a.1 b.1 = .lt :=
    ⟨fun a b hab hba => absurd (Std.TransCmp.lt_trans hab hba) (hirrefl.irrefl a)⟩
  have hentries : f.entries = g.entries := f.sorted.eq_of_mem_iff g.sorted hmem
  cases f
  cases g
  cases hentries
  rfl

namespace SameBut

variable (h : SameBut q f g)
include h

lemma without_eq : f.without q h.noFolder = g.without q h.noFolder' := by
  refine eq_of_node? fun p => ?_
  by_cases hp : p = q
  · rw [hp, node?_without_self, node?_without_self]
  · rw [node?_without_of_ne hp, node?_without_of_ne hp, h.others p hp]

/-- A path that leads elsewhere leads there in both trees. -/
lemma resolve_iff {p : Path} (hr : r ≠ q) :
    g.resolve here p = .ok r ↔ f.resolve here p = .ok r := by
  constructor
  · intro hp
    have hwithout := resolve_without (h := h.noFolder') hr hp
    rw [← h.without_eq] at hwithout
    exact without_within.resolve hwithout
  · intro hp
    have hwithout := resolve_without (h := h.noFolder) hr hp
    rw [h.without_eq] at hwithout
    exact without_within.resolve hwithout

lemma find?_eq {p : Path} (hp : p.destination here ≠ q) : g.find? here p = f.find? here p := by
  unfold find?
  cases hf : f.resolve here p with
  | ok r =>
    have hr : r ≠ q := fun hr => hp (hr ▸ (resolve_ok hf).symm)
    rw [(h.resolve_iff hr).2 hf]
    exact h.others r hr
  | error e =>
    cases hg : g.resolve here p with
    | ok r =>
      have hr : r ≠ q := fun hr => hp (hr ▸ (resolve_ok hg).symm)
      rw [(h.resolve_iff hr).1 hg] at hf
      cases hf
    | error e' => rfl

lemma leadsToFile_eq {p : Path} (hp : p.destination here ≠ q) :
    g.leadsToFile here p = f.leadsToFile here p := by
  rw [leadsToFile, leadsToFile, h.find?_eq hp]

/-- Another file has the same text in both trees, or can be read in neither. -/
lemma toOption_read {p : Path} (hp : p.destination here ≠ q) :
    (g.read here p).toOption = (f.read here p).toOption := by
  have hread (f : Files) : (f.read here p).toOption
      = (f.find? here p).bind fun n => match n with
        | .file content => (decode content).toOption
        | .folder => none := by
    unfold read find?
    cases f.resolve here p with
    | error e => rfl
    | ok r =>
      cases hnode : f.node? r with
      | none => simp [bind, Except.bind, hnode]
      | some n => cases n <;> simp [bind, Except.bind, hnode]
  rw [hread, hread, h.find?_eq hp]

end SameBut

/-! ### Something put somewhere -/

variable {h : f.Accepts q}

lemma node?_put_self : (f.put q n h).node? q = some n :=
  (node?_eq_some_iff h.1).2 (mem_place.2 (.inl rfl))

lemma node?_put_of_ne (hp : p ≠ q) : (f.put q n h).node? p = f.node? p := by
  by_cases hroot : p = []
  · subst hroot
    rfl
  · ext m
    rw [node?_eq_some_iff hroot, node?_eq_some_iff hroot]
    exact mem_place.trans (by simp [hp])

lemma sameBut_put {content : ByteArray} : SameBut q f (f.put q (.file content) h) where
  noFolder := h.2.2.2
  noFolder' := not_hasFolder node?_put_self
  others _ := node?_put_of_ne

lemma within_put : f.Within (f.put q n h) where
  folder p hp := by
    have hpq : p ≠ q := fun hpq => h.2.2.2 (hasFolder_iff.2 (hpq ▸ hp))
    rwa [node?_put_of_ne hpq]
  there p hp := by
    by_cases hpq : p = q
    · rw [hpq, node?_put_self]
      rfl
    · rwa [node?_put_of_ne hpq]

end Files
end NotNullLint
