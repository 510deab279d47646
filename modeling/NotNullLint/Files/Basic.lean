import NotNullLint.Path

/-!
# Files

A tree of folders and files as a value: what stands at each place, listed in the order of the
tree, where a folder comes right before what it holds. Everything stands in a folder, and the root
is always there.
-/

namespace NotNullLint

/-- Where something stands: the names on the way from the root. -/
abbrev Place := List String

/-- The path of a place. -/
def Place.path (p : Place) : Path := ⟨"/" ++ String.intercalate "/" p⟩

/-- What stands at a place. -/
inductive Node where
  | folder
  | file (content : ByteArray)
  deriving Inhabited

/-- Files are the same if their bytes are. -/
instance : DecidableEq Node
  | .folder, .folder => isTrue rfl
  | .folder, .file _ => isFalse nofun
  | .file _, .folder => isFalse nofun
  | .file a, .file b =>
    if h : a.data = b.data then isTrue (congrArg Node.file (ByteArray.ext h))
    else isFalse fun e => h (congrArg ByteArray.data (Node.file.inj e))

/-- The text can name a file or a folder. -/
def IsFileName (s : String) : Prop := s ≠ "" ∧ s ≠ "." ∧ s ≠ ".." ∧ '/' ∉ s.toList

instance (s : String) : Decidable (IsFileName s) := inferInstanceAs (Decidable (_ ∧ _))

/-- Folders and files below the root. -/
structure Files where
  entries : List (Place × Node)
  sorted : entries.Pairwise fun a b => compare a.1 b.1 = .lt
  named : ∀ e ∈ entries, e.1 ≠ [] ∧ ∀ s ∈ e.1, IsFileName s
  closed : ∀ e ∈ entries, e.1.dropLast = [] ∨ (e.1.dropLast, Node.folder) ∈ entries

namespace Files

/-- No files. -/
def empty : Files where
  entries := []
  sorted := List.Pairwise.nil
  named := fun _ h => nomatch h
  closed := fun _ h => nomatch h

/-- What stands at a place. -/
def node? (f : Files) : Place → Option Node
  | [] => some .folder
  | p => f.entries.lookup p

/-- A folder stands at the place. -/
def HasFolder (f : Files) (p : Place) : Prop := p = [] ∨ (p, Node.folder) ∈ f.entries

instance (f : Files) (p : Place) : Decidable (f.HasFolder p) :=
  inferInstanceAs (Decidable (_ ∨ _))

/-- The places below a place, each folder before what it holds. -/
def below (f : Files) (p : Place) : List Place :=
  (f.entries.map (·.1)).filter fun q => p.isPrefixOf q && q != p

/-- The places right below a place, in the order of their names. -/
def children (f : Files) (p : Place) : List Place :=
  (f.entries.map (·.1)).filter fun q => q.dropLast == p && q != p

/-- Something may be put at the place: its folder is there, and no folder stands at it. -/
def Accepts (f : Files) (p : Place) : Prop :=
  p ≠ [] ∧ (∀ s ∈ p, IsFileName s) ∧ f.HasFolder p.dropLast ∧ ¬f.HasFolder p

instance (f : Files) (p : Place) : Decidable (f.Accepts p) :=
  inferInstanceAs (Decidable (_ ∧ _))

/-- Entries with another one in its place in the order. -/
def place (p : Place) (n : Node) (es : List (Place × Node)) : List (Place × Node) :=
  es.filter (fun e => compare e.1 p = .lt) ++ (p, n) :: es.filter (fun e => compare e.1 p = .gt)

theorem mem_place {p : Place} {n : Node} {es : List (Place × Node)} {e : Place × Node} :
    e ∈ place p n es ↔ e = (p, n) ∨ e ∈ es ∧ e.1 ≠ p := by
  have hne : compare e.1 p = .eq ↔ e.1 = p := Std.LawfulEqOrd.compare_eq_iff_eq
  simp only [place, List.mem_append, List.mem_cons, List.mem_filter, decide_eq_true_eq]
  constructor
  · rintro (⟨he, hc⟩ | rfl | ⟨he, hc⟩)
    · exact .inr ⟨he, fun h => by simp [hne.2 h] at hc⟩
    · exact .inl rfl
    · exact .inr ⟨he, fun h => by simp [hne.2 h] at hc⟩
  · rintro (rfl | ⟨he, hp⟩)
    · exact .inr (.inl rfl)
    · match hc : compare e.1 p with
      | .lt => exact .inl ⟨he, rfl⟩
      | .gt => exact .inr (.inr ⟨he, rfl⟩)
      | .eq => exact absurd (hne.1 hc) hp

theorem pairwise_place {p : Place} {n : Node} {es : List (Place × Node)}
    (h : es.Pairwise fun a b => compare a.1 b.1 = .lt) :
    (place p n es).Pairwise fun a b => compare a.1 b.1 = .lt := by
  have after {e : Place × Node}
      (he : e ∈ es.filter fun e => decide (compare e.1 p = .gt)) : compare p e.1 = .lt :=
    Std.OrientedCmp.gt_iff_lt.1 (by simpa using (List.mem_filter.1 he).2)
  refine List.pairwise_append.2 ⟨h.filter _, List.pairwise_cons.2 ⟨fun e he => after he,
    h.filter _⟩, fun a ha b hb => ?_⟩
  have hap : compare a.1 p = .lt := by simpa using (List.mem_filter.1 ha).2
  rcases List.mem_cons.1 hb with rfl | hb
  · exact hap
  · exact Std.TransCmp.lt_trans hap (after hb)

/-- The files with something put at a place. -/
def put (f : Files) (p : Place) (n : Node) (h : f.Accepts p) : Files where
  entries := place p n f.entries
  sorted := pairwise_place f.sorted
  named e he := by
    rcases mem_place.1 he with rfl | ⟨he, _⟩
    · exact ⟨h.1, h.2.1⟩
    · exact f.named e he
  closed e he := by
    have kept {q : Place} (hq : (q, Node.folder) ∈ f.entries) :
        (q, Node.folder) ∈ place p n f.entries :=
      mem_place.2 (.inr ⟨hq, fun hp => h.2.2.2 (.inr (hp ▸ hq))⟩)
    rcases mem_place.1 he with rfl | ⟨he, _⟩
    · exact h.2.2.1.imp_right kept
    · exact (f.closed e he).imp_right kept

/-- The files with something put at a place, if it may be put there. -/
def put? (f : Files) (p : Place) (n : Node) : Option Files :=
  if h : f.Accepts p then some (f.put p n h) else none

/-- The files with a folder at a place and at all places above it, as far as nothing else stands
there. -/
def makeFolder (f : Files) (p : Place) : Files :=
  (List.range p.length).foldl
    (fun f i =>
      let q := p.take (i + 1)
      if (f.node? q).isSome then f else (f.put? q .folder).getD f) f

end Files
end NotNullLint
