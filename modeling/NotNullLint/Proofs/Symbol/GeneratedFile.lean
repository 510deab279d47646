import NotNullLint.Proofs.Files.LastSegment
import NotNullLint.Proofs.NotNull.Findings

/-!
Methods in generated files.

Where neither the host nor an attribute says that a tool wrote a method, its file decides, and of the
file only the segment that its path ends in. How the path is spelled does not count, and neither does
the directory part.
-/

namespace NotNullLint

/-- The text ends as the ending does, up to the case of ASCII letters. -/
def Text.EndsLike (text ending : String) : Prop :=
  ∃ front back : String, text = front ++ back ∧ sameLetters back ending = true

lemma Text.endsLike_iff {text ending : String} :
    EndsLike text ending ↔ lowered ending.toList <:+ lowered text.toList := by
  constructor
  · rintro ⟨front, back, rfl, hsame⟩
    rw [sameLetters, beq_iff_eq] at hsame
    rw [← hsame, String.toList_append]
    exact (List.suffix_append front.toList back.toList).map Char.toLower
  · rintro ⟨low, hlow⟩
    obtain ⟨front, back, htext, -, hback⟩ := List.map_eq_append_iff.1 hlow.symm
    refine ⟨String.ofList front, String.ofList back, String.toList_injective (by simp [htext]), ?_⟩
    rw [sameLetters, beq_iff_eq, String.toList_ofList]
    exact hback

/-- The method stands at the place, and nothing else can tell that a tool wrote it: the host does not
say so, and no attribute does. -/
structure Method.OnlyPlaced (m : Method) (l : Location) : Prop where
  location : m.location = some l
  unflagged : m.generated = false
  unmarked : ¬Attribute.TellGenerated m.attributes

namespace Path

variable {p q : Path}

lemma marksGenerated_iff_endsIn : p.marksGenerated = true ↔ ∃ name, p.EndsIn name ∧ name ≠ ".."
    ∧ ∃ ending ∈ generatedEndings, Text.EndsLike name ending := by
  have hsmall : ∀ ending ∈ generatedEndings, Text.lowered ending.toList = ending.toList := by decide
  have hlike (name : String) : (∃ ending ∈ generatedEndings, Text.EndsLike name ending)
      ↔ ∃ ending ∈ generatedEndings, ending.toList <:+ Text.lowered name.toList := by
    refine exists_congr fun ending => and_congr_right fun hending => ?_
    rw [Text.endsLike_iff, hsmall ending hending]
  simp only [marksGenerated_iff, TellsGenerated, Option.mem_def, fileName?_eq_some_iff, hlike,
    and_assoc]
  rfl

/-- Only the last segment counts. -/
example : marksGenerated ⟨"Bindings.g.cs/.."⟩ = false := by decide +kernel

/-- The last component decides. -/
lemma marksGenerated_congr (h : p.components.getLast? = q.components.getLast?) :
    p.marksGenerated = q.marksGenerated := by
  rw [marksGenerated, marksGenerated, fileName?, fileName?, h]

end Path

namespace Method

lemma OnlyPlaced.isGenerated_eq {m : Method} {l : Location} (h : m.OnlyPlaced l) :
    m.isGenerated = l.file.marksGenerated := by
  have hattributes : Attribute.markGenerated m.attributes = false :=
    Bool.eq_false_iff.2 (mt Attribute.markGenerated_iff.1 h.unmarked)
  rw [isGenerated, h.unflagged, hattributes, h.location]
  rfl

/-- **The file decides by the name that its path ends in**, in letters of any case. A path ends in one
segment at most, which is a name unless it is `..`; there is none where the path is empty, the root or
a point. Files that are equal as paths decide alike, and so do files in any directories whose paths
end in one segment. -/
theorem isGenerated_iff_endsIn {m : Method} {l : Location} (h : m.OnlyPlaced l) :
    (m.isGenerated = true ↔ ∃ name, l.file.EndsIn name ∧ name ≠ ".."
        ∧ ∃ ending ∈ [".g.cs", ".g.i.cs", ".designer.cs", ".generated.cs"],
          Text.EndsLike name ending)
      ∧ (∀ s t, l.file.EndsIn s → l.file.EndsIn t → s = t)
      ∧ ((¬∃ name, l.file.EndsIn name ∧ name ≠ "..")
        ↔ l.file.HasNoSegment ∨ l.file.EndsIn "..")
      ∧ (∀ m' l', OnlyPlaced m' l' → l.file.same l'.file = true → m'.isGenerated = m.isGenerated)
      ∧ ∀ m' l' s, OnlyPlaced m' l' → l.file.EndsIn s → l'.file.EndsIn s →
        m'.isGenerated = m.isGenerated := by
  refine ⟨?_, fun s t hs ht => hs.eq ht, ?_, fun m' l' h' hsame => ?_, fun m' l' s h' hs hs' => ?_⟩
  · rw [h.isGenerated_eq]
    exact Path.marksGenerated_iff_endsIn
  · rw [← Path.fileName?_eq_none_iff, Option.eq_none_iff_forall_ne_some, not_exists]
    simp only [Ne, Path.fileName?_eq_some_iff]
  · have hcomponents := Path.same_iff.1 hsame
    rw [h.isGenerated_eq, h'.isGenerated_eq,
      Path.marksGenerated_congr (congrArg List.getLast? hcomponents)]
  · have hlast := hs.getLast?_components.trans hs'.getLast?_components.symm
    rw [h.isGenerated_eq, h'.isGenerated_eq, Path.marksGenerated_congr hlast]

/-- A method of which just the file is known. -/
def methodIn (file : String) : Method := { name := "Open", location := some ⟨⟨file⟩, 3, 1, 0, 0⟩ }

lemma onlyPlaced_methodIn (file : String) : (methodIn file).OnlyPlaced ⟨⟨file⟩, 3, 1, 0, 0⟩ :=
  ⟨rfl, rfl, fun ⟨_, ha, _⟩ => nomatch ha⟩

/-- One generated file in two spellings, and a file of its name in another directory. -/
theorem isGenerated_iff_endsIn_bindings :
    (methodIn "obj/./Bindings.G.cs//.").OnlyPlaced ⟨⟨"obj/./Bindings.G.cs//."⟩, 3, 1, 0, 0⟩
      ∧ (methodIn "obj/./Bindings.G.cs//.").isGenerated = true
      ∧ Path.same ⟨"obj/./Bindings.G.cs//."⟩ ⟨"obj//Bindings.G.cs"⟩ = true
      ∧ (methodIn "obj//Bindings.G.cs").isGenerated = true
      ∧ Path.EndsIn ⟨"/Bindings.G.cs/"⟩ "Bindings.G.cs"
      ∧ (methodIn "/Bindings.G.cs/").isGenerated = true := by
  have hplaced := onlyPlaced_methodIn "obj/./Bindings.G.cs//."
  have hends : Path.EndsIn ⟨"obj/./Bindings.G.cs//."⟩ "Bindings.G.cs" :=
    ⟨by decide, "obj/./".toList, "//.".toList, by decide, by decide, .slash (.point .nil)⟩
  have hends' : Path.EndsIn ⟨"/Bindings.G.cs/"⟩ "Bindings.G.cs" :=
    ⟨by decide, ['/'], ['/'], by decide, by decide, .slash .nil⟩
  have hsame : Path.same ⟨"obj/./Bindings.G.cs//."⟩ ⟨"obj//Bindings.G.cs"⟩ = true := by
    decide +kernel
  obtain ⟨hiff, -, -, hspelled, hmoved⟩ := isGenerated_iff_endsIn hplaced
  have hgenerated : (methodIn "obj/./Bindings.G.cs//.").isGenerated = true :=
    hiff.2 ⟨"Bindings.G.cs", hends, by decide, ".g.cs", by decide, "Bindings", ".G.cs", by decide,
      by decide⟩
  exact ⟨hplaced, hgenerated, hsame,
    (hspelled _ _ (onlyPlaced_methodIn "obj//Bindings.G.cs") hsame).trans hgenerated, hends',
    (hmoved _ _ _ (onlyPlaced_methodIn "/Bindings.G.cs/") hends hends').trans hgenerated⟩

end Method
end NotNullLint
