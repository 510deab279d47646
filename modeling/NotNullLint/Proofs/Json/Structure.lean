import NotNullLint.Proofs.Json.Edits

/-!
Values that do not depend on how they are written.

Trees that say the same are read as values of a shape that say the same. What these stand for is
decided by each type, so each has to see to it that it makes no difference there either. Then an
edited tree gives the value that the tree gives.
-/

namespace NotNullLint

open Json

/-- Values of the shape that say the same stand for the same. -/
class Structural (absent : String → String → List Json) (α : Type) [Shaped α] : Prop where
  ofVal_eq {x y : (Shaped.shape α).Val} (h : Alike absent (Shaped.shape α) x y) :
    (Shaped.ofVal x : α) = Shaped.ofVal y

namespace Json.SlotAlike

variable {absent : String → String → List Json} {ds : List Json} {shape : Shape}

lemma getD_map_eq {β : Type} {f : shape.Val → β} {b : β} {s t : Option shape.Val}
    (h : SlotAlike ds shape (Alike absent shape) s t)
    (hf : ∀ x y, Alike absent shape x y → f x = f y)
    (hds : ∀ d ∈ ds, ∃ x, readTree shape d = .ok x ∧ f x = b) :
    (s.map f).getD b = (t.map f).getD b := by
  have habsent {x : shape.Val} (hx : ∃ d ∈ ds, readTree shape d = .ok x) : f x = b := by
    obtain ⟨d, hd, hx⟩ := hx
    obtain ⟨y, hy, hb⟩ := hds d hd
    cases hx.symm.trans hy
    exact hb
  match s, t, h with
  | none, none, _ => rfl
  | some x, some y, h => exact hf x y h
  | some x, none, h => exact habsent h
  | none, some y, h => exact (habsent h).symm

/-- An optional member is the same, if the trees for its absence give what its absence means. -/
lemma orElse_eq {α : Type} [Shaped α] [Structural absent α] {a : α}
    {s t : Option (Shaped.shape α).Val}
    (h : SlotAlike ds (Shaped.shape α) (Alike absent (Shaped.shape α)) s t)
    (hds : ∀ d ∈ ds, Shaped.ofJson d = .ok a) : Shaped.orElse a s = Shaped.orElse a t :=
  h.getD_map_eq (fun _ _ => Structural.ofVal_eq) fun d hd => Shaped.ofJson_eq_ok_iff.1 (hds d hd)

lemma getD_eq {b : shape.Val} {s t : Option shape.Val}
    (h : SlotAlike ds shape (Alike absent shape) s t)
    (hf : ∀ x y, Alike absent shape x y → x = y) (hds : ∀ d ∈ ds, readTree shape d = .ok b) :
    s.getD b = t.getD b := by
  have hmap := h.getD_map_eq hf fun d hd => ⟨b, hds d hd, rfl⟩
  rwa [Option.map_id', Option.map_id'] at hmap

end Json.SlotAlike

section

variable {absent : String → String → List Json} {α : Type} [Shaped α]

instance : Structural absent String := ⟨fun h => h⟩

instance : Structural absent Bool := ⟨fun h => h⟩

instance [Structural absent α] : Structural absent (Option α) where
  ofVal_eq {x y} h := by
    match x, y, h with
    | none, none, _ => rfl
    | some x, some y, .some h => exact congrArg some (Structural.ofVal_eq h)

instance [Structural absent α] : Structural absent (List α) where
  ofVal_eq {x y} h := by
    change List.Forall₂ (Alike absent (Shaped.shape α)) x y at h
    change x.map Shaped.ofVal = y.map Shaped.ofVal
    induction h with
    | nil => rfl
    | cons h _ ih => rw [List.map_cons, List.map_cons, Structural.ofVal_eq h, ih]

end

/-! ### Trees that are edited or flawed -/

namespace Shaped

variable {absent : String → String → List Json} {α : Type} [Shaped α] {a : α} {v w : Json}

/-- **An edited tree gives the same value.** -/
theorem ofJson_of_edits [Structural absent α] (hfit : Fits absent (shape α))
    (h : Relation.ReflTransGen (Edit absent (shape α)) v w) (ha : ofJson v = .ok a) :
    ofJson w = .ok a := by
  induction h with
  | refl => exact ha
  | tail _ hedit ih =>
    obtain ⟨x, hx, rfl⟩ := ofJson_eq_ok_iff.1 ih
    obtain ⟨y, hy, halike⟩ := hedit.readTree hfit x hx
    exact ofJson_eq_ok_iff.2 ⟨y, hy, (Structural.ofVal_eq halike).symm⟩

lemma ofJson_ne_ok_of_flawed (hfit : Fits absent (shape α)) (h : Flawed absent (shape α) v) :
    ofJson v ≠ .ok a := by
  intro ha
  obtain ⟨x, hx, -⟩ := ofJson_eq_ok_iff.1 ha
  exact h.not_read hfit x hx

end Shaped
end NotNullLint
