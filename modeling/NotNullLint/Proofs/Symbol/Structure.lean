import NotNullLint.Proofs.Json.Structure
import NotNullLint.Symbol.Model

/-!
Symbol models are read by their structure.

A host may write a model in many ways: members in any order, members of its own, defaults left out
or written, records as arrays. None of this changes the model that is read. A record that repeats a
member, or a `null` where a member cannot be nothing, makes a document no model.
-/

namespace NotNullLint

open Json

/-- The trees that say of a member of a record what leaving it out says. -/
def Model.absent : String → String → List Json
  | "AttributeSymbol", "module" => [.null]
  | "TypeRef", "module" => [.null]
  | "TypeRef", "is_value_type" => [.flag false]
  | "Location", "offset" => [.ofNat 0]
  | "Location", "length" => [.ofNat 0]
  | "ParameterSymbol", "nullable_annotation" => [.text "oblivious", .text "none"]
  | "ParameterSymbol", "attributes" => [.array []]
  | "MethodSymbol", "accessibility" => [.text "not_applicable"]
  | "MethodSymbol", "attributes" => [.array []]
  | "MethodSymbol", "parameters" => [.array []]
  | "MethodSymbol", "location" => [.null]
  | "MethodSymbol", "generated" => [.flag false]
  | "TypeSymbol", "attributes" => [.array []]
  | "TypeSymbol", "methods" => [.array []]
  | "SymbolModel", "assembly" => [.text ""]
  | "SymbolModel", "types" => [.array []]
  | _, _ => []

/-- The members with such trees are those that may be left out, and the trees are read. -/
lemma Model.fits_shape : Fits Model.absent (Shaped.shape Model) := by
  decide +kernel

lemma Json.SlotAlike.join_eq {s t : Option (Shaped.shape (Option String)).Val}
    (h : SlotAlike [.null] (Shaped.shape (Option String))
      (Alike Model.absent (Shaped.shape (Option String))) s t) :
    (Option.join s : Option String) = Option.join t := by
  have horElse : (s : Option (Shaped.shape (Option String)).Val) →
      (Option.join s : Option String) = Shaped.orElse none s
    | none => rfl
    | some none => rfl
    | some (some _) => rfl
  exact (horElse s).trans ((h.orElse_eq (List.forall_mem_singleton.2 rfl)).trans (horElse t).symm)

instance : Structural Model.absent Attribute where
  ofVal_eq {x y} h := by
    obtain ⟨name, module, ⟨⟩⟩ := x
    obtain ⟨name', module', ⟨⟩⟩ := y
    obtain ⟨hname, hmodule, -⟩ := h
    exact (Attribute.mk.injEq ..).mpr ⟨hname, hmodule.join_eq⟩

instance : Structural Model.absent TypeRef where
  ofVal_eq {x y} h := by
    obtain ⟨name, module, isValueType, ⟨⟩⟩ := x
    obtain ⟨name', module', isValueType', ⟨⟩⟩ := y
    obtain ⟨hname, hmodule, hvalue, -⟩ := h
    exact (TypeRef.mk.injEq ..).mpr ⟨hname, hmodule.join_eq,
      hvalue.getD_eq (fun _ _ h => h) (List.forall_mem_singleton.2 rfl)⟩

instance : Structural Model.absent Location where
  ofVal_eq {x y} h := by
    obtain ⟨file, line, column, offset, length, ⟨⟩⟩ := x
    obtain ⟨file', line', column', offset', length', ⟨⟩⟩ := y
    obtain ⟨hfile, hline, hcolumn, hoffset, hlength, -⟩ := h
    exact (Location.mk.injEq ..).mpr ⟨congrArg Path.mk hfile, hline, hcolumn,
      hoffset.getD_eq (fun _ _ h => h) (List.forall_mem_singleton.2 rfl),
      hlength.getD_eq (fun _ _ h => h) (List.forall_mem_singleton.2 rfl)⟩

instance : Structural Model.absent Accessibility := ⟨congrArg Accessibility.ofIndex⟩

instance : Structural Model.absent Nullability := ⟨congrArg Nullability.ofIndex⟩

instance : Structural Model.absent Parameter where
  ofVal_eq {x y} h := by
    obtain ⟨name, type, nullability, attributes, location, ⟨⟩⟩ := x
    obtain ⟨name', type', nullability', attributes', location', ⟨⟩⟩ := y
    obtain ⟨hname, htype, hnullability, hattributes, hlocation, -⟩ := h
    exact (Parameter.mk.injEq ..).mpr ⟨hname, Structural.ofVal_eq htype,
      hnullability.orElse_eq (List.forall_mem_cons.2 ⟨rfl, List.forall_mem_singleton.2 rfl⟩),
      hattributes.orElse_eq (List.forall_mem_singleton.2 rfl), Structural.ofVal_eq hlocation⟩

instance : Structural Model.absent Method where
  ofVal_eq {x y} h := by
    obtain ⟨name, accessibility, attributes, parameters, location, generated, ⟨⟩⟩ := x
    obtain ⟨name', accessibility', attributes', parameters', location', generated', ⟨⟩⟩ := y
    obtain ⟨hname, haccess, hattributes, hparameters, hlocation, hgenerated, -⟩ := h
    exact (Method.mk.injEq ..).mpr ⟨hname, haccess.orElse_eq (List.forall_mem_singleton.2 rfl),
      hattributes.orElse_eq (List.forall_mem_singleton.2 rfl),
      hparameters.orElse_eq (List.forall_mem_singleton.2 rfl),
      hlocation.orElse_eq (List.forall_mem_singleton.2 rfl),
      hgenerated.orElse_eq (List.forall_mem_singleton.2 rfl)⟩

instance : Structural Model.absent TypeDecl where
  ofVal_eq {x y} h := by
    obtain ⟨name, attributes, methods, ⟨⟩⟩ := x
    obtain ⟨name', attributes', methods', ⟨⟩⟩ := y
    obtain ⟨hname, hattributes, hmethods, -⟩ := h
    exact (TypeDecl.mk.injEq ..).mpr ⟨hname,
      hattributes.orElse_eq (List.forall_mem_singleton.2 rfl),
      hmethods.orElse_eq (List.forall_mem_singleton.2 rfl)⟩

instance : Structural Model.absent Model where
  ofVal_eq {x y} h := by
    obtain ⟨assembly, types, ⟨⟩⟩ := x
    obtain ⟨assembly', types', ⟨⟩⟩ := y
    obtain ⟨hassembly, htypes, -⟩ := h
    exact (Model.mk.injEq ..).mpr ⟨hassembly.orElse_eq (List.forall_mem_singleton.2 rfl),
      htypes.orElse_eq (List.forall_mem_singleton.2 rfl)⟩

/-- **Models are read by their structure.** If a text of a tree is read as a model, every text of
an edited tree is read as the same model, whichever edits are made at whichever places. What a
record does not know is read past, so it may nest to any depth. No text of a flawed tree is read: a
record repeats a member in it, or has `null` in one other than the module of an attribute or of a
type and the location of a method. -/
theorem Model.ofText_structural {v : Json} {text : String} (hv : v.SpelledAs text) :
    (∀ (w : Json) (text' : String) (m : Model),
      Relation.ReflTransGen (Edit Model.absent (Shaped.shape Model)) v w → w.SpelledAs text' →
      Shaped.ofText text = .ok m → Shaped.ofText text' = .ok m)
    ∧ (Flawed Model.absent (Shaped.shape Model) v →
      ∃ e, (Shaped.ofText text : Except String Model) = .error e) := by
  constructor
  · intro w text' m hedits hw hm
    rw [Shaped.ofText_eq_ok_iff hv] at hm
    exact (Shaped.ofText_eq_ok_iff hw).2 (Shaped.ofJson_of_edits Model.fits_shape hedits hm)
  · intro hflawed
    cases hm : (Shaped.ofText text : Except String Model) with
    | error e => exact ⟨e, rfl⟩
    | ok m =>
      rw [Shaped.ofText_eq_ok_iff hv] at hm
      exact absurd hm (Shaped.ofJson_ne_ok_of_flawed Model.fits_shape hflawed)

/-- A model with one type that has no methods. -/
def Model.oneType : Model := { assembly := "os", types := [{ name := "Os" }] }

/-- The model as an object of objects, with the type as given. -/
def Model.treeOf (type : Json) : Json :=
  .object [("assembly", .text "os"), ("types", .array [type])]

/-- The model with its type as an array and a member of the host. -/
def Model.hostTree : Json :=
  .object [("host", .flag true), ("types", .array [.array [.text "Os", .array [], .array []]]),
    ("assembly", .text "os")]

/-- The default of a type is left out, the type is written as an array, the host adds a member and
turns the members round. -/
lemma Model.edits_treeOf :
    Relation.ReflTransGen (Edit Model.absent (Shaped.shape Model))
      (treeOf (.object [("name", .text "Os"), ("attributes", .array [])])) hostTree := by
  have htype {v w : Json} (h : Edit Model.absent (Shaped.shape TypeDecl) v w) :
      Edit Model.absent (Shaped.shape Model) (treeOf v) (treeOf w) := by
    have hmember : Edit Model.absent (Shaped.shape Model)
        (.object ([("assembly", .text "os")] ++ ("types", .array ([] ++ v :: [])) :: []))
        (.object ([("assembly", .text "os")] ++ ("types", .array ([] ++ w :: [])) :: [])) :=
      .member (List.mem_cons_of_mem _ List.mem_cons_self) (.item h)
    exact hmember
  have hdrop : Edit Model.absent (Shaped.shape TypeDecl)
      (.object ([("name", .text "Os")] ++ ("attributes", .array []) :: []))
      (.object ([("name", .text "Os")] ++ [])) :=
    .drop (List.mem_cons_of_mem _ List.mem_cons_self) List.mem_cons_self rfl
  have hlisted : Edit Model.absent (Shaped.shape TypeDecl) (.object [("name", .text "Os")])
      (.array [.text "Os", .array [], .array []]) := by
    refine .listed (by decide) (List.forall_mem_cons.2 ⟨.inl rfl, List.forall_mem_cons.2
      ⟨.inr ⟨rfl, .array [], List.mem_cons_self, rfl⟩, List.forall_mem_singleton.2
        (.inr ⟨rfl, .array [], List.mem_cons_self, rfl⟩)⟩⟩)
  have hadd : Edit Model.absent (Shaped.shape Model)
      (treeOf (.array [.text "Os", .array [], .array []]))
      (.object [("assembly", .text "os"),
        ("types", .array [.array [.text "Os", .array [], .array []]]), ("host", .flag true)]) :=
    .unknown rfl
  have hturn : Edit Model.absent (Shaped.shape Model)
      (.object [("assembly", .text "os"),
        ("types", .array [.array [.text "Os", .array [], .array []]]), ("host", .flag true)])
      hostTree :=
    .permute (List.reverse_perm _).symm
  exact .tail (.tail (.tail (.single (htype hdrop)) (htype hlisted)) hadd) hturn

/-- One model in two ways, and a tree that has nothing in the place of a name. -/
theorem Model.ofText_structural_edited :
    Shaped.ofText (treeOf (.object [("name", .text "Os"), ("attributes", .array [])])).toText
        = .ok oneType
      ∧ Shaped.ofText hostTree.toText = .ok oneType
      ∧ ∃ e, (Shaped.ofText (object [("assembly", .null)]).toText : Except String Model)
        = .error e := by
  have htree : Shaped.ofText
      (treeOf (.object [("name", .text "Os"), ("attributes", .array [])])).toText = .ok oneType :=
    (Shaped.ofText_eq_ok_iff (spelledAs_toText _)).2 rfl
  refine ⟨htree, ?_, ?_⟩
  · exact (ofText_structural (spelledAs_toText _)).1 _ _ _ edits_treeOf (spelledAs_toText _) htree
  · refine (ofText_structural (spelledAs_toText _)).2
      (.null List.mem_cons_self ?_ List.mem_cons_self)
    exact List.not_mem_cons_of_ne_of_not_mem nofun List.not_mem_nil

end NotNullLint
