import Mathlib.Logic.Relation
import NotNullLint.Proofs.NotNull.Findings

/-!
Reports of calls that run at the same time.

The rule is shown many methods at once, and each call hands its reports over one by one, so the
order in which they are collected differs from run to run. Whatever it is, the sorted report is
the same: after the configuration, two findings that tie differ at most in how their file is
spelled.
-/

namespace NotNullLint.Delivery

variable {α : Type}

/-- What the calls still have to hand over, and what has been collected. -/
structure State (α : Type) where
  pending : List (List α)
  collected : List α

/-- Some call hands over the next of its reports. -/
inductive Step : State α → State α → Prop
  | report (before after : List (List α)) (a : α) (rest collected : List α) :
      Step ⟨before ++ (a :: rest) :: after, collected⟩ ⟨before ++ rest :: after, collected ++ [a]⟩

/-- A run of the calls, in some order and with any switches between them, ends with these reports
collected. -/
def Delivers (calls : List (List α)) (found : List α) : Prop :=
  ∃ pending, Relation.ReflTransGen Step ⟨calls, []⟩ ⟨pending, found⟩ ∧ ∀ q ∈ pending, q = []

/-- All reports of a state, wherever they are. -/
def State.reports (s : State α) : List α := s.collected ++ s.pending.flatten

lemma step_perm {s t : State α} (h : Step s t) : t.reports.Perm s.reports := by
  obtain ⟨before, after, a, rest, collected⟩ := h
  simp only [State.reports, List.flatten_append, List.flatten_cons, List.append_assoc,
    List.cons_append, List.nil_append]
  exact (List.perm_middle.symm).append_left collected

lemma run_perm {s t : State α} (h : Relation.ReflTransGen Step s t) :
    t.reports.Perm s.reports := by
  induction h with
  | refl => exact .refl _
  | tail _ hstep ih => exact (step_perm hstep).trans ih

/-- Nothing is lost, added or repeated on the way. -/
theorem Delivers.perm {calls : List (List α)} {found : List α} (h : Delivers calls found) :
    found.Perm calls.flatten := by
  obtain ⟨pending, hrun, hend⟩ := h
  have hnil : pending.flatten = [] := List.flatten_eq_nil_iff.2 hend
  simpa [State.reports, hnil] using run_perm hrun

end NotNullLint.Delivery

namespace NotNullLint.NotNull

open Delivery

/-- A finding of the convention as a configuration leaves it. -/
def IsFinding (c : Config) (v : Violation) : Prop :=
  ∃ p, v = lackFinding c p ∨ v = contradictionFinding c p

lemma codes_ne : "IPY01" ≠ "IPY02" := by decide

/-- Code, place and symbol say all there is to say. -/
lemma IsFinding.same_of_tie {c : Config} {v w : Violation} (hv : IsFinding c v)
    (hw : IsFinding c w) (h : compare v w = .eq) : v.same w = true := by
  obtain ⟨hplace, hcode, hsymbol⟩ := Violation.compare_eq_iff.1 h
  obtain ⟨p, rfl | rfl⟩ := hv <;> obtain ⟨q, rfl | rfl⟩ := hw
  · have hname : p.name = q.name := Option.some.inj hsymbol
    simp_all [Violation.same, lackFinding]
  · exact absurd hcode codes_ne
  · exact absurd hcode.symm codes_ne
  · have hname : p.name = q.name := Option.some.inj hsymbol
    simp_all [Violation.same, contradictionFinding]

lemma isFinding_of_mem {c : Config} {path : Path} {m : Model} {found : List Violation}
    (h : found.Perm ((linter c).reports path m)) :
    ∀ v ∈ ((linter c).conclude m found).violations, IsFinding c v := by
  intro v hv
  have hmem : v ∈ ((linter c).reports path m).filterMap (linter c).settle :=
    (h.filterMap _).subset ((Report.perm_sort _).subset hv)
  rw [filterMap_settle_reports] at hmem
  obtain ⟨s, -, hs⟩ := List.mem_filterMap.1 hmem
  split at hs
  · exact ⟨s.parameter, settled_cases hs⟩
  · cases hs

/-- Findings of the convention that tie place by place are the same. -/
lemma forall₂_same_of_tie {c : Config} {vs ws : List Violation} (hvs : ∀ v ∈ vs, IsFinding c v)
    (hws : ∀ w ∈ ws, IsFinding c w)
    (htie : List.Forall₂ (fun v w => compare v w = .eq) vs ws) :
    List.Forall₂ (fun v w => v.same w = true) vs ws := by
  have hall := (List.forall₂_and_left _ _).2 ⟨hws, ((List.forall₂_and_left _ _).2
    ⟨hvs, htie⟩).flip⟩
  exact hall.flip.imp fun v w ⟨hw, hv, hvw⟩ => hv.same_of_tie hw hvw

/-- **The order of reports does not matter.** Whichever way the calls of the rule are run, their
reports are those of a run in order of declaration, in some order; and in whatever order those come
in, the sorted report is that of the run in order, finding by finding. -/
theorem check_of_delivery (path : Path) (m : Model) (c : Config) :
    (∀ found, Delivers (((linter c).visits path m).map Visit.reports) found →
      found.Perm ((linter c).reports path m))
    ∧ ∀ found, found.Perm ((linter c).reports path m) →
      List.Forall₂ (fun a b => a.same b = true) ((linter c).conclude m found).violations
        ((linter c).check path m).violations := by
  refine ⟨fun found h => h.perm, fun found h => ?_⟩
  have htie : List.Forall₂ (fun a b => compare a b = .eq)
      ((linter c).conclude m found).violations ((linter c).check path m).violations :=
    Report.forall₂_tie_sort (h.filterMap (linter c).settle)
  exact forall₂_same_of_tie (isFinding_of_mem h)
    (isFinding_of_mem (.refl ((linter c).reports path m))) htie

/-- Two methods with a parameter each, at one place of a file that is spelled in two ways. -/
def spelledTwice : Model where
  types := [{ name := "Os", attributes := [⟨"PythonTypeAttribute", none⟩]
              methods := ["src/os.cs", "src//os.cs"].map fun file =>
                { name := "Open", accessibility := .everyone
                  parameters := [{ name := "path", type := ⟨"String", none, false⟩
                                   nullability := .notAnnotated
                                   location := ⟨⟨file⟩, 3, 7, 0, 0⟩ }] } }]

def spelledReport (file : String) : Violation where
  code := "IPY01"
  rule := "missing-not-null"
  severity := .warning
  location := ⟨⟨file⟩, 3, 7, 0, 0⟩
  message := "Parameter 'path' does not have the NotNullAttribute"
  symbol := some "path"

lemma reports_spelledTwice : ((linter {}).visits ⟨"os.json"⟩ spelledTwice).map Visit.reports
    = [[spelledReport "src/os.cs"], [spelledReport "src//os.cs"]] := by
  decide +kernel

lemma delivers_spelledTwice :
    Delivers (((linter {}).visits ⟨"os.json"⟩ spelledTwice).map Visit.reports)
      [spelledReport "src//os.cs", spelledReport "src/os.cs"] := by
  rw [reports_spelledTwice]
  have hsecond := Step.report [[spelledReport "src/os.cs"]] [] (spelledReport "src//os.cs") [] []
  have hfirst := Step.report [] [[]] (spelledReport "src/os.cs") [] [spelledReport "src//os.cs"]
  exact ⟨[[], []], (Relation.ReflTransGen.single hsecond).tail hfirst, by simp⟩

/-- The second method reports first, and the report is that of the run in order. -/
theorem check_of_delivery_spelledTwice :
    [spelledReport "src//os.cs", spelledReport "src/os.cs"].Perm
        ((linter {}).reports ⟨"os.json"⟩ spelledTwice)
      ∧ List.Forall₂ (fun a b => a.same b = true)
        ((linter {}).conclude spelledTwice
          [spelledReport "src//os.cs", spelledReport "src/os.cs"]).violations
        ((linter {}).check ⟨"os.json"⟩ spelledTwice).violations := by
  have h := check_of_delivery ⟨"os.json"⟩ spelledTwice {}
  have hperm := h.1 _ delivers_spelledTwice
  exact ⟨hperm, h.2 _ hperm⟩

end NotNullLint.NotNull
