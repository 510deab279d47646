import NotNullLint.CommandLine.Check
import NotNullLint.Proofs.Json.RoundTrip

/-!
The documents of the linter.

A report that is printed as a document is read back as that report, and a symbol model that is
written is read back as that model, whatever they hold. A model may be written in many other ways;
all of them come down to the one way in which it is written.
-/

namespace NotNullLint

namespace CommandLine

/-- **Reports can be read back.** What a check prints in the form of a document is a text of the
report, which has the findings with all they say, in order, and both counts. -/
theorem ofText_output_concludeCheck (f : Files) (here : Place) (a : Analyzer) (r : Report) :
    Shaped.ofText (concludeCheck f here a .json r).output = .ok r := by
  have hblank : ∀ c ∈ "\n".toList, Json.isSpace c = true :=
    List.forall_mem_singleton.2 rfl
  have houtput : (concludeCheck f here a .json r).output
      = (Shaped.toJson r).toPrettyText ++ "\n" := by
    simp only [concludeCheck, Report.render, Report.toJsonText]
  rw [houtput]
  exact Shaped.ofText_toPrettyText_append (by decide) r hblank

end CommandLine

namespace Model

/-- **Models can be read back.** A model that is written, on one line or over several, is read as
itself. So whatever text a model is read from, writing the model and reading it again changes
nothing. -/
theorem ofText_toText_toJson (m : Model) (text : String) :
    Shaped.ofText (Shaped.toJson m).toText = .ok m
      ∧ Shaped.ofText (Shaped.toJson m).toPrettyText = .ok m
      ∧ ((Shaped.ofText text).bind fun m : Model => Shaped.ofText (Shaped.toJson m).toText)
        = (Shaped.ofText text : Except String Model) := by
  have hread (m : Model) : Shaped.ofText (Shaped.toJson m).toText = .ok m :=
    Shaped.ofText_toText (by decide) m
  have hpretty : Shaped.ofText ((Shaped.toJson m).toPrettyText ++ "") = .ok m :=
    Shaped.ofText_toPrettyText_append (by decide) m nofun
  rw [String.append_empty] at hpretty
  refine ⟨hread m, hpretty, ?_⟩
  cases (Shaped.ofText text : Except String Model) with
  | error what => rfl
  | ok m => simp only [Except.bind, hread]

/-- Records as arrays, a choice as an object, and parts left out. -/
example :
    (Shaped.ofText "[\"os\", [[\"Os\", [[\"Hidden\"]],
      [\x7b\"accessibility\": \x7b\"public\": null\x7d, \"name\": \"open\"\x7d]]]]").toOption
      = some ({ assembly := "os"
                types := [{ name := "Os", attributes := [⟨"Hidden", none⟩]
                            methods := [{ name := "open", accessibility := .everyone }] }]
              } : Model) := by
  decide +kernel

end Model
end NotNullLint
