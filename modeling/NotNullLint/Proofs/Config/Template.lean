import NotNullLint.CommandLine.Program
import NotNullLint.Proofs.Analysis.Replacement
import NotNullLint.Proofs.CommandLine.Narrowing
import NotNullLint.Proofs.Config.Found

/-!
The first configuration, and where it is found.

The text that is written first says what holds anyway. Where no configuration was found before it
was written, it is the only one that can be found then: every other file that could count was there
before, and would have been found.
-/

namespace NotNullLint
namespace Config

/-! ### What it says -/

/-- The configuration in a row of characters. -/
def ofChars? (s : List Char) : Option Config :=
  (Toml.readLines (s.length + 1) [] [] s).bind fun es =>
    (Toml.readTree (.record "Config" members) (.table .header es)).toOption.map ofVal

lemma toOption_ofText {s : List Char} (hmark : s.head? ≠ some '\uFEFF') :
    (ofText (String.ofList s)).toOption = ofChars? s := by
  have hread : Toml.read? (String.ofList s) = Toml.readLines (s.length + 1) [] [] s := by
    rw [Toml.read?, String.toList_ofList]
    split
    · exact absurd rfl hmark
    · rfl
  rw [ofText, hread, ofChars?]
  cases Toml.readLines (s.length + 1) [] [] s with
  | none => rfl
  | some es =>
    rw [Option.bind_some]
    dsimp only
    cases Toml.readTree (.record "Config" members) (.table .header es) <;> rfl

/-- What a configuration says of the catalog. -/
def choices (c : Config) : List (Bool × Severity) :=
  [NotNull.missing, NotNull.redundant].map fun d => (c.isEnabled d, c.severity d)

lemma agreeOn_of_choices {c c' : Config} (h : c'.choices = c.choices) :
    c.AgreeOn Catalog.descriptors c' := by
  simp only [choices, List.map_cons, List.map_nil, List.cons.injEq, Prod.mk.injEq, and_true] at h
  intro d hd
  rw [Catalog.descriptors_eq] at hd
  simp only [List.mem_cons, List.not_mem_nil, or_false] at hd
  obtain rfl | rfl := hd
  · exact h.1
  · exact h.2

set_option maxRecDepth 4000 in
/-- **The first configuration says what holds anyway**: no threshold, the default root and patterns,
and of each diagnostic what holds without a configuration. -/
theorem ofText_template : ∃ c, ofText template = .ok c ∧ c.failOn = none
    ∧ c.scope = { excludes := Analyzer.defaultExcludes }
    ∧ ({} : Config).AgreeOn Catalog.descriptors c := by
  -- the characters of the text are what the reader takes
  obtain ⟨cs, htext, hmark, hread⟩ : ∃ cs, template = String.ofList cs
      ∧ cs.head? ≠ some '\uFEFF'
      ∧ (ofChars? cs).map (fun c => (c.failOn, c.scope, c.choices))
        = some (none, { excludes := Analyzer.defaultExcludes }, ({} : Config).choices) :=
    ⟨_, rfl, by decide, by decide +kernel⟩
  obtain ⟨c, hc, hparts⟩ := Option.map_eq_some_iff.1 hread
  rw [← toOption_ofText hmark, ← htext] at hc
  simp only [Prod.mk.injEq] at hparts
  exact ⟨c, Except.toOption_eq_some_iff.1 hc, hparts.1, hparts.2.1, agreeOn_of_choices hparts.2.2⟩

/-! ### Where it is found -/

variable {f g : Files} {here q : Place} {p found : Path} {folder? : Option Path}

/-- The paths at which a file of a project may stand, for a path that is seen from there. -/
def candidates (p : Path) : List Path :=
  p.ancestors.flatMap fun d => projectNames.map fun n => d.join ⟨n⟩

lemma nearestProjectFile?_eq_find? : nearestProjectFile? f here p
    = (candidates (standpoint f here p)).find? (f.leadsToFile here) := by
  rw [candidates, List.find?_flatMap]
  rfl

lemma candidates_path (hnames : ∀ s ∈ q, IsFileName s) : candidates q.path
    = q.inits.reverse.flatMap fun d : Place => projectNames.map fun n => Place.path (d ++ [n]) := by
  rw [candidates, Place.ancestors_path hnames, List.flatMap_map]
  refine List.flatMap_congr fun d hd => List.map_congr_left fun n hn => Place.join_path ?_
  have hd : d <+: q := by simpa using hd
  exact names_append (fun s hs => hnames s (hd.mem hs)) hn

lemma mem_candidates_path (hnames : ∀ s ∈ q, IsFileName s) : p ∈ candidates q.path
    ↔ ∃ d n, d <+: q ∧ n ∈ projectNames ∧ Place.path (d ++ [n]) = p := by
  rw [candidates_path hnames]
  simp only [List.mem_flatMap, List.mem_reverse, List.mem_inits, List.mem_map]
  exact ⟨fun ⟨d, hd, n, hn, hp⟩ => ⟨d, n, hd, hn, hp⟩, fun ⟨d, n, hd, hn, hp⟩ => ⟨d, hd, n, hn, hp⟩⟩

lemma destination_candidate (hnames : ∀ s ∈ q, IsFileName s) {d : Place} {n : String}
    (hd : d <+: q) (hn : n ∈ projectNames) (there : Place) :
    (Place.path (d ++ [n])).destination there = d ++ [n] :=
  Path.destination_path (names_append (fun s hs => hnames s (hd.mem hs)) hn) there

/-- The place of the first configuration. -/
def ownPlace (here : Place) : Place := here ++ [CommandLine.configName]

lemma standpoint_of_resolve (h : f.resolve here p = .ok q) : standpoint f here p = q.path := by
  rw [standpoint, h]

lemma resolve_defaultPath (hfolder : f.HasFolder here) :
    f.resolve here CommandLine.defaultPath = .ok here := by
  have hstep : f.step here "." = .ok here := by
    rw [Files.step, if_neg (not_not.2 (Files.hasFolder_iff.1 hfolder)), if_pos (.inr rfl)]
  have hpieces : CommandLine.defaultPath.pieces = ["."] := by decide
  have hshort : ¬Files.maxPath ≤ CommandLine.defaultPath.text.utf8ByteSize := by decide
  have hrelative : CommandLine.defaultPath.isAbsolute = false := by decide
  rw [Files.resolve, if_neg (by decide), if_neg (by decide), if_neg hshort, hpieces, hrelative]
  simp [hstep]

/-- The second tree is the first one with the first configuration written in the folder. -/
structure Written (here : Place) (f g : Files) : Prop where
  folder : f.HasFolder here
  same : Files.SameBut (ownPlace here) f g
  within : f.Within g
  file : g.node? (ownPlace here) = some (.file template.toUTF8)

lemma written_put {h : f.Accepts (ownPlace here)} :
    Written here f (f.put (ownPlace here) (.file template.toUTF8) h) where
  folder := by simpa [ownPlace] using h.2.2.1
  same := Files.sameBut_put
  within := Files.within_put
  file := Files.node?_put_self

namespace Written

variable (h : Written here f g)
include h

lemma names : ∀ s ∈ ownPlace here, IsFileName s :=
  Files.names_of_node? (by rw [h.file]; rfl)

/-- A file that is led to was led to before, or is the new one. -/
lemma leads_or (hp : g.leadsToFile here p = true) :
    f.leadsToFile here p = true ∨ g.resolve here p = .ok (ownPlace here) := by
  obtain ⟨r, content, hr, hnode⟩ := Files.leadsToFile_iff.1 hp
  by_cases hown : r = ownPlace here
  · exact .inr (hown ▸ hr)
  · rw [h.same.others r hown] at hnode
    exact .inl (Files.leadsToFile_iff.2 ⟨r, content, (h.same.resolve_iff hown).1 hr, hnode⟩)

/-- A path is seen from where it was seen before, unless it leads to the new file. -/
lemma standpoint_or (p : Path) : standpoint g here p = standpoint f here p
    ∨ standpoint g here p = (ownPlace here).path := by
  cases hf : f.resolve here p with
  | ok r =>
    left
    rw [standpoint_of_resolve hf, standpoint_of_resolve (h.within.resolve hf)]
  | error e =>
    cases hg : g.resolve here p with
    | ok r =>
      right
      by_cases hown : r = ownPlace here
      · rw [standpoint_of_resolve hg, hown]
      · rw [(h.same.resolve_iff hown).1 hg] at hf
        cases hf
    | error e' =>
      left
      rw [standpoint, standpoint, hf, hg]

/-- Nothing stands below the new file. -/
lemma not_leads_below (n : String) (hn : n ∈ projectNames) :
    ¬g.leadsToFile here (Place.path (ownPlace here ++ [n])) = true := by
  intro hleads
  obtain ⟨r, content, hr, hnode⟩ := Files.leadsToFile_iff.1 hleads
  have hplace : r = ownPlace here ++ [n] := (Files.resolve_ok hr).trans
    (destination_candidate h.names (List.prefix_refl _) hn here)
  have hbelow : (g.node? (ownPlace here ++ [n])).isSome = true := by
    rw [← hplace, hnode]
    rfl
  have hfolder := Files.node?_of_append hbelow (List.cons_ne_nil _ _)
  rw [h.file] at hfolder
  cases hfolder

/-- The new file is the first that counts from its own place on, if the system takes its path. -/
lemma find?_candidates_own (hlimits : (ownPlace here).WithinLimits) :
    (candidates (ownPlace here).path).find? (g.leadsToFile here)
      = some (ownPlace here).path := by
  have hown : g.leadsToFile here (Place.path (here ++ ["ipy-lint.toml"])) = true :=
    Files.leadsToFile_iff.2 ⟨_, _, (Files.resolve_path_iff h.names (by rw [h.file]; rfl)).2 hlimits,
      h.file⟩
  have hplain := h.not_leads_below "ipy-lint.toml" (by simp [projectNames])
  have hdotted := h.not_leads_below ".ipy-lint.toml" (by simp [projectNames])
  have hinits : (ownPlace here).inits = here.inits ++ [ownPlace here] := by
    simp [ownPlace, List.inits_append]
  obtain ⟨above, habove⟩ : ∃ above, here.inits = above ++ [here] := by
    obtain rfl | ⟨front, s, rfl⟩ := List.eq_nil_or_concat here
    · exact ⟨[], rfl⟩
    · exact ⟨front.inits, by simp [List.inits_append]⟩
  rw [candidates_path h.names, hinits, habove]
  simp [projectNames, hplain, hdotted, hown]
  rfl

/-- **Where no file of a project was found, only the new one can be found**, unless its path is one
that the system does not take and there is one further up. -/
theorem resolve_nearestProjectFile?
    (hnone : nearestProjectFile? f here p = none)
    (hplace : nearestProjectFile? f here CommandLine.defaultPath = none
      ∨ (ownPlace here).WithinLimits)
    (hfound : nearestProjectFile? g here p = some found) :
    g.resolve here found = .ok (ownPlace here) := by
  rw [nearestProjectFile?_eq_find?] at hnone hfound
  have hmem := List.mem_of_find?_eq_some hfound
  have hleads := List.find?_some hfound
  obtain hbefore | hown := h.leads_or hleads
  swap
  · exact hown
  obtain hsame | hnew := h.standpoint_or p
  · rw [hsame] at hmem
    exact absurd hbefore (List.find?_eq_none.1 hnone found hmem)
  rw [hnew] at hfound hmem
  obtain hnone | hlimits := hplace
  · -- from the new file on, the places to look at are those from the working directory on
    rw [nearestProjectFile?_eq_find?, standpoint_of_resolve (resolve_defaultPath h.folder)] at hnone
    obtain ⟨d, n, hd, hn, rfl⟩ := (mem_candidates_path h.names).1 hmem
    obtain hd | rfl := (List.prefix_concat_iff.1 hd).symm
    · refine absurd hbefore (List.find?_eq_none.1 hnone _ ?_)
      exact (mem_candidates_path h.folder.names).2 ⟨d, n, hd, hn, rfl⟩
    · exact absurd hleads (h.not_leads_below n hn)
  · rw [h.find?_candidates_own hlimits] at hfound
    cases hfound
    exact (Files.resolve_path_iff h.names (by rw [h.file]; rfl)).2 hlimits

end Written
end Config
end NotNullLint
