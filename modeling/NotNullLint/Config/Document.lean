import NotNullLint.Config.Basic
import NotNullLint.Shape.Shaped
import NotNullLint.Toml.Parser
import NotNullLint.Toml.Tree

/-!
# Configuration documents

The shape of a configuration in TOML. Every part may be left out.
-/

namespace NotNullLint

/-- Why a text is no configuration. -/
inductive Config.Refusal where
  /-- The text is not TOML. -/
  | malformed
  | mismatch (m : Mismatch)
  deriving DecidableEq, Repr

namespace Setting

/-- The shape of a setting. -/
def members : Members :=
  .cons "enabled" .optional (Shaped.shape (Option Bool))
  (.cons "severity" .optional (Shaped.shape (Option Severity)) .nil)

/-- The setting that was read. -/
def ofVal : members.Val → Setting := fun (enabled, severity, _) =>
  { enabled := Shaped.orElse (α := Option Bool) none enabled
    severity := Shaped.orElse (α := Option Severity) none severity }

end Setting

namespace Scope

/-- The shape of a scope. -/
def members : Members :=
  .cons "root" .optional (Shaped.shape Path)
  (.cons "include" .optional (Shaped.shape (List String))
  (.cons "exclude" .optional (Shaped.shape (List String)) .nil))

/-- The scope that was read. -/
def ofVal : members.Val → Scope := fun (root, includes, excludes, _) =>
  let absent : Scope := {}
  { root := Shaped.orElse absent.root root
    includes := Shaped.orElse absent.includes includes
    excludes := Shaped.orElse absent.excludes excludes }

end Scope

namespace Config

/-- The members of a configuration. -/
def members : Members :=
  .cons "fail_on" .optional (Shaped.shape (Option Severity))
  (.cons "analyzer" .optional (.record "AnalyzerConfig" Scope.members)
  (.cons "rules" .optional (.table (.record "RuleConfig" Setting.members)) .nil))

/-- The configuration that was read. -/
def ofVal : members.Val → Config := fun (failOn, scope, rules, _) =>
  { failOn := Shaped.orElse (α := Option Severity) none failOn
    scope := scope.elim {} Scope.ofVal
    rules := .ofList ((rules.getD []).map fun e => (e.1, Setting.ofVal e.2)) }

/-- Reads a configuration. -/
def ofText (text : String) : Except Refusal Config :=
  match Toml.read? text with
  | none => .error .malformed
  | some es =>
    match Toml.readTree (.record "Config" members) (.table .header es) with
    | .ok v => .ok (ofVal v)
    | .error m => .error (.mismatch m)

end Config
end NotNullLint
