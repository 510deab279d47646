import NotNullLint.Rule.NotNull

/-!
# The catalog

All rules, and all diagnostics that they can report in the order of their codes.
-/

namespace NotNullLint
namespace Catalog

/-- All rules. -/
def rules : List Rule := [NotNull.rule]

/-- All diagnostics in the order of their codes. -/
def descriptors : List Descriptor :=
  (rules.flatMap Rule.descriptors).mergeSort fun a b => (compare a.code b.code).isLE

/-- The diagnostic that a key names. -/
def find? (key : String) : Option Descriptor := descriptors.find? fun d => d.matchesKey key

end Catalog
end NotNullLint
