import NotNullLint.Rule.Catalog

/-!
# The list of diagnostics
-/

namespace NotNullLint
namespace CommandLine

/-- A row of the list, its last column not padded. -/
def listRow (code name category severity last : String) : String :=
  String.intercalate " " [Text.padRight 7 code, Text.padRight 20 name, Text.padRight 8 category,
    Text.padRight 9 severity, last]

/-- The rows about a diagnostic. -/
def listRows (d : Descriptor) : List String :=
  [listRow d.code d.name d.category d.defaultSeverity.name d.title,
    Text.padRight 47 "" ++ " " ++ d.description]

/-- The list of all diagnostics. -/
def ruleList : String :=
  String.join ((["Available rules:", "", listRow "Code" "Name" "Category" "Severity" "Title",
    String.ofList (List.replicate 100 '-')]
    ++ Catalog.descriptors.flatMap listRows
    ++ ["", "Use --rules to report only specific rules, e.g.:",
      "  ipy-lint check --rules missing-not-null", "  ipy-lint check --rules IPY02"]).map
    (· ++ "\n"))

end CommandLine
end NotNullLint
