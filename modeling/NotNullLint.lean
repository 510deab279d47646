import NotNullLint.Main
import NotNullLint.Proofs.Analysis.Calls
import NotNullLint.Proofs.Analysis.Fragments
import NotNullLint.Proofs.Analysis.Overlap
import NotNullLint.Proofs.Analysis.Roles
import NotNullLint.Proofs.CommandLine.FirstConfig
import NotNullLint.Proofs.CommandLine.Narrowing
import NotNullLint.Proofs.Config.Effective
import NotNullLint.Proofs.Config.Found
import NotNullLint.Proofs.Config.Root
import NotNullLint.Proofs.Config.UnknownKeys
import NotNullLint.Proofs.Json.Documents
import NotNullLint.Proofs.NotNull.Packaging
import NotNullLint.Proofs.Report.Sorting
import NotNullLint.Proofs.Rule.Message
import NotNullLint.Proofs.Symbol.GeneratedFile
import NotNullLint.Proofs.Symbol.Structure
