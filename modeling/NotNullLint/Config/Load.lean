import NotNullLint.Config.Document
import NotNullLint.Files.Lookup

/-!
# Configuration files
-/

namespace NotNullLint

/-- Why a file yields no configuration. -/
inductive ConfigError where
  | unreadable (path : Path) (cause : FileError)
  | refused (r : Config.Refusal)
  deriving DecidableEq, Repr

/-- The text of a refusal. -/
def Config.Refusal.message : Config.Refusal → String
  | malformed => "TOML parse error"
  | mismatch m => "TOML parse error: " ++ m.message

/-- The text of a configuration error. -/
def ConfigError.message : ConfigError → String
  | unreadable path cause => "Failed to read config file " ++ path.text ++ ": " ++ cause.message
  | refused r => "Failed to parse config: " ++ r.message

/-- The configuration in the file that a path leads to. -/
def Config.load (f : Files) (here : Place) (path : Path) : Except ConfigError Config :=
  match f.read here path with
  | .error cause => .error (.unreadable path cause)
  | .ok text => (Config.ofText text).mapError .refused

end NotNullLint
