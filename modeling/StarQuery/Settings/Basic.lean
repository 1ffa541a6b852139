import StarQuery.Sql.Dialect

/-! The settings of the compiler and of crosstabs, and what can be wrong with them. -/
namespace StarQuery

namespace Settings

inductive SettingsError where
  | missingVariable (name : String)
  | unsupportedDialect (name : String)
  | emptySurrogateKey
  | emptyValueKey
  | fileNotFound
  | unreadable
  | malformed
  deriving DecidableEq

def SettingsError.message : SettingsError → String
  | .missingVariable name => "Missing environment variable: " ++ name
  | .unsupportedDialect name => "Unsupported dialect: " ++ name
  | .emptySurrogateKey => "Invalid configuration: compiler.surrogate_key must not be empty"
  | .emptyValueKey => "Invalid configuration: pivot.value_key must not be empty"
  | .fileNotFound => "Config file not found"
  | .unreadable => "Failed to read config file"
  | .malformed => "Failed to parse config file"

structure CompilerSettings where
  dialect : String := "postgres"
  maxPivotSpan : UInt64 := 500
  surrogateKey : String := "id"
  deriving DecidableEq

structure PivotSettings where
  valueKey : String := "value"
  checkSorted : Bool := false
  deriving DecidableEq

end Settings

structure Settings where
  compiler : Settings.CompilerSettings := {}
  pivot : Settings.PivotSettings := {}
  deriving DecidableEq

namespace Settings

/-- A surrogate key of blanks is refused, a value key only if it is empty. -/
def check (s : Settings) : Except SettingsError Settings :=
  if (Text.trim s.compiler.surrogateKey).isEmpty then .error .emptySurrogateKey
  else if s.pivot.valueKey.isEmpty then .error .emptyValueKey
  else .ok s

end Settings

end StarQuery
