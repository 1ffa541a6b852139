import StarQuery.Settings.Basic
import StarQuery.Toml.Reader

/-!
Settings from a configuration document. What a document leaves out has its default and what it adds
is ignored; a setting of the wrong type is an error.
-/
namespace StarQuery.Settings

/-- The entries of a section by name. A table may have other entries, if their numbers have values.
A list gives the entries by position and may go on after them, and a moment has none. -/
def sectionEntries? (names : List String) : Toml → Option (String → Option Toml)
  | .table fields =>
    if fields.all fun (name, value) => names.contains name || value.isValued then
      some fun name => (Toml.table fields).field? name
    else none
  | .list items => some fun name => (names.zip items).lookup name
  | .moment => some fun _ => none
  | _ => none

def text? : Toml → Option String
  | .text s => some s
  | _ => none

def bool? : Toml → Option Bool
  | .bool b => some b
  | _ => none

def span? : Toml → Option UInt64
  | .integer n => if 0 ≤ n ∧ n < UInt64.size then some (UInt64.ofNat n.toNat) else none
  | _ => none

def entryOr {α : Type} (default : α) (read : Toml → Option α) : Option Toml → Option α
  | none => some default
  | some t => read t

def readCompiler? (t : Toml) : Option CompilerSettings := do
  let entry ← sectionEntries? ["dialect", "max_pivot_span", "surrogate_key"] t
  let defaults : CompilerSettings := {}
  some {
    dialect := ← entryOr defaults.dialect text? (entry "dialect")
    maxPivotSpan := ← entryOr defaults.maxPivotSpan span? (entry "max_pivot_span")
    surrogateKey := ← entryOr defaults.surrogateKey text? (entry "surrogate_key") }

def readPivot? (t : Toml) : Option PivotSettings := do
  let entry ← sectionEntries? ["value_key", "check_sorted"] t
  let defaults : PivotSettings := {}
  some {
    valueKey := ← entryOr defaults.valueKey text? (entry "value_key")
    checkSorted := ← entryOr defaults.checkSorted bool? (entry "check_sorted") }

def readSettings? (t : Toml) : Option Settings := do
  let entry ← sectionEntries? ["compiler", "pivot"] t
  some {
    compiler := ← entryOr {} readCompiler? (entry "compiler")
    pivot := ← entryOr {} readPivot? (entry "pivot") }

def ofDocument (document : String) : Except SettingsError Settings :=
  match (Toml.read? document).bind readSettings? with
  | some settings => settings.check
  | none => .error .malformed

end StarQuery.Settings
