import StarQuery.Json.Basic
import StarQuery.Query.Plan
import StarQuery.Settings.Placeholder

/-!
Requests: whole queries as data documents. What a request leaves out is empty, and what it adds is
ignored.
-/
namespace StarQuery.Query

open Model (Schema)
open Settings (CompilerSettings Environment SettingsError)

structure Request where
  base : String := ""
  select : List String := []
  filter : List String := []
  order : List String := []
  limit : Option UInt64 := none
  deriving DecidableEq

namespace Request

def text? : Json → Option String
  | .text s => some s
  | _ => none

def texts? : Json → Option (List String)
  | .list items => items.mapM text?
  | _ => none

def limit? : Json → Option (Option UInt64)
  | .null => some none
  | .number (.whole n) =>
    if 0 ≤ n ∧ n < UInt64.size then some (some (UInt64.ofNat n.toNat)) else none
  | _ => none

def fieldNames : List String := ["from", "select", "filter", "order", "limit"]

/-- The entries of a request by name. A list gives them by position and has no others. -/
def entries? : Json → Option (String → Option Json)
  | .object fields => some fun name => (Json.object fields).field? name
  | .list items =>
    if items.length ≤ fieldNames.length then some fun name => (fieldNames.zip items).lookup name
    else none
  | _ => none

def entryOr {α : Type} (default : α) (read : Json → Option α) : Option Json → Option α
  | none => some default
  | some j => read j

def ofJson? (j : Json) : Option Request := do
  let entry ← entries? j
  some {
    base := ← entryOr "" text? (entry "from")
    select := ← entryOr [] texts? (entry "select")
    filter := ← entryOr [] texts? (entry "filter")
    order := ← entryOr [] texts? (entry "order")
    limit := ← entryOr none limit? (entry "limit") }

def draft (r : Request) (schema : Schema) (settings : CompilerSettings) :
    Except CompileError Draft := do
  let start ← Draft.start schema r.base
  let outcome :=
    (((start.withSettings settings).select r.select).andThen (·.filter r.filter)).andThen
      (·.order r.order)
  match outcome.error? with
  | some e => .error e
  | none => .ok { outcome.draft with limit := r.limit }

def compile (r : Request) (schema : Schema) (settings : CompilerSettings) :
    Except CompileError Plan := do
  let d ← r.draft schema settings
  d.plan

end Request

structure Options where
  dialect : Sql.Dialect := .postgres
  settings : CompilerSettings := {}
  deriving DecidableEq

def Options.ofSettings (s : Settings) (env : Environment) : Except SettingsError Options := do
  let dialect ← s.compiler.resolveDialect env
  .ok ⟨dialect, s.compiler⟩

end StarQuery.Query
