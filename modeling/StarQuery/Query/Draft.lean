import StarQuery.Query.Filter

/-!
A query while it is put together. Selecting, filtering and ordering add to it, and the tables that
are needed are joined as they turn up. A step that fails keeps what it has done before.
-/
namespace StarQuery.Query

open Model (Role Schema Table)
open Settings (CompilerSettings)
open Sql (Direction Expr Join)

structure Draft where
  schema : Schema
  base : Table
  settings : CompilerSettings := {}
  selected : List Projection := []
  conditions : List Expr := []
  groupConditions : List Expr := []
  ordering : List (Projection × Direction) := []
  limit : Option UInt64 := none
  joins : List Join := []

/-- The draft after a step, and the error if the step failed. -/
structure Outcome where
  draft : Draft
  error? : Option CompileError := none

namespace Outcome

def andThen (o : Outcome) (next : Draft → Outcome) : Outcome :=
  match o.error? with
  | none => next o.draft
  | some _ => o

def each {α : Type} (step : α → Draft → Outcome) : List α → Draft → Outcome
  | [], d => ⟨d, none⟩
  | a :: rest, d => (step a d).andThen (each step rest)

theorem andThen_assoc (o : Outcome) (f g : Draft → Outcome) :
    (o.andThen f).andThen g = o.andThen fun d => (f d).andThen g := by
  cases h : o.error? <;> simp [andThen, h]

theorem each_append {α : Type} (step : α → Draft → Outcome) (as bs : List α) (d : Draft) :
    each step (as ++ bs) d = (each step as d).andThen (each step bs) := by
  induction as generalizing d with
  | nil => rfl
  | cons a as ih =>
    simp only [List.cons_append, each, andThen_assoc]
    congr 1
    funext d
    exact ih d

end Outcome

def roleFor? (base owner : Table) : Option Role := do
  let f ← base.fact?
  match owner with
  | .fact _ => none
  | .dimension d => f.role? d.name
  | .role r => (f.role? r.name).filter (·.dimension.name == r.dimension.name)

def readOrder (reference : String) : String × Direction :=
  match (Text.trim reference).toList with
  | '-' :: rest => (String.ofList rest, .descending)
  | cs => (String.ofList cs, .ascending)

namespace Draft

def start (schema : Schema) (base : String) : Except CompileError Draft :=
  match schema.table? base with
  | some base => .ok { schema, base }
  | none => .error (.unknownTable base)

def withSettings (d : Draft) (settings : CompilerSettings) : Draft := { d with settings }

def scope (d : Draft) : Scope := { schema := d.schema, base := some d.base, settings := d.settings }

/-- A dimension is joined by its surrogate key to the foreign key that the base has for it. -/
def joinOf (d : Draft) (owner : Table) : Except CompileError Join :=
  match roleFor? d.base owner with
  | some role =>
    .ok {
      source := owner.source
      on := (Expr.ofTable owner.name d.settings.surrogateKey).equals
        (.ofTable d.base.name role.foreignKey) }
  | none => .error (.unrelatedTable owner.name d.base.name)

def hasJoin (d : Draft) (name : String) : Bool := d.joins.any (·.source.name == name)

def joinOwner (owner : Table) (d : Draft) : Outcome :=
  if owner.same d.base || d.hasJoin owner.name then ⟨d, none⟩
  else
    match d.joinOf owner with
    | .ok join => ⟨{ d with joins := d.joins ++ [join] }, none⟩
    | .error e => ⟨d, some e⟩

def joinOwners (p : Projection) (d : Draft) : Outcome := Outcome.each joinOwner p.owners d

def hasColumn (d : Draft) (name : String) : Bool := d.selected.any (·.name == name)

def selectColumn (p : Projection) (d : Draft) : Outcome :=
  if d.hasColumn p.name then ⟨d, none⟩
  else (d.joinOwners p).andThen fun d => ⟨{ d with selected := d.selected ++ [p] }, none⟩

def orderColumn (direction : Direction) (p : Projection) (d : Draft) : Outcome :=
  (d.joinOwners p).andThen fun d => ⟨{ d with ordering := d.ordering ++ [(p, direction)] }, none⟩

/-- Conditions on aggregated columns hold of groups, all others of rows. -/
def addFilter (f : Filter) (d : Draft) : Outcome :=
  (d.joinOwners f.column).andThen fun d =>
    if f.column.isAggregate then
      ⟨{ d with groupConditions := d.groupConditions ++ [f.condition] }, none⟩
    else ⟨{ d with conditions := d.conditions ++ [f.condition] }, none⟩

def selectOne (reference : String) (d : Draft) : Outcome :=
  match d.scope.parse reference with
  | .ok columns => Outcome.each selectColumn columns d
  | .error e => ⟨d, some e⟩

def filterOne (predicate : String) (d : Draft) : Outcome :=
  match d.scope.readFilter predicate with
  | .ok f => d.addFilter f
  | .error e => ⟨d, some e⟩

def orderOne (reference : String) (d : Draft) : Outcome :=
  let (path, direction) := readOrder reference
  match d.scope.parse path with
  | .ok columns => Outcome.each (orderColumn direction) columns d
  | .error e => ⟨d, some e⟩

def select (d : Draft) (references : List String) : Outcome := Outcome.each selectOne references d

def filter (d : Draft) (predicates : List String) : Outcome := Outcome.each filterOne predicates d

def order (d : Draft) (references : List String) : Outcome := Outcome.each orderOne references d

def withLimit (d : Draft) (rows : UInt64) : Draft := { d with limit := some rows }

end Draft

end StarQuery.Query
