import StarQuery.Query.Draft

/-!
The statement of a query. A query is grouped as soon as a column takes part in grouping or an
aggregate occurs; then every selected column has to be grouped or aggregated. A column that another
one determines is left out of the grouping and shown by its maximum, which is its only value in a
group.
-/
namespace StarQuery.Query

open Sql (Direction Expr Item OrderTerm Statement)

structure Plan where
  statement : Statement
  columns : List Projection
  deriving DecidableEq

def Plan.names (p : Plan) : List String := p.columns.map Projection.name

def Plan.labels (p : Plan) : List (String × Label) := p.columns.map fun c => (c.name, c.label)

def conjunction : List Expr → Option Expr
  | [] => none
  | e :: rest => some (rest.foldl (fun all e => .binary .and all e) e)

/-- Adds a candidate to the grouped columns unless one of them determines it, and takes out those
that it determines. -/
def keep (kept : List Projection) (candidate : Projection) : List Projection :=
  if kept.any (·.determines candidate) then kept
  else kept.filter (fun k => !candidate.determines k) ++ [candidate]

def appendNew (all : List Expr) (e : Expr) : List Expr := if e ∈ all then all else all ++ [e]

def groupingOf (p : Projection) : List Expr := p.groupExpr?.toList ++ [p.expr]

def groupings (kept : List Projection) : List Expr := (kept.flatMap groupingOf).foldl appendNew []

/-- A column that would be grouped by, were it not determined by another, has one value in a group,
and its maximum gives it. -/
def itemOf (grouped : Bool) (kept : List Projection) (p : Projection) : Item :=
  let isImplied := grouped && p.groupExpr?.isSome && !kept.any (·.name == p.name)
  ⟨if isImplied then Aggregate.max.apply p.expr else p.expr, p.name⟩

/-- A selected column is ordered by as it is shown; a grouped query is not ordered by others, unless
they are aggregates. -/
def orderTermOf (grouped : Bool) (items : List Item) (term : Projection × Direction) :
    Except CompileError OrderTerm :=
  let (p, direction) := term
  match items.find? (·.name == p.name) with
  | some item => .ok ⟨item.expr, direction⟩
  | none =>
    if grouped && !p.isAggregate then .error (.invalidReference (.orderNotSelected p.name))
    else .ok ⟨p.expr, direction⟩

namespace Draft

def isGrouped (d : Draft) : Bool :=
  !d.groupConditions.isEmpty ||
    d.selected.any (fun p => p.groupExpr?.isSome || p.isAggregate) ||
    d.ordering.any (·.1.isAggregate)

def groupedColumns (d : Draft) : List Projection :=
  (d.selected.filter (·.groupExpr?.isSome)).foldl keep []

def looseColumn? (d : Draft) : Option Projection :=
  d.selected.find? fun p => p.groupExpr?.isNone && !p.isAggregate

def checkSelection (d : Draft) : Except CompileError Unit :=
  if d.selected.isEmpty then .error (.invalidReference .nothingSelected)
  else
    match d.isGrouped, d.looseColumn? with
    | true, some p => .error (.invalidReference (.neitherGroupedNorAggregated p.name))
    | _, _ => .ok ()

def plan (d : Draft) : Except CompileError Plan := do
  d.checkSelection
  let kept := if d.isGrouped then d.groupedColumns else []
  let items := d.selected.map (itemOf d.isGrouped kept)
  let orderBy ← d.ordering.mapM (orderTermOf d.isGrouped items)
  .ok {
    statement := {
      source := d.base.source
      items
      joins := d.joins
      condition := conjunction d.conditions
      groupBy := groupings kept
      having := conjunction d.groupConditions
      orderBy
      limit := d.limit }
    columns := d.selected }

end Draft

end StarQuery.Query
