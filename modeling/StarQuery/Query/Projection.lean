import StarQuery.Model.Table
import StarQuery.Naming.Plural
import StarQuery.Query.Aggregate

/-!
The columns that references denote, and what each contributes to the clauses of a query. The key of
a dimension is its natural key, or the surrogate key if it has none; a dimension is shown by its
main identifier and grouped and counted by its key.
-/
namespace StarQuery.Query

open Model (Column DataType Table)
open Sql (Expr)

inductive Projection where
  | attribute (owner : Table) (column : Column)
  | dimension (owner : Table) (main : Option String) (key : String)
  | identifier (owner : Table) (column : Column) (key : String)
  | calculated (owner : Table) (column : Column)
  | aggregate (inner : Projection) (op : Aggregate)
  | pivoted (value pivot : Projection) (index : Nat) (key : Value)
  deriving DecidableEq

inductive Label where
  | plain (text : String)
  | cell (base : String) (key : Value)
  deriving DecidableEq

namespace Label

def base : Label → String
  | .plain text => text
  | .cell base _ => base

def withBase (base : String) : Label → Label
  | .plain _ => .plain base
  | .cell _ key => .cell base key

def display : Label → String
  | .plain text => text
  | .cell base key => base ++ " (" ++ key.display ++ ")"

end Label

namespace Projection

def cellExpr (pivot : Expr) (key : Value) (result : Expr) : Expr :=
  .caseWhen (pivot.equals (.ofValue key)) result

def countsDistinct : Projection → Bool
  | .dimension .. | .identifier .. => true
  | .pivoted value _ _ _ => value.countsDistinct
  | .attribute .. | .calculated .. | .aggregate .. => false

mutual

def expr : Projection → Expr
  | .attribute owner column | .identifier owner column _ => .ofTable owner.name column.name
  | .dimension owner main key => .ofTable owner.name (main.getD key)
  | .calculated owner column =>
    column.calculation.getD (.ofTable owner.name column.name)
  | .aggregate inner op =>
    if op = .count then .call "COUNT" inner.countsDistinct inner.countExpr
    else op.apply inner.expr
  | .pivoted value pivot _ key => cellExpr pivot.expr key value.expr

/-- The expression that counting goes by. -/
def countExpr : Projection → Expr
  | .dimension owner _ key | .identifier owner _ key => .ofTable owner.name key
  | .attribute owner column => .ofTable owner.name column.name
  | .calculated owner column =>
    column.calculation.getD (.ofTable owner.name column.name)
  | .aggregate inner op =>
    if op = .count then .call "COUNT" inner.countsDistinct inner.countExpr
    else op.apply inner.expr
  | .pivoted value pivot _ key => cellExpr pivot.expr key value.countExpr

end

def groupExpr? : Projection → Option Expr
  | .attribute owner column => some (.ofTable owner.name column.name)
  | .dimension owner _ key | .identifier owner _ key => some (.ofTable owner.name key)
  | .calculated .. | .aggregate .. | .pivoted .. => none

def name : Projection → String
  | .attribute owner column | .identifier owner column _ | .calculated owner column =>
    owner.name ++ "." ++ column.name
  | .dimension owner _ _ => owner.name
  | .aggregate inner op => inner.name ++ "." ++ op.keyword
  | .pivoted value pivot index _ =>
    value.name ++ "~" ++ pivot.name ++ "." ++ String.ofList (natDigits index)

def describe (op : Aggregate) (distinct : Bool) (base : String) : String :=
  if op = .count ∧ distinct = true then "No. of " ++ Naming.pluralizeLabel base
  else op.label ++ " of " ++ base

def label : Projection → Label
  | .attribute _ column | .identifier _ column _ | .calculated _ column => .plain column.label
  | .dimension owner _ _ => .plain owner.label
  | .aggregate inner op =>
    inner.label.withBase (describe op inner.countsDistinct inner.label.base)
  | .pivoted value _ _ key => .cell value.label.base key

def owners : Projection → List Table
  | .attribute owner _ | .dimension owner _ _ | .identifier owner _ _ | .calculated owner _ =>
    [owner]
  | .aggregate inner _ => inner.owners
  | .pivoted value pivot _ _ => value.owners ++ pivot.owners

def owner? : Projection → Option Table
  | .attribute owner _ | .dimension owner _ _ | .identifier owner _ _ | .calculated owner _ =>
    some owner
  | .aggregate .. | .pivoted .. => none

def hierarchyName? : Projection → Option String
  | .attribute _ column | .identifier _ column _ | .calculated _ column => some column.name
  | .dimension _ main key => some (main.getD key)
  | .aggregate .. | .pivoted .. => none

def isAggregate : Projection → Bool
  | .aggregate .. => true
  | .calculated _ column => column.calculation.any Expr.hasAggregate
  | .pivoted value _ _ _ => value.isAggregate
  | .attribute .. | .dimension .. | .identifier .. => false

def dataType : Projection → DataType
  | .attribute _ column | .identifier _ column _ | .calculated _ column => column.dataType
  | .dimension owner _ _ => (owner.dimension?.map (·.dataType)).getD .integer
  | .aggregate inner op => op.resultType inner.dataType
  | .pivoted value _ _ _ => value.dataType

def column? : Projection → Option Column
  | .attribute _ column | .identifier _ column _ | .calculated _ column => some column
  | .dimension .. | .aggregate .. | .pivoted .. => none

/-- What an operator sees of the column. The members of a dimension can always be counted. -/
def profile : Projection → Profile
  | .dimension owner main key =>
    ⟨(Projection.dimension owner main key).dataType, false, true⟩
  | .identifier _ column _ => ⟨column.dataType, false, true⟩
  | .attribute _ column | .calculated _ column =>
    ⟨column.dataType, column.semiAdditive, column.countable⟩
  | .pivoted value _ _ _ => value.profile
  | .aggregate inner op => ⟨(Projection.aggregate inner op).dataType, false, false⟩

/-- Whether grouping by `a` settles the value of `b`: both belong to one table, whose hierarchy says
so. -/
def determines (a b : Projection) : Bool :=
  match a.owner?, b.owner?, a.hierarchyName?, b.hierarchyName? with
  | some t, some u, some x, some y => t.same u && t.hierarchy.determines x y
  | _, _, _, _ => false

end Projection

end StarQuery.Query
