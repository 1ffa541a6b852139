import StarQuery.Sql.Statement

/-!
The values of expressions, in a row and in a group of rows. Operators, functions and the aggregates
other than the maximum are left open. Main statement: the maximum over a group is the value in each
of its rows, if that is the same in all of them.
-/
namespace StarQuery.Sql

abbrev Row := Option String → String → Value

/-- What a database computes by operators and functions. -/
structure Interpretation where
  operator : Operator → Value → Value → Value
  function : String → Value → Value
  aggregate : String → Bool → List Value → Value
  isIn : Value → List Value → Value

def Literal.value : Literal → Value
  | .int n => .int n
  | .float x => .float x
  | .text s => .text s
  | .bool b => .bool b
  | .null => .null

def greater (a b : Value) : Value :=
  if a = .null then b else if b = .null then a else if Value.order a b = .lt then b else a

def maximum (values : List Value) : Value := values.foldl greater .null

namespace Expr

mutual

def value (i : Interpretation) (row : Row) : Expr → Value
  | .column table name => row table name
  | .literal l => l.value
  | .binary op left right => i.operator op (left.value i row) (right.value i row)
  | .call name _ argument => i.function name (argument.value i row)
  | .caseWhen condition result =>
    if condition.value i row = .bool true then result.value i row else .null
  | .isIn subject choices => i.isIn (subject.value i row) (values i row choices)

def values (i : Interpretation) (row : Row) : List Expr → List Value
  | [] => []
  | choice :: choices => choice.value i row :: values i row choices

end

def foldValues (i : Interpretation) (name : String) (distinct : Bool) (vs : List Value) : Value :=
  if Text.sameIgnoringAsciiCase "MAX" name then maximum vs else i.aggregate name distinct vs

mutual

/-- The value in a group of rows; a column outside of aggregates has the value of the first row. -/
def groupValue (i : Interpretation) (group : List Row) : Expr → Value
  | .column table name => (group.head?.map fun row => row table name).getD .null
  | .literal l => l.value
  | .binary op left right => i.operator op (left.groupValue i group) (right.groupValue i group)
  | .call name distinct argument =>
    if isAggregateName name then
      foldValues i name distinct (group.map fun row => argument.value i row)
    else i.function name (argument.groupValue i group)
  | .caseWhen condition result =>
    if condition.groupValue i group = .bool true then result.groupValue i group else .null
  | .isIn subject choices => i.isIn (subject.groupValue i group) (groupValues i group choices)

def groupValues (i : Interpretation) (group : List Row) : List Expr → List Value
  | [] => []
  | choice :: choices => choice.groupValue i group :: groupValues i group choices

end

end Expr

theorem greater_self (v : Value) : greater v v = v := by
  simp only [greater, ite_self]

theorem foldl_greater_const {vs : List Value} {v : Value} (same : ∀ x ∈ vs, x = v) :
    vs.foldl greater v = v := by
  induction vs with
  | nil => rfl
  | cons x vs ih =>
    rw [List.foldl_cons, same x List.mem_cons_self, greater_self]
    exact ih fun y hy => same y (List.mem_cons_of_mem x hy)

theorem maximum_const {vs : List Value} {v : Value} (some : vs ≠ []) (same : ∀ x ∈ vs, x = v) :
    maximum vs = v := by
  cases vs with
  | nil => exact absurd rfl some
  | cons x vs =>
    rw [maximum, List.foldl_cons, same x List.mem_cons_self]
    exact foldl_greater_const fun y hy => same y (List.mem_cons_of_mem x hy)

namespace Expr

variable {i : Interpretation} {group : List Row}

theorem groupValue_column {table : Option String} {name : String} {row : Row} (member : row ∈ group)
    (same : ∀ r ∈ group, r table name = row table name) :
    (column table name).groupValue i group = row table name := by
  cases group with
  | nil => cases member
  | cons r rest => exact same r List.mem_cons_self

theorem groupValue_max {e : Expr} {row : Row} (member : row ∈ group)
    (same : ∀ r ∈ group, e.value i r = e.value i row) :
    (function "MAX" e).groupValue i group = e.value i row := by
  have isMax : Text.sameIgnoringAsciiCase "MAX" "MAX" = true := by decide +kernel
  have isAggregate : isAggregateName "MAX" = true := by decide +kernel
  rw [function, groupValue, if_pos isAggregate, foldValues, if_pos isMax]
  refine maximum_const (by simpa using List.ne_nil_of_mem member) ?_
  intro v hv
  obtain ⟨r, hr, rfl⟩ := List.mem_map.mp hv
  exact same r hr

end Expr

end StarQuery.Sql
