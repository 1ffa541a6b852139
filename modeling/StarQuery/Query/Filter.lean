import StarQuery.Number.Reading
import StarQuery.Query.Reference

/-!
Filters: a reference to one column, a colon and the values that the column may have. The values are
read by the type of the column.
-/
namespace StarQuery.Query

open Model (DataType)
open Sql (Expr)

structure Filter where
  column : Projection
  values : List Value
  deriving DecidableEq

/-- Equal to the value if there is one, else among the values. -/
def Filter.condition (f : Filter) : Expr :=
  match f.values with
  | [value] => f.column.expr.equals (.ofValue value)
  | values => .isIn f.column.expr (values.map .ofValue)

def readBool? (raw : String) : Option Bool :=
  if ["true", "t", "1", "yes"].any (Text.sameIgnoringAsciiCase · raw) then some true
  else if ["false", "f", "0", "no"].any (Text.sameIgnoringAsciiCase · raw) then some false
  else none

/-- A value of the given type. It is never empty, and a number has to be finite. -/
def readValue? (dataType : DataType) (raw : String) : Option Value :=
  if raw.isEmpty then none
  else
    match dataType with
    | .integer | .year => (readInt64? raw.toList).map .int
    | .decimal | .float | .money | .percent =>
      ((readDouble? raw.toList).filter (·.isFinite)).map .float
    | .boolean => (readBool? raw).map .bool
    | .string | .text | .date | .dateTime | .timestamp | .time | .binary => some (.text raw)

def readValue (dataType : DataType) (predicate raw : String) : Except CompileError Value :=
  match readValue? dataType raw with
  | some value => .ok value
  | none => .error (.invalidFilter (.invalidValue raw predicate dataType))

def Scope.single (s : Scope) (reference : String) : Except CompileError Projection := do
  match ← s.parse reference with
  | [column] => .ok column
  | _ => .error (.invalidFilter (.severalColumns reference))

/-- Values are separated by commas and trimmed; the first that is not valid is the error. -/
def Scope.readFilter (s : Scope) (predicate : String) : Except CompileError Filter :=
  match Text.cut ':' predicate with
  | none => .error (.invalidFilter (.noValues predicate))
  | some (reference, values) => do
    let column ← s.single reference
    let values ← ((Text.split ',' values).map Text.trim).mapM (readValue column.dataType predicate)
    .ok { column, values }

end StarQuery.Query
