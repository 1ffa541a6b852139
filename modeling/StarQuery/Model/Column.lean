import StarQuery.Model.DataType
import StarQuery.Naming.TitleCase
import StarQuery.Sql.Expr

/-! Columns of facts and dimensions, as a model declares them. -/
namespace StarQuery.Model

open Sql (Expr)

structure Column where
  name : String
  dataType : DataType
  ownLabel : Option String := none
  min : Option Int64 := none
  max : Option Int64 := none
  elements : Option (List Value) := none
  nullable : Bool := true
  countable : Bool := false
  semiAdditive : Bool := false
  descriptive : Bool := false
  internal : Bool := false
  calculation : Option Expr := none
  deriving DecidableEq

namespace Column

def ofType (name : String) (dataType : DataType) : Column := { name, dataType }

def withLabel (c : Column) (label : String) : Column := { c with ownLabel := some label }

/-- Only a numeric column has bounds; any other stays as it is. -/
def withBounds (c : Column) (min max : Option Int64) : Column :=
  if c.dataType.isNumeric then { c with min, max } else c

def withElements (c : Column) (elements : List Value) : Column :=
  { c with elements := some elements }

def calculated (c : Column) (e : Expr) : Column := { c with calculation := some e }

def label (c : Column) : String := c.ownLabel.getD (Naming.humanize c.name)

def unsigned (c : Column) : Bool := c.dataType.isNumeric && c.min.any (0 ≤ ·)

def isVirtual (c : Column) : Bool := c.calculation.isSome

def calculationsAgree : Option Expr → Option Expr → Bool
  | none, none => true
  | some a, some b => a.agrees b
  | _, _ => false

/-- Whether two columns agree in every attribute. Declared elements are compared as values and the
floats of a calculation as numbers. -/
def agrees (c d : Column) : Bool :=
  decide ({ c with calculation := none } = { d with calculation := none }) &&
    calculationsAgree c.calculation d.calculation

end Column

end StarQuery.Model
