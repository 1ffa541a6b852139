import StarQuery.Model.Column
import StarQuery.Model.Hierarchy

/-!
Dimensions, and the roles in which facts refer to them. A dimension is described by clauses; taking
one clause after another gives its definition.
-/
namespace StarQuery.Model

open Naming (humanize)

structure Dimension where
  name : String
  ownLabel : Option String := none
  columns : List Column := []
  identifiers : List String := []
  naturalKey : Option String := none
  hierarchy : Hierarchy := .empty
  deriving DecidableEq

inductive DimensionClause where
  | label (label : String)
  | column (c : Column)
  | identifier (column : String)
  | naturalKey (column : String)
  | identifiable
  | implies (element : String) (others : List String)
  | bidirectional (a b : String)

namespace Dimension

def usualNaturalKey : String := "original_id"

def named (name : String) : Dimension := { name }

def column? (d : Dimension) (name : String) : Option Column := d.columns.find? (·.name == name)

def withNaturalKey (d : Dimension) (column : String) : Dimension :=
  let columns :=
    if (d.column? column).isSome then d.columns
    else
      d.columns ++ [{ name := column, dataType := .integer, nullable := false, internal := true }]
  { d with columns, naturalKey := some column }

def extend (d : Dimension) : DimensionClause → Dimension
  | .label label => { d with ownLabel := some label }
  | .column c => { d with columns := d.columns ++ [c] }
  | .identifier column => { d with identifiers := d.identifiers ++ [column] }
  | .naturalKey column => d.withNaturalKey column
  | .identifiable => d.withNaturalKey usualNaturalKey
  | .implies element others => { d with hierarchy := d.hierarchy.implies element others }
  | .bidirectional a b => { d with hierarchy := d.hierarchy.bidirectional a b }

def define (name : String) (clauses : List DimensionClause) : Dimension :=
  clauses.foldl extend (named name)

def label (d : Dimension) : String := d.ownLabel.getD (humanize d.name)

def mainIdentifier (d : Dimension) : Option String := d.identifiers.head?

def isIdentifier (d : Dimension) (column : String) : Bool := d.identifiers.contains column

def isIdentifiable (d : Dimension) : Bool := d.naturalKey.isSome

/-- The type of the main identifier; members without one are known by a number. -/
def dataType (d : Dimension) : DataType :=
  ((d.mainIdentifier.bind d.column?).map (·.dataType)).getD .integer

end Dimension

/-- A fact's foreign key to a dimension, under the dimension's own name or in a role of its own. -/
structure Role where
  dimension : Dimension
  name : String
  ownForeignKey : Option String := none
  deriving DecidableEq

namespace Role

def ofDimension (dimension : Dimension) : Role := { dimension, name := dimension.name }

def foreignKeySuffix : String := "_dimension_id"

def foreignKey (r : Role) : String := r.ownForeignKey.getD (r.name ++ foreignKeySuffix)

def isRenamed (r : Role) : Bool := r.name != r.dimension.name

def label (r : Role) : String := if r.isRenamed then humanize r.name else r.dimension.label

def dataType (r : Role) : DataType := r.dimension.dataType

end Role

end StarQuery.Model
