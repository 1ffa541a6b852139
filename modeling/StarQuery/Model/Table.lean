import StarQuery.Model.Schema
import StarQuery.Sql.Statement

/-!
A table as a query sees it. A dimension that is reached through a role is kept apart from the
dimension itself, because it has the name of the role.
-/
namespace StarQuery.Model

inductive Table where
  | fact (f : Fact)
  | dimension (d : Dimension)
  | role (r : Role)
  deriving DecidableEq

namespace Table

def name : Table → String
  | .fact f => f.name
  | .dimension d => d.name
  | .role r => r.name

def physicalName : Table → String
  | .fact f => f.name
  | .dimension d => d.name
  | .role r => r.dimension.name

def label : Table → String
  | .fact f => f.label
  | .dimension d => d.label
  | .role r => r.label

def hierarchy : Table → Hierarchy
  | .fact f => f.hierarchy
  | .dimension d => d.hierarchy
  | .role r => r.dimension.hierarchy

def dimension? : Table → Option Dimension
  | .fact _ => none
  | .dimension d => some d
  | .role r => some r.dimension

def fact? : Table → Option Fact
  | .fact f => some f
  | _ => none

/-- The plain column of that name; a role of a fact is none. -/
def column? (t : Table) (name : String) : Option Column :=
  match t with
  | .fact f => (f.column? name).bind FactColumn.column?
  | .dimension d => d.column? name
  | .role r => r.dimension.column? name

def source (t : Table) : Sql.Source :=
  ⟨t.physicalName, if t.name = t.physicalName then none else some t.name⟩

/-- Two tables are the same in a query when they agree in both names. -/
def same (t u : Table) : Bool := t.name == u.name && t.physicalName == u.physicalName

theorem source_name (t : Table) : t.source.name = t.name := by
  by_cases h : t.name = t.physicalName <;> simp [source, Sql.Source.name, h]

end Table

def Schema.table? (s : Schema) (name : String) : Option Table :=
  match s.fact? name with
  | some f => some (.fact f)
  | none => (s.dimension? name).map .dimension

end StarQuery.Model
