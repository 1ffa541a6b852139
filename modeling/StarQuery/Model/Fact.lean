import StarQuery.Model.Dimension

/-! Facts: tables of measured events with their dimensions. -/
namespace StarQuery.Model

structure Fact where
  name : String
  ownLabel : Option String := none
  roles : List Role := []
  degenerates : List Column := []
  measures : List Column := []
  hierarchy : Hierarchy := .empty
  deriving DecidableEq

inductive FactClause where
  | label (label : String)
  | role (r : Role)
  | degenerate (c : Column)
  | measure (c : Column)
  | implies (element : String) (others : List String)
  | bidirectional (a b : String)

inductive FactColumn where
  | dimension (r : Role)
  | degenerate (c : Column)
  | measure (c : Column)

namespace FactColumn

def name : FactColumn → String
  | .dimension r => r.name
  | .degenerate c | .measure c => c.name

def column? : FactColumn → Option Column
  | .dimension _ => none
  | .degenerate c | .measure c => some c

end FactColumn

namespace Fact

def named (name : String) : Fact := { name }

def extend (f : Fact) : FactClause → Fact
  | .label label => { f with ownLabel := some label }
  | .role r => { f with roles := f.roles ++ [r] }
  | .degenerate c => { f with degenerates := f.degenerates ++ [c] }
  | .measure c => { f with measures := f.measures ++ [c] }
  | .implies element others => { f with hierarchy := f.hierarchy.implies element others }
  | .bidirectional a b => { f with hierarchy := f.hierarchy.bidirectional a b }

def define (name : String) (clauses : List FactClause) : Fact :=
  clauses.foldl extend (named name)

def label (f : Fact) : String := f.ownLabel.getD (Naming.humanize f.name)

def columns (f : Fact) : List FactColumn :=
  f.roles.map .dimension ++ f.degenerates.map .degenerate ++ f.measures.map .measure

def column? (f : Fact) (name : String) : Option FactColumn := f.columns.find? (·.name == name)

def role? (f : Fact) (name : String) : Option Role := f.roles.find? (·.name == name)

def isFactless (f : Fact) : Bool := f.measures.isEmpty

end Fact

end StarQuery.Model
