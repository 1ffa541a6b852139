import StarQuery.Model.Fact

/-!
The registered tables of a model. Registering checks a table against the rules of a model and
against the tables already there; a table that breaks one is refused and the schema stays as it
is.
-/
namespace StarQuery.Model

inductive SchemaError where
  | duplicateTable (table : String)
  | duplicateColumn (table column : String)
  | unknownIdentifier (dimension column : String)
  | unknownHierarchyColumn (table column : String)
  | unregisteredDimension (fact dimension : String)
  deriving DecidableEq

def SchemaError.message : SchemaError → String
  | .duplicateTable table => "Table already defined: " ++ table
  | .duplicateColumn table column =>
    "Column " ++ column ++ " defined more than once on " ++ table
  | .unknownIdentifier dimension column =>
    "Identifier " ++ column ++ " is not a column of dimension " ++ dimension
  | .unknownHierarchyColumn table column =>
    "Hierarchy element " ++ column ++ " is not a column of " ++ table
  | .unregisteredDimension fact dimension =>
    "Fact " ++ fact ++ " references unregistered dimension " ++ dimension

structure Schema where
  facts : List Fact := []
  dimensions : List Dimension := []

def firstRepeated (seen : List String) : List String → Option String
  | [] => none
  | name :: names => if name ∈ seen then some name else firstRepeated (name :: seen) names

def refuse (complaint : Option String) (error : String → SchemaError) : Except SchemaError Unit :=
  match complaint with
  | none => .ok ()
  | some name => .error (error name)

namespace Schema

def empty : Schema := {}

def fact? (s : Schema) (name : String) : Option Fact := s.facts.find? (·.name == name)

def dimension? (s : Schema) (name : String) : Option Dimension :=
  s.dimensions.find? (·.name == name)

def hasTable (s : Schema) (name : String) : Bool :=
  (s.fact? name).isSome || (s.dimension? name).isSome

def checkName (s : Schema) (name : String) : Except SchemaError Unit :=
  if s.hasTable name then .error (.duplicateTable name) else .ok ()

/-- Checks in this order: a free name, distinct columns, identifiers and hierarchy elements that are
columns. -/
def addDimension (s : Schema) (d : Dimension) : Except SchemaError Schema := do
  s.checkName d.name
  refuse (firstRepeated [] (d.columns.map (·.name))) (.duplicateColumn d.name)
  refuse (d.identifiers.find? fun i => (d.column? i).isNone) (.unknownIdentifier d.name)
  refuse (d.hierarchy.elements.find? fun e => (d.column? e).isNone) (.unknownHierarchyColumn d.name)
  .ok { s with dimensions := s.dimensions ++ [d] }

/-- Checks in this order: a free name, distinct columns, roles of registered dimensions and
hierarchy elements that are columns. -/
def addFact (s : Schema) (f : Fact) : Except SchemaError Schema := do
  s.checkName f.name
  refuse (firstRepeated [] (f.columns.map (·.name))) (.duplicateColumn f.name)
  refuse ((f.roles.map (·.dimension.name)).find? fun d => (s.dimension? d).isNone)
    (.unregisteredDimension f.name)
  refuse (f.hierarchy.elements.find? fun e => (f.column? e).isNone) (.unknownHierarchyColumn f.name)
  .ok { s with facts := s.facts ++ [f] }

end Schema

end StarQuery.Model
