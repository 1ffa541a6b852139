import StarQuery.Query.Error
import StarQuery.Query.Projection
import StarQuery.Settings.Basic
import StarQuery.Text.Pieces

/-!
References: what the paths in a query denote. A path is an optional operator, a table, the name of a
role if the table is a fact, a column, and an optional operator; it has one operator at most. Two
paths with a tilde between them make a crosstab, one column for each value of the second.
-/
namespace StarQuery.Query

open Model (Column Dimension Schema Table)
open Settings (CompilerSettings)

/-- What the first name of a path can refer to, and how keys are named. -/
structure Scope where
  schema : Schema
  base : Option Table := none
  settings : CompilerSettings := {}

structure Target where
  projection : Projection
  operator : Option Aggregate
  deriving DecidableEq

def isNameStart (c : Char) : Bool := c.isAlpha || c == '_'

def isNamePart (c : Char) : Bool := c.isAlphanum || c == '_'

def isName : List Char → Bool
  | [] => false
  | c :: rest => isNameStart c && rest.all isNamePart

def segments (path : String) : List String := (Text.split '.' path).map Text.trim

def withOperator (path : String) (leading : Option Aggregate) (trailing : Aggregate) :
    Except CompileError (Option Aggregate) :=
  match leading with
  | some _ => .error (.invalidReference (.repeatedOperator path))
  | none => .ok (some trailing)

def applyOperator (p : Projection) : Option Aggregate → Except CompileError Projection
  | none => .ok p
  | some op =>
    if p.isAggregate then .error (.unsuitedAggregate op p.name .alreadyAggregated)
    else
      match op.rejection? p.profile with
      | some rejection => .error (.unsuitedAggregate op p.name rejection)
      | none => .ok (.aggregate p op)

/-- From a fact on to one of its roles, if that is what the next name means. -/
def enterRole (owner : Table) (names : List String) : Table × List String :=
  match owner, names with
  | .fact f, name :: rest =>
    match f.role? name with
    | some r => (.role r, rest)
    | none => (owner, names)
  | _, _ => (owner, names)

def valuesFrom (min : Int) (count : Nat) : List Value :=
  (List.range count).map fun i => .int (Int64.ofInt (min + (i : Nat)))

def pivotColumn? : Projection → Option Column
  | .dimension owner main _ => do (← owner.dimension?).column? (← main)
  | p => p.column?

/-- The values of a column as its declaration lists them: declared elements, else both truth values,
else the whole numbers between its bounds, which may lie at most `limit` apart. -/
def domain (limit : UInt64) (c : Column) : Except DomainFault (List Value) :=
  match c.elements with
  | some elements => .ok elements
  | none =>
    if c.dataType = .boolean then .ok [.bool true, .bool false]
    else if !c.dataType.isIntegral then .error .noElements
    else
      match c.min, c.max with
      | some min, some max =>
        if max < min then .error .emptyRange
        else
          let span := max.toInt - min.toInt
          if limit.toNat < span then .error (.tooWide min max limit)
          else .ok (valuesFrom min.toInt (span.toNat + 1))
      | _, _ => .error .unbounded

namespace Scope

def table? (s : Scope) (name : String) : Option Table :=
  match s.base with
  | none => s.schema.table? name
  | some base =>
    if base.name = name then some base
    else
      match (base.fact?).bind (·.role? name) with
      | some r => some (.role r)
      | none => s.schema.table? name

def table (s : Scope) (name : String) : Except CompileError Table :=
  match s.table? name with
  | some t => .ok t
  | none => .error (.unknownTable name)

def keyOf (s : Scope) (d : Dimension) : String := d.naturalKey.getD s.settings.surrogateKey

def wholeTable (s : Scope) (owner : Table) : Except CompileError Projection :=
  match owner.dimension? with
  | some d => .ok (.dimension owner d.mainIdentifier (s.keyOf d))
  | none => .error (.invalidReference (.factWithoutColumn owner.name))

def identified? (owner : Table) (c : Column) : Option Dimension :=
  owner.dimension?.filter fun d => d.isIdentifiable && d.isIdentifier c.name

def columnOf (s : Scope) (owner : Table) (c : Column) : Projection :=
  match identified? owner c with
  | some d => .identifier owner c (s.keyOf d)
  | none => if c.isVirtual then .calculated owner c else .attribute owner c

/-- The operator in front of a path. A name that refers to a table is not taken for one, nor is the
only name of a path. -/
def leadingOperator (s : Scope) : List String → Option Aggregate × List String
  | first :: second :: rest =>
    match s.table? first, Aggregate.ofKeyword? first with
    | none, some op => (some op, second :: rest)
    | _, _ => (none, first :: second :: rest)
  | names => (none, names)

/-- What the names after the table denote: a column with at most one name after it, which has to be
an operator; or nothing, for the dimension as a whole. Any operator right after a dimension counts
its members. -/
def denote (s : Scope) (path : String) (leading : Option Aggregate) (owner : Table) :
    List String → Except CompileError Target
  | [] => do .ok ⟨← s.wholeTable owner, leading⟩
  | name :: rest =>
    match owner.column? name with
    | some c =>
      match rest with
      | [] => .ok ⟨s.columnOf owner c, leading⟩
      | [trailing] =>
        match Aggregate.ofKeyword? trailing with
        | some op => do .ok ⟨s.columnOf owner c, ← withOperator path leading op⟩
        | none => .error (.invalidReference (.unexpectedSegment trailing path))
      | _ => .error (.invalidReference (.tooManySegments path))
    | none =>
      match Aggregate.ofKeyword? name, rest with
      | some _, [] => do
        let op ← withOperator path leading .count
        .ok ⟨← s.wholeTable owner, op⟩
      | _, _ => .error (.unknownColumn owner.name name)

def resolve (s : Scope) (path : String) : Except CompileError Target :=
  match (segments path).find? fun name => !isName name.toList with
  | some name => .error (.invalidReference (.malformedSegment name path))
  | none => do
    let (leading, names) := s.leadingOperator (segments path)
    let first ← s.table (names.headD "")
    let (owner, rest) := enterRole first names.tail
    s.denote path leading owner rest

def pivotDomain (s : Scope) (pivot : Projection) : Except CompileError (List Value) :=
  match pivotColumn? pivot with
  | none => .error (.unsupportedPivot pivot.name .noColumn)
  | some c => (domain s.settings.maxPivotSpan c).mapError (.unsupportedPivot pivot.name)

def crosstab (s : Scope) (value pivot : String) : Except CompileError (List Projection) := do
  let value ← s.resolve value
  let pivot ← s.resolve pivot
  if pivot.operator.isSome || pivot.projection.isAggregate then
    .error (.invalidReference (.pivotOnAggregate pivot.projection.name))
  else if value.projection.isAggregate then
    .error (.invalidReference (.pivotOfAggregate value.projection.name))
  else
    let keys ← s.pivotDomain pivot.projection
    keys.zipIdx.mapM fun (key, index) =>
      applyOperator (.pivoted value.projection pivot.projection index key) value.operator

def parse (s : Scope) (reference : String) : Except CompileError (List Projection) :=
  match (Text.split '~' reference).map Text.trim with
  | [path] => do
    let target ← s.resolve path
    .ok [← applyOperator target.projection target.operator]
  | [value, pivot] => s.crosstab value pivot
  | _ => .error (.invalidReference (.repeatedPivot reference))

end Scope

end StarQuery.Query
