import StarQuery.Query.Aggregate
import StarQuery.Text.Shown

/-! What can be wrong with a query, by cause. -/
namespace StarQuery.Query

open Model (DataType)
open Text (quoted)

inductive DomainFault where
  | noColumn
  | noElements
  | tooWide (min max : Int64) (limit : UInt64)
  | emptyRange
  | unbounded
  deriving DecidableEq

inductive ReferenceFault where
  | repeatedPivot (reference : String)
  | pivotOnAggregate (column : String)
  | pivotOfAggregate (column : String)
  | malformedSegment (segment path : String)
  | unexpectedSegment (segment path : String)
  | tooManySegments (path : String)
  | factWithoutColumn (fact : String)
  | repeatedOperator (path : String)
  | nothingSelected
  | neitherGroupedNorAggregated (column : String)
  | orderNotSelected (column : String)
  deriving DecidableEq

inductive FilterFault where
  | noValues (predicate : String)
  | severalColumns (reference : String)
  | invalidValue (value predicate : String) (dataType : DataType)
  deriving DecidableEq

inductive CompileError where
  | unknownTable (name : String)
  | unknownColumn (table column : String)
  | unsupportedPivot (column : String) (fault : DomainFault)
  | unsuitedAggregate (op : Aggregate) (column : String) (rejection : Rejection)
  | invalidReference (fault : ReferenceFault)
  | invalidFilter (fault : FilterFault)
  | unrelatedTable (table base : String)
  deriving DecidableEq

def DomainFault.message : DomainFault → String
  | .noColumn => "no enumerable column"
  | .noElements => "column declares no elements"
  | .tooWide min max limit =>
    let range := intDigits min.toInt ++ ['.', '.', '='] ++ intDigits max.toInt
    "range " ++ String.ofList range ++ " exceeds " ++ String.ofList (natDigits limit.toNat) ++
      " values"
  | .emptyRange => "lower bound exceeds upper bound"
  | .unbounded => "integer range is unbounded"

def ReferenceFault.message : ReferenceFault → String
  | .repeatedPivot reference => reference ++ " pivots more than once"
  | .pivotOnAggregate column => "cannot pivot on aggregate " ++ column
  | .pivotOfAggregate column =>
    "cannot pivot aggregate " ++ column ++ "; apply the operator to the pivoted reference"
  | .malformedSegment segment path => quoted segment ++ " is not a valid segment of " ++ quoted path
  | .unexpectedSegment segment path =>
    "unexpected segment " ++ quoted segment ++ " in " ++ quoted path
  | .tooManySegments path => "too many segments in " ++ quoted path
  | .factWithoutColumn fact => fact ++ " is a fact; reference one of its columns"
  | .repeatedOperator path => quoted path ++ " carries more than one operator"
  | .nothingSelected => "no columns selected"
  | .neitherGroupedNorAggregated column =>
    column ++ " is neither grouped nor aggregated; apply an operator to it"
  | .orderNotSelected column =>
    "cannot order on " ++ column ++ " without selecting it in a grouped query"

def FilterFault.message : FilterFault → String
  | .noValues predicate => quoted predicate ++ " has no ':' before its values"
  | .severalColumns reference => quoted reference ++ " does not resolve to a single column"
  | .invalidValue value predicate dataType =>
    quoted value ++ " in " ++ quoted predicate ++ " is not a valid " ++ dataType.name ++ " value"

def CompileError.message : CompileError → String
  | .unknownTable name => "Unknown dimension: " ++ name
  | .unknownColumn table column => "Unknown column " ++ column ++ " on " ++ table
  | .unsupportedPivot column fault => "Cannot pivot on " ++ column ++ ": " ++ fault.message
  | .unsuitedAggregate op column rejection =>
    "Cannot apply " ++ op.keyword ++ " to " ++ column ++ ": " ++ rejection.message
  | .invalidReference fault => "Invalid reference: " ++ fault.message
  | .invalidFilter fault => "Invalid filter: " ++ fault.message
  | .unrelatedTable table base => "Table " ++ table ++ " cannot be joined to " ++ base

end StarQuery.Query
