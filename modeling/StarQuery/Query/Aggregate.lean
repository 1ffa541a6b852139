import StarQuery.Model.DataType
import StarQuery.Sql.Expr

/-! The operators that fold a group of values into one, and the columns that they suit. -/
namespace StarQuery.Query

open Model (DataType)

inductive Aggregate where
  | sum
  | avg
  | count
  | min
  | max
  | variance
  | stddev
  deriving DecidableEq

inductive Rejection where
  | notCountable
  | semiAdditive
  | notNumeric
  | alreadyAggregated
  deriving DecidableEq

def Rejection.message : Rejection → String
  | .notCountable => "column is not countable"
  | .semiAdditive => "semi-additive columns cannot be summed"
  | .notNumeric => "column is not numeric"
  | .alreadyAggregated => "column is already aggregated"

structure Profile where
  dataType : DataType
  semiAdditive : Bool
  countable : Bool
  deriving DecidableEq

namespace Aggregate

def all : List Aggregate := [.sum, .avg, .count, .min, .max, .variance, .stddev]

def keyword : Aggregate → String
  | .sum => "sum"
  | .avg => "avg"
  | .count => "count"
  | .min => "min"
  | .max => "max"
  | .variance => "variance"
  | .stddev => "stddev"

def ofKeyword? (keyword : String) : Option Aggregate :=
  all.find? fun op => Text.sameIgnoringAsciiCase op.keyword keyword

def ofKeyword (keyword : String) : Except String Aggregate :=
  match ofKeyword? keyword with
  | some op => .ok op
  | none => .error ("unknown aggregation: " ++ keyword)

/-- Variance and deviation are those of a sample. -/
def functionName : Aggregate → String
  | .sum => "SUM"
  | .avg => "AVG"
  | .count => "COUNT"
  | .min => "MIN"
  | .max => "MAX"
  | .variance => "VAR_SAMP"
  | .stddev => "STDDEV_SAMP"

def label : Aggregate → String
  | .sum => "Sum"
  | .avg => "Average"
  | .count => "Count"
  | .min => "Minimum"
  | .max => "Maximum"
  | .variance => "Variance"
  | .stddev => "Std. Deviation"

def needsNumbers : Aggregate → Bool
  | .sum | .avg | .variance | .stddev => true
  | .count | .min | .max => false

def rejection? (op : Aggregate) (profile : Profile) : Option Rejection :=
  if op = .count ∧ profile.countable = false then some .notCountable
  else if op = .sum ∧ profile.semiAdditive = true then some .semiAdditive
  else if op.needsNumbers ∧ profile.dataType.isNumeric = false then some .notNumeric
  else none

def apply (op : Aggregate) (e : Sql.Expr) : Sql.Expr := .function op.functionName e

def resultType (op : Aggregate) (dataType : DataType) : DataType :=
  match op with
  | .count => .integer
  | .avg | .variance | .stddev => .float
  | .sum | .min | .max => dataType

end Aggregate

end StarQuery.Query
