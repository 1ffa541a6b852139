/-! The types of columns, independent of any database. -/
namespace StarQuery.Model

inductive DataType where
  | integer
  | string
  | text
  | date
  | dateTime
  | timestamp
  | time
  | decimal
  | float
  | money
  | percent
  | boolean
  | binary
  | year
  deriving DecidableEq

namespace DataType

def all : List DataType :=
  [.integer, .string, .text, .date, .dateTime, .timestamp, .time, .decimal, .float, .money,
    .percent, .boolean, .binary, .year]

def name : DataType → String
  | .integer => "Integer"
  | .string => "String"
  | .text => "Text"
  | .date => "Date"
  | .dateTime => "DateTime"
  | .timestamp => "Timestamp"
  | .time => "Time"
  | .decimal => "Decimal"
  | .float => "Float"
  | .money => "Money"
  | .percent => "Percent"
  | .boolean => "Boolean"
  | .binary => "Binary"
  | .year => "Year"

def keyword : DataType → String
  | .integer => "integer"
  | .string => "string"
  | .text => "text"
  | .date => "date"
  | .dateTime => "date_time"
  | .timestamp => "timestamp"
  | .time => "time"
  | .decimal => "decimal"
  | .float => "float"
  | .money => "money"
  | .percent => "percent"
  | .boolean => "boolean"
  | .binary => "binary"
  | .year => "year"

def ofKeyword? (keyword : String) : Option DataType := all.find? (·.keyword == keyword)

def isNumeric : DataType → Bool
  | .integer | .decimal | .float | .money | .percent | .year => true
  | _ => false

/-- Types of whole numbers: a bounded range of them can be listed. -/
def isIntegral : DataType → Bool
  | .integer | .year => true
  | _ => false

def isTemporal : DataType → Bool
  | .date | .dateTime | .timestamp | .time => true
  | _ => false

end DataType

end StarQuery.Model
