import StarQuery.Number.Notation
import StarQuery.Text.Pieces
import StarQuery.Text.Casing

/-!
What differs between the four databases: quoting of names and texts, truth values, row limits and
the names of the sample statistics.
-/
namespace StarQuery.Sql

inductive Dialect where
  | duckDb
  | postgres
  | mySql
  | tSql
  deriving DecidableEq

def doubled (close : Char) (cs : List Char) : List Char :=
  cs.flatMap fun c => if c = close then [c, c] else [c]

namespace Dialect

def all : List Dialect := [.duckDb, .postgres, .mySql, .tSql]

def name : Dialect → String
  | .duckDb => "duckdb"
  | .postgres => "postgres"
  | .mySql => "mysql"
  | .tSql => "tsql"

def nameQuotes : Dialect → Char × Char
  | .duckDb => ('"', '"')
  | .postgres => ('"', '"')
  | .mySql => ('\x60', '\x60')
  | .tSql => ('[', ']')

def quoteName (d : Dialect) (name : String) : List Char :=
  d.nameQuotes.1 :: doubled d.nameQuotes.2 name.toList ++ [d.nameQuotes.2]

def isAscii (s : String) : Bool := s.toList.all (·.toNat < 128)

/-- T-SQL marks a text with characters beyond ASCII by a leading `N`. -/
def textMark : Dialect → String → List Char
  | .tSql, s => if isAscii s then [] else ['N']
  | _, _ => []

def quoteText (d : Dialect) (s : String) : List Char :=
  d.textMark s ++ '\'' :: doubled '\'' s.toList ++ ['\'']

def boolText : Dialect → Bool → String
  | .duckDb, b | .postgres, b => if b then "true" else "false"
  | .mySql, b | .tSql, b => if b then "1" else "0"

/-- In T-SQL a limit stands after an order, so one is made up where there is none. -/
def limitText (d : Dialect) (rows : UInt64) (ordered : Bool) : List Char :=
  match d with
  | .tSql =>
    (if ordered then [] else "ORDER BY (SELECT NULL)\n".toList) ++
      "OFFSET 0 ROWS FETCH NEXT ".toList ++ natDigits rows.toNat ++ " ROWS ONLY".toList
  | _ => "LIMIT ".toList ++ natDigits rows.toNat

def functionName? : Dialect → String → Option String
  | .tSql, name =>
    if Text.upper name = "VAR_SAMP" then some "VAR"
    else if Text.upper name = "STDDEV_SAMP" then some "STDEV"
    else none
  | _, _ => none

/-- The dialect of a name, whatever its case and the blanks around it; failing that the name as it
was compared. -/
def ofName (name : String) : Except String Dialect :=
  let wanted := Text.lower (Text.trim name)
  if wanted = "duckdb" then .ok .duckDb
  else if wanted = "postgres" ∨ wanted = "postgresql" then .ok .postgres
  else if wanted = "mysql" then .ok .mySql
  else if wanted = "tsql" ∨ wanted = "mssql" ∨ wanted = "sqlserver" then .ok .tSql
  else .error wanted

end Dialect

end StarQuery.Sql
