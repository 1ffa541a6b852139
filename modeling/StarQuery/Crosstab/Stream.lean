import StarQuery.Crosstab.Cell
import StarQuery.Settings.Basic
import StarQuery.Text.Pieces

/-!
Reshaping rows into a crosstab, one block at a time. A block is a run of rows that agree in all keys
but the value key and the pivot keys. A block is given out as soon as the first row of the next one
has been read, so at most one row beyond it is consumed.
-/
namespace StarQuery.Crosstab

open Settings (PivotSettings)

inductive PivotError where
  | noPivotKeys
  | pivotOnValueKey (key : String)
  | unsorted (block : List (String × Value))
  | notAnObject (document : String)
  deriving DecidableEq

def entryText (entry : String × Value) : List Char :=
  entry.1.toList ++ '=' :: entry.2.display.toList

def blockText (block : List (String × Value)) : String :=
  String.ofList (Text.joinChars [',', ' '] (block.map entryText))

def PivotError.message : PivotError → String
  | .noPivotKeys => "At least one pivot key is required"
  | .pivotOnValueKey key => "Pivot key " ++ key ++ " is also the value key"
  | .unsorted block =>
    "Rows are not sorted: block [" ++ blockText block ++ "] reappears after it was closed"
  | .notAnObject document => "Expected a JSON object row, got " ++ document

def Row.ofJson (j : Json) : Except PivotError Row :=
  match Row.ofJson? j with
  | some row => .ok row
  | none => .error (.notAnObject j.compact)

/-- The values seen so far, ascending: one list for a single pivot key, or a list for each. -/
inductive PivotColumns where
  | single (values : List Value)
  | multiple (values : List (List Value))
  deriving DecidableEq

structure Block where
  identity : List Value
  cells : Cells

structure Stream where
  rows : List Row
  pivotKeys : List String
  options : PivotSettings := {}
  identifying? : Option (List String) := none
  observed : List (List Value)
  current : Option Block := none
  /-- The identities of the blocks given out, if they have to be distinct. -/
  closed : List (List Value) := []
  pending : Option PivotError := none
  finished : Bool := false

abbrev Event := Except PivotError PivotRow

namespace Stream

def start (rows : List Row) (pivotKeys : List String) (options : PivotSettings) :
    Except PivotError Stream :=
  if pivotKeys.isEmpty then .error .noPivotKeys
  else
    match pivotKeys.find? (· == options.valueKey) with
    | some key => .error (.pivotOnValueKey key)
    | none => .ok { rows, pivotKeys, options, observed := pivotKeys.map fun _ => [] }

def pivotColumns (s : Stream) : PivotColumns :=
  match s.observed with
  | [values] => .single values
  | values => .multiple values

def otherColumns (s : Stream) : List String := s.identifying?.getD []

def identifyingKeys (s : Stream) (row : Row) : List String :=
  row.keys.filter fun key => key != s.options.valueKey && !s.pivotKeys.contains key

def observe (row : Row) (s : Stream) : Stream :=
  { s with
    identifying? := some (s.identifying?.getD (s.identifyingKeys row))
    observed := (s.observed.zip s.pivotKeys).map fun (values, key) =>
      Ascending.insert (row.value key) values }

def identityOf (s : Stream) (row : Row) : List Value := s.otherColumns.map row.value

def addTo (s : Stream) (row : Row) (cells : Cells) : Cells :=
  place (row.value s.options.valueKey) (s.pivotKeys.map row.value) cells

def rowOf (s : Stream) (b : Block) : PivotRow :=
  ⟨Row.ofList (s.otherColumns.zip b.identity), b.cells⟩

def close (s : Stream) : Option PivotRow × Stream :=
  match s.current with
  | none => (none, s)
  | some b =>
    let closed := if s.options.checkSorted then b.identity :: s.closed else s.closed
    (some (s.rowOf b), { s with current := none, closed })

def openBlock (row : Row) (s : Stream) : Option PivotError × Stream :=
  let identity := s.identityOf row
  if s.options.checkSorted && s.closed.contains identity then
    (some (.unsorted (s.otherColumns.zip identity)), s)
  else (none, { s with current := some ⟨identity, s.addTo row []⟩ })

/-- Takes one row in. There is an event if the row does not belong to the current block. -/
def take (row : Row) (s : Stream) : Option Event × Stream :=
  let s := s.observe row
  match s.current.filter (·.identity == s.identityOf row) with
  | some b => (none, { s with current := some { b with cells := s.addTo row b.cells } })
  | none =>
    let (given, s) := s.close
    match given, s.openBlock row with
    | some r, (some e, s) => (some (.ok r), { s with pending := some e })
    | none, (some e, s) => (some (.error e), { s with finished := true })
    | given, (none, s) => (given.map .ok, s)

/-- Takes rows in until there is an event. After the last row the current block is given out. -/
def takeUntilEvent : List Row → Stream → Option Event × Stream
  | [], s =>
    let (given, s) := s.close
    (given.map .ok, { s with rows := [], finished := true })
  | row :: rest, s =>
    match s.take row with
    | (some event, s) => (some event, { s with rows := rest })
    | (none, s) => takeUntilEvent rest s

def next (s : Stream) : Option Event × Stream :=
  match s.pending with
  | some e => (some (.error e), { s with pending := none, finished := true })
  | none => if s.finished then (none, s) else takeUntilEvent s.rows s

end Stream

end StarQuery.Crosstab
