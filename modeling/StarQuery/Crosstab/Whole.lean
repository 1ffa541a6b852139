import StarQuery.Crosstab.Stream

/-! A whole crosstab at once: all rows of the stream, or its first error. -/
namespace StarQuery.Crosstab

structure Whole where
  rows : List PivotRow
  pivotColumns : PivotColumns
  otherColumns : List String

namespace Whole

/-- Runs a stream to its end. Each step but the last reads a row or gives out a block or an error,
so `fuel` need not exceed the rows by more than three. -/
def drain : Nat → Stream → Except PivotError (List PivotRow × Stream)
  | 0, s => .ok ([], s)
  | fuel + 1, s =>
    match s.next with
    | (none, s) => .ok ([], s)
    | (some (.error e), _) => .error e
    | (some (.ok row), s) => do
      let (rows, s) ← drain fuel s
      .ok (row :: rows, s)

def ofStream (s : Stream) : Except PivotError Whole := do
  let (rows, s) ← drain (s.rows.length + 3) s
  .ok { rows, pivotColumns := s.pivotColumns, otherColumns := s.otherColumns }

def ofRows (rows : List Row) (pivotKeys : List String) (options : Settings.PivotSettings) :
    Except PivotError Whole := do
  ofStream (← Stream.start rows pivotKeys options)

end Whole

end StarQuery.Crosstab
