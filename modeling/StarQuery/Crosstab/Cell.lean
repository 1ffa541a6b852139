import StarQuery.Crosstab.Row

/-!
The rows of a crosstab. Under its identifying keys a row has one cell for each value of the first
pivot key; with more keys a cell holds the cells for the values of the next one. Cells are in
ascending order of their values.
-/
namespace StarQuery.Crosstab

inductive Cell where
  | value (v : Value)
  | nested (cells : List (Value × Cell))

abbrev Cells := List (Value × Cell)

def Cell.inner : Cell → Cells
  | .value _ => []
  | .nested cells => cells

def place (value : Value) : List Value → Cells → Cells
  | [], cells => cells
  | [key], cells => Ascending.put key (.value value) cells
  | key :: next :: path, cells =>
    Ascending.alter key
      (fun old => .nested (place value (next :: path) ((old.map Cell.inner).getD []))) cells

def valueAt? : List Value → Cells → Option Value
  | [], _ => none
  | [key], cells =>
    match Ascending.get? key cells with
    | some (.value v) => some v
    | _ => none
  | key :: next :: path, cells =>
    match Ascending.get? key cells with
    | some (.nested inner) => valueAt? (next :: path) inner
    | _ => none

structure PivotRow where
  keys : Row
  cells : Cells

namespace PivotRow

def key? (r : PivotRow) (name : String) : Option Value := r.keys.get? name

def cell? (r : PivotRow) (path : List Value) : Option Value := valueAt? path r.cells

end PivotRow

mutual

def Cell.toJson : Cell → Json
  | .value v => v.toJson
  | .nested cells => Json.ofFields (cellFields cells)

def cellFields : List (Value × Cell) → List (String × Json)
  | [] => []
  | (key, cell) :: rest => (key.display, cell.toJson) :: cellFields rest

end

/-- The keys and cells of a row in one object; a cell wins over a key of the same name. -/
def PivotRow.toJson (r : PivotRow) : Json :=
  Json.ofFields (r.keys.entries.map (fun (name, v) => (name, v.toJson)) ++ cellFields r.cells)

mutual

def Cell.same : Cell → Cell → Bool
  | .value v, .value w => v == w
  | .nested cells, .nested others => sameCells cells others
  | _, _ => false

def sameCells : List (Value × Cell) → List (Value × Cell) → Bool
  | [], [] => true
  | (key, cell) :: rest, (key', cell') :: rest' =>
    key == key' && cell.same cell' && sameCells rest rest'
  | _, _ => false

end

instance : BEq PivotRow := ⟨fun r s => r.keys == s.keys && sameCells r.cells s.cells⟩

end StarQuery.Crosstab
