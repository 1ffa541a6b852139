import Mathlib.Data.List.SplitBy
import Mathlib.Data.List.TakeWhile
import StarQuery.Crosstab.Stream
import StarQuery.Proofs.Crosstab.Cells

/-!
What a crosstab shows of its rows. The rows are cut into runs that agree in the identifying columns.
Main statement: the row of a run is identified as all rows of the run are, and has at each path the
value of the last row of the run that leads there.
-/
namespace StarQuery.Crosstab

open Settings (PivotSettings)

theorem putEntry_of_not_mem {name : String} {value : Value} {entries : List (String × Value)}
    (fresh : name ∉ names entries) : putEntry name value entries = entries ++ [(name, value)] := by
  induction entries with
  | nil => rfl
  | cons entry rest ih =>
    rw [names, List.map_cons, List.mem_cons, not_or] at fresh
    rw [putEntry, if_neg (Ne.symm fresh.1), ih fresh.2, List.cons_append]

theorem Row.entries_ofList {entries : List (String × Value)} (distinct : (names entries).Nodup) :
    (Row.ofList entries).entries = entries := by
  induction entries using List.reverseRecOn with
  | nil => rfl
  | append_singleton entries entry ih =>
    have parts : (names entries ++ [entry.1]).Nodup := by simpa [names] using distinct
    obtain ⟨before, -, apart⟩ := List.nodup_append.mp parts
    have fresh : entry.1 ∉ names (Row.ofList entries).entries := by
      rw [ih before]
      exact fun member => apart _ member _ (List.mem_singleton_self _) rfl
    have last : (Row.ofList (entries ++ [entry])).entries =
        putEntry entry.1 entry.2 (Row.ofList entries).entries := by
      rw [Row.ofList, List.foldl_append]
      rfl
    rw [last, putEntry_of_not_mem fresh, ih before]

/-- The parts that the keys of the rows play: the pivot keys lead to a cell, the value key is for
what stands there, and the other columns say in which row of the crosstab. -/
structure Layout where
  pivotKeys : List String
  valueKey : String
  columns : List String

namespace Layout

def ofRows (rows : List Row) (pivotKeys : List String) (options : PivotSettings) : Layout where
  pivotKeys
  valueKey := options.valueKey
  columns := (rows.headD .empty).keys.filter fun key =>
    key != options.valueKey && !pivotKeys.contains key

variable (l : Layout)

def identity (row : Row) : List Value := l.columns.map row.value

def path (row : Row) : List Value := l.pivotKeys.map row.value

def value (row : Row) : Value := row.value l.valueKey

def runs (rows : List Row) : List (List Row) :=
  rows.splitBy fun a b => l.identity a == l.identity b

def cells (run : List Row) : Cells :=
  run.foldl (fun cells row => place (l.value row) (l.path row) cells) []

def keys (identity : List Value) : Row := Row.ofList (l.columns.zip identity)

def runIdentity (run : List Row) : List Value := l.identity (run.headD .empty)

def row (run : List Row) : PivotRow := ⟨l.keys (l.runIdentity run), l.cells run⟩

/-- What the crosstab has of a run: its identity and, where the pivot keys of a row lead, the value
of the last row that leads there. Neither while the run is read nor after it do values stand in the
place of levels or levels in that of values. -/
structure Shows (run : List Row) (shown : PivotRow) : Prop where
  keys : ∀ row ∈ run, shown.keys.entries = l.columns.map fun name => (name, row.value name)
  cell : ∀ path, path.length = l.pivotKeys.length →
    shown.cell? path = (run.filter fun row => l.path row = path).getLast?.map l.value
  noCell : ∀ path, path.length ≠ l.pivotKeys.length → shown.cell? path = none
  cells : shown.cells = l.cells run
  apart : ∀ read, read <+: run → ∀ path, path.length = l.pivotKeys.length →
    ¬Clash path (l.cells read)

variable {l} {run rows : List Row} {first : Row}

theorem runs_cons (l : Layout) (first : Row) (rows : List Row) :
    ∃ run rest, rows = run ++ rest ∧ (∀ row ∈ run, l.identity row = l.identity first) ∧
      (∀ row ∈ rest.head?, l.identity row ≠ l.identity first) ∧
      l.runs (first :: rows) = (first :: run) :: l.runs rest := by
  let agrees (row : Row) : Bool := l.identity row == l.identity first
  have same : ∀ row ∈ first :: rows.takeWhile agrees, l.identity row = l.identity first := by
    intro row member
    rcases List.mem_cons.mp member with rfl | member
    · rfl
    · have agrees := List.mem_takeWhile_imp member
      exact beq_iff_eq.mp agrees
  have differs : ∀ row ∈ (rows.dropWhile agrees).head?, l.identity row ≠ l.identity first := by
    intro row member
    have stops := List.head?_dropWhile_not agrees rows
    rw [Option.mem_def.mp member] at stops
    simpa [agrees] using stops
  refine ⟨rows.takeWhile agrees, rows.dropWhile agrees, List.takeWhile_append_dropWhile.symm,
    fun row member => same row (List.mem_cons_of_mem _ member), differs, ?_⟩
  have whole : first :: rows = (first :: rows.takeWhile agrees) ++ rows.dropWhile agrees := by
    rw [List.cons_append, List.takeWhile_append_dropWhile]
  have chain : (first :: rows.takeWhile agrees).IsChain fun a b =>
      (l.identity a == l.identity b) = true := by
    apply List.Pairwise.isChain
    apply List.pairwise_of_forall_mem_list
    intro a ha b hb
    rw [beq_iff_eq, same a ha, same b hb]
  rw [whole, runs, List.splitBy_append, List.splitBy_of_isChain (List.cons_ne_nil _ _) chain]
  · rfl
  · intro x hx y hy
    rw [beq_eq_false_iff_ne, same x (List.mem_of_mem_getLast? hx)]
    exact (differs y hy).symm

theorem runIdentity_of_runs {more : List (List Row)} (runs : l.runs (first :: rows) = run :: more) :
    l.runIdentity run = l.identity first := by
  obtain ⟨rest, _, -, -, -, cut⟩ := l.runs_cons first rows
  obtain ⟨rfl, -⟩ := List.cons.inj (cut.symm.trans runs)
  rfl

theorem identity_of_mem_run (member : run ∈ l.runs rows) :
    run ≠ [] ∧ ∀ row ∈ run, l.identity row = l.runIdentity run := by
  have chain := List.isChain_of_mem_splitBy member
  refine ⟨List.ne_nil_of_mem_splitBy member, ?_⟩
  cases run with
  | nil => exact fun _ absent => absurd absent List.not_mem_nil
  | cons first rest =>
    simp only [beq_iff_eq] at chain
    have all : (first :: rest).Pairwise fun a b => l.identity a = l.identity b :=
      List.isChain_iff_pairwise.mp chain
    intro row member
    rcases List.mem_cons.mp member with rfl | later
    · rfl
    · exact ((List.pairwise_cons.mp all).1 row later).symm

theorem cells_concat (run : List Row) (row : Row) :
    l.cells (run ++ [row]) = place (l.value row) (l.path row) (l.cells run) := by
  rw [cells, List.foldl_append, cells]
  rfl

theorem length_path (l : Layout) (row : Row) : (l.path row).length = l.pivotKeys.length :=
  List.length_map _

theorem uniform_cells (keyed : l.pivotKeys ≠ []) (run : List Row) :
    (Cell.nested (l.cells run)).Uniform l.pivotKeys.length := by
  induction run using List.reverseRecOn with
  | nil =>
    obtain ⟨key, keys, whole⟩ := List.exists_cons_of_ne_nil keyed
    rw [whole]
    exact Cell.uniform_empty keys.length
  | append_singleton run row ih =>
    rw [cells_concat, ← l.length_path row]
    rw [← l.length_path row] at ih
    exact uniform_place ih

theorem valueAt?_cells (keyed : l.pivotKeys ≠ []) (run : List Row) {path : List Value}
    (full : path.length = l.pivotKeys.length) :
    valueAt? path (l.cells run) =
      (run.filter fun row => l.path row = path).getLast?.map l.value := by
  induction run using List.reverseRecOn with
  | nil => exact valueAt?_nil path
  | append_singleton run row ih =>
    have uniform := uniform_cells keyed run
    rw [← l.length_path row] at uniform full
    rw [cells_concat, valueAt?_place uniform full, List.filter_append]
    by_cases here : l.path row = path
    · simp [here]
    · simp [here, Ne.symm here, ih]

theorem zip_identity (l : Layout) (row : Row) :
    l.columns.zip (l.identity row) = l.columns.map fun name => (name, row.value name) := by
  rw [identity, List.map_prod_left_eq_zip]

theorem entries_keys (distinct : l.columns.Nodup) (row : Row) :
    (l.keys (l.identity row)).entries = l.columns.zip (l.identity row) := by
  apply Row.entries_ofList
  rw [zip_identity, names, List.map_map]
  simpa [Function.comp_def] using distinct

theorem nodup_columns (rows : List Row) (pivotKeys : List String) (options : PivotSettings) :
    (ofRows rows pivotKeys options).columns.Nodup :=
  (rows.headD .empty).distinct.filter _

theorem shows_row (keyed : l.pivotKeys ≠ []) (distinct : l.columns.Nodup)
    (member : run ∈ l.runs rows) : l.Shows run (l.row run) where
  keys row inside := by
    rw [Layout.row, ← (identity_of_mem_run member).2 row inside, entries_keys distinct,
      zip_identity]
  cell _ full := valueAt?_cells keyed run full
  noCell _ other := valueAt?_of_length_ne (uniform_cells keyed run) other
  cells := rfl
  apart read _ path full := not_clash (full ▸ uniform_cells keyed read)

end Layout

end StarQuery.Crosstab
