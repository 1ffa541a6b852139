import StarQuery.Proofs.Crosstab.Sorted

/-!
How far a stream has read, and which columns it knows by then. Main statement: calls that have given
the rows of some runs have read these runs and the first row of the next one, and the pivot columns
are the values that the pivot keys have in what was read.
-/
namespace StarQuery.Crosstab

open Ascending (Ascends)
open Settings (PivotSettings)

def PivotColumns.lists : PivotColumns → List (List Value)
  | .single values => [values]
  | .multiple values => values

/-- The columns are the values of each pivot key in the rows, in ascending order; the list of a key
stands alone if it is the only one. -/
structure PivotColumns.Cover (pivotKeys : List String) (rows : List Row) (columns : PivotColumns) :
    Prop where
  single_iff : (∃ values, columns = .single values) ↔ ∃ key, pivotKeys = [key]
  lists : List.Forall₂ (fun key values =>
    Ascends values ∧ ∀ v, v ∈ values ↔ ∃ row ∈ rows, row.value key = v) pivotKeys columns.lists

/-- The rows that have been read when `k` runs have been given: these runs and the first row of the
next one. Nothing is read before the first call. -/
def Layout.readFor (l : Layout) (rows : List Row) (k : Nat) : List Row :=
  if k = 0 then []
  else ((l.runs rows).take k).flatten ++ ((l.runs rows)[k]?.bind List.head?).toList

theorem PivotColumns.Cover.mem_lists {pivotKeys : List String} {rows : List Row}
    {columns : PivotColumns} (cover : columns.Cover pivotKeys rows) {row : Row}
    (member : row ∈ rows) :
    List.Forall₂ (fun v values => v ∈ values) (pivotKeys.map row.value) columns.lists := by
  rw [List.forall₂_map_left_iff]
  exact cover.lists.imp fun key values covers => (covers.2 _).mpr ⟨row, member, rfl⟩

namespace Layout

variable {l : Layout} {rows : List Row} {k : Nat}

theorem flatten_runs (l : Layout) (rows : List Row) : (l.runs rows).flatten = rows :=
  List.flatten_splitBy _ _

theorem readFor_append (l : Layout) (rows : List Row) (k : Nat) :
    l.readFor rows (k + 1) ++ ((l.runs rows).drop (k + 1)).flatten.tail = rows := by
  have begun : ((l.runs rows)[k + 1]?.bind List.head?).toList ++
      ((l.runs rows).drop (k + 1)).flatten.tail = ((l.runs rows).drop (k + 1)).flatten := by
    rw [← List.head?_drop]
    cases behind : (l.runs rows).drop (k + 1) with
    | nil => rfl
    | cons run more =>
      have member : run ∈ l.runs rows := List.mem_of_mem_drop (behind ▸ List.mem_cons_self)
      obtain ⟨first, rest, rfl⟩ := List.exists_cons_of_ne_nil (identity_of_mem_run member).1
      rfl
  rw [readFor, if_neg (Nat.succ_ne_zero k), List.append_assoc, begun, ← List.flatten_append,
    List.take_append_drop, flatten_runs]

theorem readFor_whole (all : (l.runs rows).length ≤ k) : l.readFor rows k = rows := by
  unfold readFor
  split
  · next none =>
    rw [none, Nat.le_zero, List.length_eq_zero_iff] at all
    rw [← l.flatten_runs rows, all]
    rfl
  · rw [List.take_of_length_le all, List.getElem?_eq_none all, flatten_runs]
    exact List.append_nil rows

theorem mem_readFor {j : Nat} (before : j < k) {run : List Row} (given : (l.runs rows)[j]? = some run)
    {row : Row} (member : row ∈ run) : row ∈ l.readFor rows k := by
  rw [readFor, if_neg (Nat.ne_zero_of_lt before)]
  refine List.mem_append_left _ (List.mem_flatten.mpr ⟨run, ?_, member⟩)
  exact List.mem_of_getElem? (by rwa [List.getElem?_take_of_lt before])

end Layout

namespace Stream

structure Saw (pivotKeys : List String) (read : List Row) (s : Stream) : Prop where
  observed : s.observed = pivotKeys.map fun key => Ascending.ofList (read.map (·.value key))
  pivotKeys : s.pivotKeys = pivotKeys

variable {pivotKeys : List String} {read rows : List Row} {s : Stream} {l : Layout}
  {checked : Bool} {given : List (List Value)}

theorem Saw.cover (saw : s.Saw pivotKeys read) : s.pivotColumns.Cover pivotKeys read := by
  have covers (keys : List String) : List.Forall₂ (fun key values =>
      Ascends values ∧ ∀ v, v ∈ values ↔ ∃ row ∈ read, row.value key = v) keys
      (keys.map fun key => Ascending.ofList (read.map (·.value key))) := by
    rw [List.forall₂_map_right_iff, List.forall₂_same]
    refine fun key _ => ⟨Ascending.ascends_ofList _, fun v => ?_⟩
    rw [Ascending.mem_ofList, List.mem_map]
  have each := covers pivotKeys
  rw [pivotColumns, saw.observed]
  match pivotKeys with
  | [] => exact ⟨iff_of_false nofun nofun, each⟩
  | [key] => exact ⟨iff_of_true ⟨_, rfl⟩ ⟨key, rfl⟩, each⟩
  | key :: next :: keys => exact ⟨iff_of_false nofun nofun, each⟩

theorem Saw.observe (saw : s.Saw pivotKeys read) (row : Row) :
    (s.observe row).Saw pivotKeys (read ++ [row]) where
  observed := by
    rw [Stream.observe, saw.observed, saw.pivotKeys, ← List.map_prod_right_eq_zip, List.map_map]
    refine List.map_congr_left fun key _ => ?_
    rw [List.map_append, List.map_singleton, Ascending.ofList_concat]
    rfl
  pivotKeys := saw.pivotKeys

theorem Saw.close (saw : s.Saw pivotKeys read) : s.close.2.Saw pivotKeys read := by
  unfold Stream.close
  split
  · exact saw
  · exact ⟨saw.observed, saw.pivotKeys⟩

theorem Saw.openBlock (saw : s.Saw pivotKeys read) (row : Row) :
    (s.openBlock row).2.Saw pivotKeys read := by
  unfold Stream.openBlock
  dsimp only
  split
  · exact saw
  · exact ⟨saw.observed, saw.pivotKeys⟩

theorem Saw.take (saw : s.Saw pivotKeys read) (row : Row) :
    (s.take row).2.Saw pivotKeys (read ++ [row]) := by
  have observed := saw.observe row
  have opened := observed.close.openBlock row
  unfold Stream.take
  dsimp only
  split
  · exact ⟨observed.observed, observed.pivotKeys⟩
  · split
    · next opens =>
      rw [opens] at opened
      exact ⟨opened.observed, opened.pivotKeys⟩
    · next opens =>
      rw [opens] at opened
      exact ⟨opened.observed, opened.pivotKeys⟩
    · next opens =>
      rw [opens] at opened
      exact opened

theorem Saw.takeUntilEvent (saw : s.Saw pivotKeys read) (rows : List Row) :
    ∃ more, rows = more ++ (takeUntilEvent rows s).2.rows ∧
      (takeUntilEvent rows s).2.Saw pivotKeys (read ++ more) := by
  induction rows generalizing s read with
  | nil =>
    refine ⟨[], rfl, ?_⟩
    rw [List.append_nil]
    exact ⟨saw.close.observed, saw.close.pivotKeys⟩
  | cons row rest ih =>
    have taken := saw.take row
    rw [Stream.takeUntilEvent]
    split
    · next gives =>
      rw [gives] at taken
      exact ⟨[row], rfl, taken.observed, taken.pivotKeys⟩
    · next goesOn =>
      rw [goesOn] at taken
      obtain ⟨more, whole, saw'⟩ := ih taken
      refine ⟨row :: more, congrArg (row :: ·) whole, ?_⟩
      rwa [List.append_assoc, List.singleton_append] at saw'

theorem Saw.next (saw : s.Saw pivotKeys read) :
    ∃ more, s.rows = more ++ s.next.2.rows ∧ s.next.2.Saw pivotKeys (read ++ more) := by
  unfold Stream.next
  split
  · refine ⟨[], rfl, ?_⟩
    rw [List.append_nil]
    exact ⟨saw.observed, saw.pivotKeys⟩
  · split
    · refine ⟨[], rfl, ?_⟩
      rwa [List.append_nil]
    · exact saw.takeUntilEvent s.rows

theorem Saw.after (saw : s.Saw pivotKeys read) (k : Nat) :
    ∃ more, s.rows = more ++ (s.after k).rows ∧ (s.after k).Saw pivotKeys (read ++ more) := by
  induction k generalizing s read with
  | zero =>
    refine ⟨[], rfl, ?_⟩
    rwa [List.append_nil]
  | succ k ih =>
    obtain ⟨first, whole, saw'⟩ := saw.next
    obtain ⟨more, rest, saw''⟩ := ih saw'
    refine ⟨first ++ more, ?_, ?_⟩
    · rw [whole, rest, List.append_assoc]
      rfl
    · rwa [List.append_assoc] at saw''

theorem At.rows_nil (position : s.At l checked given []) : s.rows = [] := by
  cases position with
  | unread unread => exact unread.unread
  | ended ended unread => exact unread

theorem At.rows_begun (position : s.At l false given rows) (begun : given ≠ []) :
    s.rows = rows.tail := by
  cases position with
  | unread => exact absurd rfl begun
  | opened inside fresh unread => exact unread
  | refused checks => cases checks
  | ended ended unread => exact unread

theorem At.rows_after (position : s.At l false [] rows) (k : Nat) :
    (s.after (k + 1)).rows = ((l.runs rows).drop (k + 1)).flatten.tail := by
  by_cases small : k + 1 ≤ (l.runs rows).length
  · obtain ⟨-, final⟩ := position.gives_runs (List.take_append_drop (k + 1) _).symm nofun
    rw [List.length_take_of_le small] at final
    refine final.rows_begun fun none => ?_
    have length := congrArg List.length none
    rw [List.append_nil, List.length_reverse, List.length_map, List.length_take_of_le small]
      at length
    exact Nat.succ_ne_zero k length
  · obtain ⟨-, final⟩ := position.gives_runs (List.append_nil _).symm nofun
    obtain ⟨m, more⟩ := Nat.exists_eq_add_of_le (Nat.le_of_not_le small)
    rw [List.drop_of_length_le (Nat.le_of_not_le small), more, after_add]
    have left := after_suffix (s.after (l.runs rows).length) m
    rw [final.rows_nil] at left
    exact List.suffix_nil.mp left

/-- Call after call the stream gives the row of a run, has read that run and the first row of the
next, and has the values of the pivot keys in what it has read for its columns: in the end, those of
all rows. A cell that it has given is under columns. -/
structure InStep (l : Layout) (rows : List Row) (s : Stream) : Prop where
  items : ∀ k, s.item k = (l.runs rows)[k]?.map fun run => .ok (l.row run)
  reads : ∀ k, rows = l.readFor rows k ++ (s.after k).rows
  columns : ∀ k, (s.after k).pivotColumns.Cover l.pivotKeys (l.readFor rows k)
  whole : ∀ k, s.item k = none →
    (s.after k).rows = [] ∧ (s.after k).pivotColumns.Cover l.pivotKeys rows
  cells : ∀ j k shown path v, j < k → s.item j = some (.ok shown) → shown.cell? path = some v →
    List.Forall₂ (fun step values => step ∈ values) path (s.after k).pivotColumns.lists

theorem At.reads (position : s.At l false [] rows) (unread : s.rows = rows) (k : Nat) :
    rows = l.readFor rows k ++ (s.after k).rows := by
  cases k with
  | zero => exact unread.symm
  | succ k => rw [position.rows_after, l.readFor_append]

theorem At.covers (position : s.At l false [] rows) (unread : s.rows = rows)
    (saw : s.Saw l.pivotKeys []) (k : Nat) :
    (s.after k).pivotColumns.Cover l.pivotKeys (l.readFor rows k) := by
  obtain ⟨more, whole, saw'⟩ := saw.after k
  have same : l.readFor rows k = more := by
    rw [unread] at whole
    exact List.append_cancel_right ((position.reads unread k).symm.trans whole)
  rw [same]
  exact saw'.cover

theorem At.inStep (position : s.At l false [] rows) (unread : s.rows = rows)
    (saw : s.Saw l.pivotKeys []) (keyed : l.pivotKeys ≠ []) : s.InStep l rows where
  items k := by rw [position.items nofun, List.getElem?_map, Option.map_map]; rfl
  reads := position.reads unread
  columns := position.covers unread saw
  whole k ended := by
    have all : (l.runs rows).length ≤ k := by
      rw [position.items nofun, Option.map_eq_none_iff, List.getElem?_eq_none_iff,
        List.length_map] at ended
      exact ended
    have reads := position.reads unread k
    have covers := position.covers unread saw k
    rw [Layout.readFor_whole all] at reads covers
    exact ⟨List.append_right_eq_self.mp reads.symm, covers⟩
  cells j k shown path v before given found := by
    rw [position.items nofun, List.getElem?_map, Option.map_map] at given
    obtain ⟨run, isRun, made⟩ := Option.map_eq_some_iff.mp given
    obtain rfl := Except.ok.inj made
    have full : path.length = l.pivotKeys.length := by
      by_contra other
      have none : (l.row run).cell? path = none :=
        valueAt?_of_length_ne (Layout.uniform_cells keyed run) other
      rw [none] at found
      cases found
    have last : (run.filter fun row => l.path row = path).getLast?.map l.value = some v := by
      rw [← Layout.valueAt?_cells keyed run full]
      exact found
    obtain ⟨row, isLast, -⟩ := Option.map_eq_some_iff.mp last
    obtain ⟨member, leads⟩ := List.mem_filter.mp (List.mem_of_getLast? isLast)
    have leads : l.pivotKeys.map row.value = path := of_decide_eq_true leads
    rw [← leads]
    exact (position.covers unread saw k).mem_lists (Layout.mem_readFor before isRun member)

/-- A stream that does not check the order is in step with its rows, call after call. -/
theorem in_step (rows : List Row) (pivotKeys : List String) (options : PivotSettings)
    (keyed : pivotKeys ≠ []) (apart : options.valueKey ∉ pivotKeys)
    (unchecked : options.checkSorted = false) :
    ∃ s, start rows pivotKeys options = .ok s ∧
      s.InStep (Layout.ofRows rows pivotKeys options) rows := by
  have started := start_ok rows keyed apart
  have position := start_at started
  rw [unchecked] at position
  exact ⟨_, started, position.inStep rfl ⟨rfl, rfl⟩ keyed⟩

theorem in_step_monthly :
    ∃ s, start monthly ["month"] {} = .ok s ∧
      s.InStep (Layout.ofRows monthly ["month"] {}) monthly ∧
      ((Layout.ofRows monthly ["month"] {}).readFor monthly 1).length = 3 ∧
      (s.after 0).pivotColumns = .single [] ∧
      (s.after 1).pivotColumns = .single [.int 1, .int 3] := by
  obtain ⟨s, started, inStep⟩ := in_step monthly ["month"] {} (by decide) (by decide) rfl
  refine ⟨s, started, inStep, by decide +kernel, ?_⟩
  cases started
  decide +kernel

end Stream

end StarQuery.Crosstab
