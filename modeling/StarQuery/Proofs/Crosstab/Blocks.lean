import StarQuery.Proofs.Crosstab.Runs

/-!
The steps of a stream. What it holds between two calls is one row of the next run, or the error that
is due in its place. Main statements: a call gives the row of the next run and reads on to the first
row of the run behind it, and so the calls give the rows of all runs, one after another.
-/
namespace StarQuery.Crosstab

open Settings (PivotSettings)

def Layout.unsorted (l : Layout) (row : Row) : PivotError :=
  .unsorted (l.columns.zip (l.identity row))

namespace Stream

def after (s : Stream) (k : Nat) : Stream := (fun s => s.next.2)^[k] s

def item (s : Stream) (k : Nat) : Option Event := (s.after k).next.1

theorem after_succ (s : Stream) (k : Nat) : s.after (k + 1) = s.next.2.after k := rfl

theorem after_add (s : Stream) (j k : Nat) : s.after (j + k) = (s.after j).after k := by
  rw [after, Nat.add_comm, Function.iterate_add_apply]
  rfl

theorem item_succ (s : Stream) (k : Nat) : s.item (k + 1) = s.next.2.item k := rfl

theorem item_add (s : Stream) (j k : Nat) : s.item (j + k) = (s.after j).item k := by
  rw [item, after_add, item]

structure Knows (l : Layout) (checked : Bool) (s : Stream) : Prop where
  pivotKeys : s.pivotKeys = l.pivotKeys
  valueKey : s.options.valueKey = l.valueKey
  columns : s.identifying? = some l.columns
  checks : s.options.checkSorted = checked

variable {l : Layout} {checked : Bool} {s : Stream} {given : List (List Value)} {first row : Row}
  {run rest rows : List Row}

namespace Knows

theorem otherColumns (knows : s.Knows l checked) : s.otherColumns = l.columns := by
  rw [Stream.otherColumns, knows.columns, Option.getD_some]

theorem identityOf (knows : s.Knows l checked) (row : Row) : s.identityOf row = l.identity row := by
  rw [Stream.identityOf, knows.otherColumns, Layout.identity]

theorem addTo (knows : s.Knows l checked) (row : Row) (cells : Cells) :
    s.addTo row cells = place (l.value row) (l.path row) cells := by
  rw [Stream.addTo, knows.pivotKeys, knows.valueKey, Layout.value, Layout.path]

theorem rowOf (knows : s.Knows l checked) (b : Block) :
    s.rowOf b = ⟨l.keys b.identity, b.cells⟩ := by
  rw [Stream.rowOf, knows.otherColumns, Layout.keys]

theorem observe (knows : s.Knows l checked) (row : Row) : (s.observe row).Knows l checked where
  pivotKeys := knows.pivotKeys
  valueKey := knows.valueKey
  columns := by rw [Stream.observe, knows.columns, Option.getD_some]
  checks := knows.checks

end Knows

/-- The stream is in a run: `first` is its first row, `run` what it has read of it since, and
`given` are the identities of the runs before, the last one first. -/
structure Inside (l : Layout) (checked : Bool) (given : List (List Value)) (first : Row)
    (run : List Row) (s : Stream) : Prop extends Knows l checked s where
  current : s.current = some ⟨l.identity first, l.cells (first :: run)⟩
  closed : checked = true → s.closed = given
  pending : s.pending = none
  finished : s.finished = false

structure Unread (l : Layout) (checked : Bool) (rows : List Row) (s : Stream) : Prop where
  unread : s.rows = rows
  pivotKeys : s.pivotKeys = l.pivotKeys
  valueKey : s.options.valueKey = l.valueKey
  columns : s.identifying? = none
  settles : ∀ row ∈ rows.head?, s.identifyingKeys row = l.columns
  checks : s.options.checkSorted = checked
  current : s.current = none
  closed : s.closed = []
  pending : s.pending = none
  finished : s.finished = false

structure Ended (s : Stream) : Prop where
  pending : s.pending = none
  finished : s.finished = true

theorem close_of_current {b : Block} (current : s.current = some b) (knows : s.Knows l checked) :
    s.close = (some ⟨l.keys b.identity, b.cells⟩, { s with
      current := none
      closed := if checked then b.identity :: s.closed else s.closed }) := by
  rw [close, current]
  dsimp only
  rw [knows.rowOf, knows.checks]

theorem openBlock_fresh (knows : s.Knows l checked)
    (fresh : checked = true → l.identity row ∉ s.closed) :
    s.openBlock row = (none, { s with current := some ⟨l.identity row, l.cells [row]⟩ }) := by
  have free : (checked && s.closed.contains (l.identity row)) = false := by
    cases checked with
    | false => rfl
    | true => simpa using fresh rfl
  rw [openBlock, knows.identityOf, knows.checks, knows.addTo, free]
  rfl

theorem openBlock_known (knows : s.Knows l true) (known : l.identity row ∈ s.closed) :
    s.openBlock row = (some (l.unsorted row), s) := by
  have taken : (true && s.closed.contains (l.identity row)) = true := by simpa using known
  rw [openBlock, knows.identityOf, knows.checks, taken, knows.otherColumns]
  rfl

theorem Inside.observe (inside : s.Inside l checked given first run) (row : Row) :
    (s.observe row).Inside l checked given first run where
  toKnows := inside.toKnows.observe row
  current := inside.current
  closed := inside.closed
  pending := inside.pending
  finished := inside.finished

theorem Inside.take_same (inside : s.Inside l checked given first run)
    (same : l.identity row = l.identity first) :
    ∃ s', s.take row = (none, s') ∧ s'.Inside l checked given first (run ++ [row]) := by
  have knows := inside.toKnows.observe row
  have current := (inside.observe row).current
  have here : (s.observe row).current.filter (·.identity == (s.observe row).identityOf row) =
      some ⟨l.identity first, l.cells (first :: run)⟩ := by
    rw [current, knows.identityOf, same]
    simp
  have cells : l.cells (first :: (run ++ [row])) =
      (s.observe row).addTo row (l.cells (first :: run)) := by
    rw [knows.addTo, ← List.cons_append, Layout.cells_concat]
  refine ⟨{ s.observe row with
      current := some ⟨l.identity first, l.cells (first :: (run ++ [row]))⟩ },
    ?_, ⟨knows.pivotKeys, knows.valueKey, knows.columns, knows.checks⟩, rfl, inside.closed,
    inside.pending, inside.finished⟩
  rw [take, here, cells]

def Elsewhere (s : Stream) (row : Row) : Prop :=
  (s.observe row).current.filter (·.identity == (s.observe row).identityOf row) = none

theorem take_opens {shown : Option PivotRow} {closed opened : Stream}
    (elsewhere : s.Elsewhere row)
    (closes : (s.observe row).close = (shown, closed))
    (opens : closed.openBlock row = (none, opened)) :
    s.take row = (shown.map .ok, opened) := by
  rw [take, elsewhere, closes]
  cases shown <;> simp only [opens, Option.map_some, Option.map_none]

theorem take_refuses {shown : PivotRow} {closed refused : Stream} {e : PivotError}
    (elsewhere : s.Elsewhere row)
    (closes : (s.observe row).close = (some shown, closed))
    (refuses : closed.openBlock row = (some e, refused)) :
    s.take row = (some (.ok shown), { refused with pending := some e }) := by
  rw [take, elsewhere, closes]
  simp only [refuses]

theorem Inside.elsewhere (inside : s.Inside l checked given first run)
    (other : l.identity row ≠ l.identity first) : s.Elsewhere row := by
  rw [Elsewhere, (inside.observe row).current, (inside.toKnows.observe row).identityOf,
    Option.filter_some]
  simp [Ne.symm other]

theorem Inside.closes (inside : s.Inside l checked given first run) :
    ∃ closed, s.close = (some (l.row (first :: run)), closed) ∧ closed.Knows l checked ∧
      (checked = true → closed.closed = l.identity first :: given) ∧ closed.pending = none ∧
      closed.finished = false := by
  refine ⟨_, close_of_current inside.current inside.toKnows,
    ⟨inside.pivotKeys, inside.valueKey, inside.columns, inside.checks⟩, ?_, inside.pending,
    inside.finished⟩
  rintro rfl
  exact congrArg (l.identity first :: ·) (inside.closed rfl)

theorem Inside.take_other (inside : s.Inside l checked given first run)
    (other : l.identity row ≠ l.identity first)
    (fresh : checked = true → l.identity row ∉ given) :
    ∃ s', s.take row = (some (.ok (l.row (first :: run))), s') ∧
      s'.Inside l checked (l.identity first :: given) row [] := by
  obtain ⟨closed, closes, knows, identities, pending, finished⟩ := (inside.observe row).closes
  have free : checked = true → l.identity row ∉ closed.closed := by
    intro checks
    rw [identities checks, List.mem_cons, not_or]
    exact ⟨other, fresh checks⟩
  exact ⟨_, take_opens (inside.elsewhere other) closes (openBlock_fresh knows free),
    ⟨knows.pivotKeys, knows.valueKey, knows.columns, knows.checks⟩, rfl, identities, pending,
    finished⟩

theorem Inside.take_known (inside : s.Inside l true given first run)
    (other : l.identity row ≠ l.identity first) (known : l.identity row ∈ given) :
    ∃ s', s.take row = (some (.ok (l.row (first :: run))), s') ∧
      s'.pending = some (l.unsorted row) := by
  obtain ⟨closed, closes, knows, identities, -, -⟩ := (inside.observe row).closes
  have taken : l.identity row ∈ closed.closed := by
    rw [identities rfl]
    exact List.mem_cons_of_mem _ known
  exact ⟨_, take_refuses (inside.elsewhere other) closes (openBlock_known knows taken), rfl⟩

theorem Unread.take (unread : s.Unread l checked (row :: rows)) :
    ∃ s', s.take row = (none, s') ∧ s'.Inside l checked [] row [] := by
  have knows : (s.observe row).Knows l checked := {
    pivotKeys := unread.pivotKeys
    valueKey := unread.valueKey
    columns := by
      rw [Stream.observe, unread.columns, Option.getD_none]
      exact congrArg some (unread.settles row rfl)
    checks := unread.checks }
  have current : (s.observe row).current = none := unread.current
  have closed : (s.observe row).closed = [] := unread.closed
  have elsewhere : s.Elsewhere row := by
    rw [Elsewhere, current, Option.filter_none]
  have closes : (s.observe row).close = (none, s.observe row) := by
    rw [close, current]
  have free : checked = true → l.identity row ∉ (s.observe row).closed := by
    rw [closed]
    exact fun _ => List.not_mem_nil
  exact ⟨_, take_opens elsewhere closes (openBlock_fresh knows free),
    ⟨knows.pivotKeys, knows.valueKey, knows.columns, knows.checks⟩, rfl, fun _ => closed,
    unread.pending, unread.finished⟩

theorem Inside.read (inside : s.Inside l checked given first run) {more : List Row}
    (same : ∀ row ∈ more, l.identity row = l.identity first) (rest : List Row) :
    ∃ s', takeUntilEvent (more ++ rest) s = takeUntilEvent rest s' ∧
      s'.Inside l checked given first (run ++ more) := by
  induction more generalizing s run with
  | nil => exact ⟨s, rfl, by rwa [List.append_nil]⟩
  | cons row more ih =>
    obtain ⟨s', taken, inside'⟩ := inside.take_same (same row List.mem_cons_self)
    obtain ⟨s'', read, inside''⟩ := ih inside' fun row' member =>
      same row' (List.mem_cons_of_mem _ member)
    refine ⟨s'', ?_, ?_⟩
    · rw [List.cons_append, takeUntilEvent, taken]
      exact read
    · rwa [List.append_assoc, List.singleton_append] at inside''

/-- Between two calls the rows of all runs behind those that `given` identifies are still to come.
Of the next one the first row has been read, if any has. -/
inductive At (l : Layout) (checked : Bool) : List (List Value) → List Row → Stream → Prop where
  | unread {rows : List Row} {s : Stream} (unread : s.Unread l checked rows) :
      At l checked [] rows s
  | opened {given : List (List Value)} {first : Row} {rows : List Row} {s : Stream}
      (inside : s.Inside l checked given first [])
      (fresh : checked = true → l.identity first ∉ given) (unread : s.rows = rows) :
      At l checked given (first :: rows) s
  | refused {given : List (List Value)} {first : Row} {rows : List Row} {s : Stream}
      (checks : checked = true) (known : l.identity first ∈ given)
      (pending : s.pending = some (l.unsorted first)) (unread : s.rows = rows) :
      At l checked given (first :: rows) s
  | ended {given : List (List Value)} {s : Stream} (ended : s.Ended) (unread : s.rows = []) :
      At l checked given [] s

theorem Inside.gives (inside : s.Inside l checked given first run)
    (differs : ∀ row ∈ rest.head?, l.identity row ≠ l.identity first) :
    (takeUntilEvent rest s).1 = some (.ok (l.row (first :: run))) ∧
      (takeUntilEvent rest s).2.At l checked (l.identity first :: given) rest := by
  cases rest with
  | nil =>
    obtain ⟨closed, closes, -, -, pending, -⟩ := inside.closes
    rw [takeUntilEvent, closes]
    exact ⟨rfl, .ended ⟨pending, rfl⟩ rfl⟩
  | cons row rest =>
    have other := differs row rfl
    -- The row begins the next run, which a checked stream may have given before.
    by_cases known : checked = true ∧ l.identity row ∈ given
    · obtain ⟨rfl, known⟩ := known
      obtain ⟨s', taken, pending⟩ := inside.take_known other known
      rw [takeUntilEvent, taken]
      exact ⟨rfl, .refused rfl (List.mem_cons_of_mem _ known) pending rfl⟩
    · have fresh : checked = true → l.identity row ∉ given := not_and.mp known
      obtain ⟨s', taken, inside'⟩ := inside.take_other other fresh
      rw [takeUntilEvent, taken]
      refine ⟨rfl, .opened ⟨⟨inside'.pivotKeys, inside'.valueKey, inside'.columns, inside'.checks⟩,
        inside'.current, inside'.closed, inside'.pending, inside'.finished⟩ ?_ rfl⟩
      intro checks
      rw [List.mem_cons, not_or]
      exact ⟨other, fresh checks⟩

theorem Ended.next (ended : s.Ended) : s.next = (none, s) := by
  rw [Stream.next, ended.pending, ended.finished]
  rfl

theorem Ended.after (ended : s.Ended) (k : Nat) : s.after k = s := by
  induction k with
  | zero => rfl
  | succ k ih => rw [after_succ, ended.next, ih]

theorem Ended.item (ended : s.Ended) (k : Nat) : s.item k = none := by
  rw [Stream.item, ended.after, ended.next]

theorem At.next_nil (position : s.At l checked given []) :
    s.next.1 = none ∧ s.next.2.Ended := by
  cases position with
  | unread unread =>
    rw [next, unread.pending, unread.finished, unread.unread]
    have closes : s.close = (none, s) := by rw [close, unread.current]
    rw [if_neg Bool.false_ne_true, takeUntilEvent, closes]
    exact ⟨rfl, unread.pending, rfl⟩
  | ended ended unread =>
    rw [ended.next]
    exact ⟨rfl, ended⟩

theorem At.next_cons (position : s.At l checked given (first :: rows))
    (fresh : checked = true → l.identity first ∉ given) :
    ∃ run rest, l.runs (first :: rows) = (first :: run) :: l.runs rest ∧
      s.next.1 = some (.ok (l.row (first :: run))) ∧
      s.next.2.At l checked (l.identity first :: given) rest := by
  obtain ⟨run, rest, whole, same, differs, runs⟩ := l.runs_cons first rows
  refine ⟨run, rest, runs, ?_⟩
  cases position with
  | unread unread =>
    obtain ⟨s₁, taken, inside⟩ := unread.take
    obtain ⟨s₂, read, inside'⟩ := inside.read same rest
    have reads : s.next = takeUntilEvent rest s₂ := by
      rw [next, unread.pending, unread.finished, unread.unread]
      rw [if_neg Bool.false_ne_true, takeUntilEvent, taken, whole]
      exact read
    rw [reads]
    exact inside'.gives differs
  | opened inside _ unread =>
    obtain ⟨s₁, read, inside'⟩ := inside.read same rest
    have reads : s.next = takeUntilEvent rest s₁ := by
      rw [next, inside.pending, inside.finished, unread, whole]
      exact read
    rw [reads]
    exact inside'.gives differs
  | refused checks known => exact absurd known (fresh checks)

theorem At.next_known (position : s.At l true given (first :: rows))
    (known : l.identity first ∈ given) :
    s.rows = rows ∧ s.next.1 = some (.error (l.unsorted first)) ∧ s.next.2.Ended ∧
      s.next.2.rows = rows := by
  cases position with
  | unread => exact absurd known List.not_mem_nil
  | opened _ fresh => exact absurd known (fresh rfl)
  | refused _ _ pending unread =>
    rw [next, pending]
    exact ⟨unread, rfl, ⟨rfl, rfl⟩, unread⟩

theorem At.gives_runs (position : s.At l checked given rows) {shown behind : List (List Row)}
    (whole : l.runs rows = shown ++ behind)
    (fresh : checked = true → (shown.map l.runIdentity).Nodup ∧
      ∀ run ∈ shown, l.runIdentity run ∉ given) :
    (∀ k < shown.length, s.item k = (shown[k]?).map fun run => .ok (l.row run)) ∧
      (s.after shown.length).At l checked ((shown.map l.runIdentity).reverse ++ given)
        behind.flatten := by
  induction shown generalizing s given rows with
  | nil =>
    obtain rfl : rows = behind.flatten := by
      rw [← List.flatten_splitBy (fun a b => l.identity a == l.identity b) rows]
      exact congrArg List.flatten whole
    exact ⟨fun k small => absurd small (Nat.not_lt_zero k), position⟩
  | cons run shown ih =>
    cases rows with
    | nil => cases whole
    | cons first rows =>
      have head := Layout.runIdentity_of_runs whole
      have new : checked = true → l.identity first ∉ given := by
        intro checks
        rw [← head]
        exact (fresh checks).2 run List.mem_cons_self
      -- One call gives the first run and adds its identity to those that later ones must not have.
      obtain ⟨run', rest, runs, gives, position'⟩ := position.next_cons new
      obtain ⟨rfl, more⟩ := List.cons.inj (runs.symm.trans whole)
      have later : checked = true → (shown.map l.runIdentity).Nodup ∧
          ∀ run ∈ shown, l.runIdentity run ∉ l.identity first :: given := by
        intro checks
        obtain ⟨distinct, apart⟩ := fresh checks
        obtain ⟨once, rest⟩ := List.nodup_cons.mp distinct
        refine ⟨rest, fun run member => ?_⟩
        rw [List.mem_cons, not_or]
        refine ⟨fun same => once ?_, apart run (List.mem_cons_of_mem _ member)⟩
        exact List.mem_map.mpr ⟨run, member, same⟩
      obtain ⟨items, final⟩ := ih position' more later
      constructor
      · intro k small
        cases k with
        | zero => exact gives
        | succ k =>
          rw [item_succ, List.getElem?_cons_succ]
          exact items k (Nat.lt_of_succ_lt_succ small)
      · rw [List.length_cons, after_succ, List.map_cons, List.reverse_cons, List.append_assoc]
        exact final

theorem At.item_nil (position : s.At l checked given []) (k : Nat) : s.item k = none := by
  obtain ⟨nothing, ended⟩ := position.next_nil
  cases k with
  | zero => exact nothing
  | succ k => rw [item_succ, ended.item]

theorem At.items (position : s.At l checked given rows)
    (fresh : checked = true → ((l.runs rows).map l.runIdentity).Nodup ∧
      ∀ run ∈ l.runs rows, l.runIdentity run ∉ given) (k : Nat) :
    s.item k = ((l.runs rows).map l.row)[k]?.map .ok := by
  obtain ⟨items, final⟩ := position.gives_runs (List.append_nil _).symm fresh
  rw [List.getElem?_map, Option.map_map]
  by_cases small : k < (l.runs rows).length
  · exact items k small
  · obtain ⟨m, rfl⟩ := Nat.exists_eq_add_of_le (Nat.le_of_not_lt small)
    rw [item_add, final.item_nil, List.getElem?_eq_none (Nat.le_add_right _ m)]
    rfl

variable {pivotKeys : List String} {options : PivotSettings}

theorem start_ok (rows : List Row) (keyed : pivotKeys ≠ []) (apart : options.valueKey ∉ pivotKeys) :
    start rows pivotKeys options =
      .ok { rows, pivotKeys, options, observed := pivotKeys.map fun _ => [] } := by
  have noValue : pivotKeys.find? (· == options.valueKey) = none := by
    rw [List.find?_eq_none]
    intro key member same
    rw [beq_iff_eq.mp same] at member
    exact apart member
  rw [start, noValue, if_neg (by simpa using keyed)]

theorem start_at (started : start rows pivotKeys options = .ok s) :
    s.At (Layout.ofRows rows pivotKeys options) options.checkSorted [] rows := by
  unfold start at started
  split at started
  · cases started
  · split at started
    · cases started
    · cases started
      refine .unread ⟨rfl, rfl, rfl, rfl, fun row first => ?_, rfl, rfl, rfl, rfl, rfl⟩
      rw [Layout.ofRows, List.headD_eq_head?_getD, Option.mem_def.mp first]
      rfl

/-- A stream gives the row of each run of its rows in turn, and nothing after the last. -/
theorem shows_runs (rows : List Row) (pivotKeys : List String) (options : PivotSettings)
    (keyed : pivotKeys ≠ []) (apart : options.valueKey ∉ pivotKeys)
    (unchecked : options.checkSorted = false) :
    ∃ s out, start rows pivotKeys options = .ok s ∧
      List.Forall₂ (Layout.ofRows rows pivotKeys options).Shows
        ((Layout.ofRows rows pivotKeys options).runs rows) out ∧
      ∀ k, s.item k = out[k]?.map .ok := by
  have started := start_ok rows keyed apart
  refine ⟨_, ((Layout.ofRows rows pivotKeys options).runs rows).map
    (Layout.ofRows rows pivotKeys options).row, started, ?_, ?_⟩
  · rw [List.forall₂_map_right_iff, List.forall₂_same]
    intro run member
    exact Layout.shows_row keyed (Layout.nodup_columns rows pivotKeys options) member
  · refine (start_at started).items fun checks => ?_
    rw [unchecked] at checks
    cases checks

def monthly : List Row := [
  .ofList [("year", .int 2009), ("month", .int 1), ("value", .int 1)],
  .ofList [("year", .int 2009), ("month", .int 3), ("value", .int 2)],
  .ofList [("year", .int 2010), ("month", .int 1), ("value", .int 4)]]

theorem shows_runs_monthly :
    (Layout.ofRows monthly ["month"] {}).columns = ["year"] ∧
      ((Layout.ofRows monthly ["month"] {}).runs monthly).map List.length = [2, 1] ∧
      ∃ s out, start monthly ["month"] {} = .ok s ∧
        List.Forall₂ (Layout.ofRows monthly ["month"] {}).Shows
          ((Layout.ofRows monthly ["month"] {}).runs monthly) out ∧
        ∀ k, s.item k = out[k]?.map .ok :=
  ⟨by decide +kernel, by decide +kernel,
    shows_runs monthly ["month"] {} (by decide) (by decide) rfl⟩

end Stream

end StarQuery.Crosstab
