import Mathlib.Data.List.Nodup
import Mathlib.Data.Nat.Find
import StarQuery.Proofs.Crosstab.Blocks

/-!
Streams that check their order. Main statement: where a checked stream does not give what the
unchecked one gives, it has come to the first row with an identity that was given before; it names
that identity in an error in place of the row and stops.
-/
namespace StarQuery.Crosstab

open Settings (PivotSettings)

section Repeats

variable {α β : Type} {as : List α} {j n : Nat}

def Repeats (as : List α) (j : Nat) : Prop := ∃ a, as[j]? = some a ∧ a ∈ as.take j

structure FirstRepeat (as : List α) (j : Nat) : Prop where
  repeats : Repeats as j
  new : ∀ i < j, ¬Repeats as i

theorem exists_firstRepeat (repeats : Repeats as j) : ∃ i, FirstRepeat as i := by
  classical
  have some : ∃ i, Repeats as i := ⟨j, repeats⟩
  exact ⟨Nat.find some, Nat.find_spec some, fun _ => Nat.find_min some⟩

theorem repeats_of_lt {i : Nat} {a : α} (hi : as[i]? = some a) (hj : as[j]? = some a)
    (before : i < j) : Repeats as j :=
  ⟨a, hj, List.mem_of_getElem? ((List.getElem?_take_of_lt before).trans hi)⟩

theorem nodup_take (new : ∀ i < n, ¬Repeats as i) : (as.take n).Nodup := by
  rw [List.nodup_iff_getElem?_ne_getElem?]
  intro i j before small same
  have inside : j < n := (List.length_take ▸ small).trans_le (Nat.min_le_left _ _)
  rw [List.getElem?_take_of_lt (before.trans inside), List.getElem?_take_of_lt inside] at same
  have within : j < as.length := (List.length_take ▸ small).trans_le (Nat.min_le_right _ _)
  have hj : as[j]? = some as[j] := List.getElem?_eq_getElem within
  exact new j inside (repeats_of_lt (same.trans hj) hj before)

theorem repeats_map {f : α → β} (injective : ∀ a ∈ as, ∀ b ∈ as, f a = f b → a = b) :
    Repeats (as.map f) j ↔ Repeats as j := by
  constructor
  · rintro ⟨_, found, earlier⟩
    rw [List.getElem?_map, Option.map_eq_some_iff] at found
    obtain ⟨a, found, rfl⟩ := found
    rw [← List.map_take, List.mem_map] at earlier
    obtain ⟨b, earlier, same⟩ := earlier
    have ha := List.mem_of_getElem? found
    obtain rfl := injective b (List.mem_of_mem_take earlier) a ha same
    exact ⟨b, found, earlier⟩
  · rintro ⟨a, found, earlier⟩
    refine ⟨f a, by rw [List.getElem?_map, found, Option.map_some], ?_⟩
    rw [← List.map_take]
    exact List.mem_map_of_mem earlier

end Repeats

theorem Layout.values_keys {l : Layout} (distinct : l.columns.Nodup) (row : Row) :
    (l.keys (l.identity row)).entries.map Prod.snd = l.identity row := by
  rw [entries_keys distinct, zip_identity, List.map_map]
  rfl

theorem Layout.keys_injective {l : Layout} (distinct : l.columns.Nodup) {a b : Row}
    (same : l.keys (l.identity a) = l.keys (l.identity b)) : l.identity a = l.identity b := by
  rw [← values_keys distinct a, same, values_keys distinct b]

namespace Stream

variable {l : Layout} {s t : Stream} {rows : List Row} {pivotKeys : List String}
  {options : PivotSettings}

theorem takeUntilEvent_suffix (rows : List Row) (s : Stream) :
    (takeUntilEvent rows s).2.rows <:+ rows := by
  induction rows generalizing s with
  | nil => exact List.suffix_rfl
  | cons row rest ih =>
    rw [takeUntilEvent]
    split
    · exact List.suffix_cons row rest
    · exact (ih _).trans (List.suffix_cons row rest)

theorem next_suffix (s : Stream) : s.next.2.rows <:+ s.rows := by
  unfold next
  split
  · exact List.suffix_rfl
  · split
    · exact List.suffix_rfl
    · exact takeUntilEvent_suffix s.rows s

theorem after_suffix (s : Stream) (k : Nat) : (s.after k).rows <:+ s.rows := by
  induction k generalizing s with
  | zero => exact List.suffix_rfl
  | succ k ih => exact (ih s.next.2).trans (next_suffix s)

theorem At.stops (position : s.At l true [] rows) {j : Nat} {run : List Row}
    (found : (l.runs rows)[j]? = some run)
    (known : l.runIdentity run ∈ ((l.runs rows).take j).map l.runIdentity)
    (new : (((l.runs rows).take j).map l.runIdentity).Nodup) :
    (∀ k < j, s.item k = ((l.runs rows).map l.row)[k]?.map .ok) ∧
      s.item j = some (.error (.unsorted (l.columns.zip (l.runIdentity run)))) ∧
      (∀ k, j < k → s.item k = none) ∧
      ∀ k, rows.drop (((l.runs rows).take j).flatten.length + 1) <:+ (s.after k).rows := by
  obtain ⟨inside, rfl⟩ := List.getElem?_eq_some_iff.mp found
  have cut : l.runs rows = (l.runs rows).take j ++ (l.runs rows).drop j :=
    (List.take_append_drop j _).symm
  have length : ((l.runs rows).take j).length = j := List.length_take_of_le inside.le
  obtain ⟨items, final⟩ := position.gives_runs cut fun _ => ⟨new, fun _ _ => List.not_mem_nil⟩
  rw [length] at items final
  -- The run at `j` is not empty, so that it has a first row, which the stream has refused.
  obtain ⟨first, rest, begins⟩ := List.exists_cons_of_ne_nil
    (Layout.identity_of_mem_run (List.getElem_mem inside)).1
  have behind : ((l.runs rows).drop j).flatten =
      first :: (rest ++ ((l.runs rows).drop (j + 1)).flatten) := by
    rw [List.drop_eq_getElem_cons inside, List.flatten_cons, begins, List.cons_append]
  have identity : l.runIdentity (l.runs rows)[j] = l.identity first := by
    rw [Layout.runIdentity, begins, List.headD_cons]
  rw [behind] at final
  obtain ⟨read, error, ended, kept⟩ := final.next_known (by simpa [identity] using known)
  have unread : rows.drop (((l.runs rows).take j).flatten.length + 1) = (s.after j).rows := by
    have whole : rows = ((l.runs rows).take j).flatten ++ ((l.runs rows).drop j).flatten := by
      rw [← List.flatten_append, ← cut]
      exact (List.flatten_splitBy _ rows).symm
    refine (congrArg (List.drop _) whole).trans ?_
    rw [List.drop_length_add_append, behind, List.drop_one, List.tail_cons, read]
  -- After the error the stream has ended, so that no further call changes it.
  have later (m : Nat) : s.after (j + 1 + m) = (s.after j).next.2 := by
    rw [after_add, after_add]
    exact ended.after m
  refine ⟨fun k small => ?_, ?_, fun k large => ?_, fun k => ?_⟩
  · rw [items k small, List.getElem?_take_of_lt small, List.getElem?_map, Option.map_map]
    rfl
  · rw [item, error, identity]
    rfl
  · obtain ⟨m, rfl⟩ := Nat.exists_eq_add_of_le (Nat.succ_le_of_lt large)
    rw [item, later, ended.next]
  · rw [unread]
    rcases Nat.lt_or_ge j k with beyond | before
    · obtain ⟨m, rfl⟩ := Nat.exists_eq_add_of_le (Nat.succ_le_of_lt beyond)
      have stays : (s.after (j + 1 + m)).rows = (s.after j).rows := by
        rw [later, read, kept]
      exact stays ▸ List.suffix_rfl
    · obtain ⟨m, rfl⟩ := Nat.exists_eq_add_of_le before
      rw [after_add]
      exact after_suffix _ m

/-- The stream `t` gives what `s` gives up to `j`, where it gives an error that names the identity
of `repeated`. It does not read beyond the first row of the run at `j`, and gives nothing any
more. -/
structure StopsAt (l : Layout) (rows : List Row) (s t : Stream) (j : Nat) (repeated : PivotRow) :
    Prop where
  before : ∀ k < j, t.item k = s.item k
  error : t.item j = some (.error (.unsorted repeated.keys.entries))
  stopped : ∀ k, j < k → t.item k = none
  unread : ∀ k, rows.drop (((l.runs rows).take j).flatten.length + 1) <:+ (t.after k).rows

structure Checks (l : Layout) (rows : List Row) (out : List PivotRow) (s t : Stream) : Prop where
  items : ∀ k, s.item k = out[k]?.map .ok
  distinct : (∀ j, ¬Repeats (out.map PivotRow.keys) j) → ∀ k, t.item k = s.item k
  stops : ∀ j repeated, FirstRepeat (out.map PivotRow.keys) j → out[j]? = some repeated →
    StopsAt l rows s t j repeated

namespace Checks

variable {out : List PivotRow} (checks : Checks l rows out s t)

include checks

/-- A call gives a new row, the error for a row that is not new, or nothing. -/
theorem outcome (k : Nat) :
    (t.item k = s.item k ∧ ¬Repeats (out.map PivotRow.keys) k) ∨
      (Repeats (out.map PivotRow.keys) k ∧ ∃ e, t.item k = some (.error e)) ∨ t.item k = none := by
  by_cases repeats : ∃ j, Repeats (out.map PivotRow.keys) j
  · obtain ⟨j, hj⟩ := repeats
    obtain ⟨i, first⟩ := exists_firstRepeat hj
    obtain ⟨keys, found, -⟩ := first.repeats
    rw [List.getElem?_map, Option.map_eq_some_iff] at found
    obtain ⟨repeated, found, -⟩ := found
    have stops := checks.stops i repeated first found
    rcases Nat.lt_trichotomy k i with before | rfl | behind
    · exact Or.inl ⟨stops.before k before, first.new k before⟩
    · exact Or.inr (Or.inl ⟨first.repeats, _, stops.error⟩)
    · exact Or.inr (Or.inr (stops.stopped k behind))
  · rw [not_exists] at repeats
    exact Or.inl ⟨checks.distinct repeats k, repeats k⟩

theorem repeats_of_error {k : Nat} {e : PivotError} (error : t.item k = some (.error e)) :
    Repeats (out.map PivotRow.keys) k := by
  rcases checks.outcome k with ⟨same, -⟩ | ⟨repeats, -⟩ | nothing
  · rw [same, checks.items, Option.map_eq_some_iff] at error
    obtain ⟨shown, -, other⟩ := error
    cases other
  · exact repeats
  · rw [nothing] at error
    cases error

theorem new_of_ok {k : Nat} {shown : PivotRow} (ok : t.item k = some (.ok shown)) :
    out[k]? = some shown ∧ ¬Repeats (out.map PivotRow.keys) k := by
  rcases checks.outcome k with ⟨same, new⟩ | ⟨-, e, error⟩ | nothing
  · rw [same, checks.items, Option.map_eq_some_iff] at ok
    obtain ⟨shown', found, same⟩ := ok
    cases same
    exact ⟨found, new⟩
  · rw [error] at ok
    cases ok
  · rw [nothing] at ok
    cases ok

theorem eq_of_keys {i j : Nat} {a b : PivotRow} (ha : t.item i = some (.ok a))
    (hb : t.item j = some (.ok b)) (same : a.keys = b.keys) : i = j := by
  obtain ⟨foundA, newA⟩ := checks.new_of_ok ha
  obtain ⟨foundB, newB⟩ := checks.new_of_ok hb
  have keysA : (out.map PivotRow.keys)[i]? = some b.keys := by
    rw [List.getElem?_map, foundA, Option.map_some, same]
  have keysB : (out.map PivotRow.keys)[j]? = some b.keys := by
    rw [List.getElem?_map, foundB, Option.map_some]
  rcases Nat.lt_trichotomy i j with before | rfl | behind
  · exact absurd (repeats_of_lt keysA keysB before) newB
  · rfl
  · exact absurd (repeats_of_lt keysB keysA behind) newA

end Checks

theorem repeats_rows (distinct : l.columns.Nodup) (rows : List Row) (j : Nat) :
    Repeats (((l.runs rows).map l.row).map PivotRow.keys) j ↔
      Repeats ((l.runs rows).map l.runIdentity) j := by
  have keys : ((l.runs rows).map l.row).map PivotRow.keys =
      ((l.runs rows).map l.runIdentity).map l.keys := by
    rw [List.map_map, List.map_map]
    rfl
  rw [keys]
  apply repeats_map
  intro a ha b hb same
  obtain ⟨run, -, rfl⟩ := List.mem_map.mp ha
  obtain ⟨run', -, rfl⟩ := List.mem_map.mp hb
  exact Layout.keys_injective distinct same

theorem At.checks (distinct : l.columns.Nodup) (plain : s.At l false [] rows)
    (checked : t.At l true [] rows) : Checks l rows ((l.runs rows).map l.row) s t := by
  have items := plain.items nofun
  refine ⟨items, fun new k => ?_, fun j repeated first found => ?_⟩
  · have nodup : ((l.runs rows).map l.runIdentity).Nodup := by
      rw [← List.take_length (l := (l.runs rows).map l.runIdentity)]
      exact nodup_take fun i _ => (repeats_rows distinct rows i).not.mp (new i)
    rw [items, checked.items fun _ => ⟨nodup, fun _ _ => List.not_mem_nil⟩]
  · rw [List.getElem?_map, Option.map_eq_some_iff] at found
    obtain ⟨run, found, rfl⟩ := found
    obtain ⟨identity, at_j, known⟩ := (repeats_rows distinct rows j).mp first.repeats
    rw [List.getElem?_map, found, Option.map_some, Option.some.injEq] at at_j
    rw [← at_j, ← List.map_take] at known
    have new : (((l.runs rows).take j).map l.runIdentity).Nodup := by
      rw [List.map_take]
      exact nodup_take fun i before => (repeats_rows distinct rows i).not.mp (first.new i before)
    obtain ⟨before, error, stopped, unread⟩ := checked.stops found known new
    refine ⟨fun k small => ?_, ?_, stopped, unread⟩
    · rw [before k small, items]
    · rw [error, Layout.runIdentity, ← Layout.entries_keys distinct]
      rfl

theorem start_checking (rows : List Row) (pivotKeys : List String) (options : PivotSettings)
    (checked : Bool) :
    start rows pivotKeys { options with checkSorted := checked } =
      (start rows pivotKeys options).map
        fun s => { s with options := { options with checkSorted := checked } } := by
  unfold start
  split
  · rfl
  · dsimp only
    cases pivotKeys.find? (· == options.valueKey) <;> rfl

/-- A checked stream gives what the unchecked one gives as far as no identity occurs again; where
one does, it gives an error that names it and stops. -/
theorem checked_stops (rows : List Row) (pivotKeys : List String) (options : PivotSettings) :
    (∃ e, start rows pivotKeys { options with checkSorted := false } = .error e ∧
      start rows pivotKeys { options with checkSorted := true } = .error e) ∨
    ∃ s t out, start rows pivotKeys { options with checkSorted := false } = .ok s ∧
      start rows pivotKeys { options with checkSorted := true } = .ok t ∧
      Checks (Layout.ofRows rows pivotKeys options) rows out s t ∧
      (∀ k e, t.item k = some (.error e) → Repeats (out.map PivotRow.keys) k) ∧
      ∀ i j a b, t.item i = some (.ok a) → t.item j = some (.ok b) → a.keys = b.keys → i = j := by
  cases started : start rows pivotKeys options with
  | error e =>
    refine Or.inl ⟨e, ?_, ?_⟩
    · rw [start_checking, started]
      rfl
    · rw [start_checking, started]
      rfl
  | ok s₀ =>
    have plain := start_checking rows pivotKeys options false
    have checked := start_checking rows pivotKeys options true
    rw [started] at plain checked
    have checks := At.checks (Layout.nodup_columns rows pivotKeys options) (start_at plain)
      (start_at checked)
    exact Or.inr ⟨_, _, _, plain, checked, checks, fun _ _ => checks.repeats_of_error,
      fun _ _ _ _ => checks.eq_of_keys⟩

def scattered : List Row := [
  .ofList [("year", .int 2009), ("month", .int 1), ("value", .int 1)],
  .ofList [("year", .int 2010), ("month", .int 1), ("value", .int 4)],
  .ofList [("year", .int 2009), ("month", .int 3), ("value", .int 2)],
  .ofList [("year", .int 2011), ("month", .int 1), ("value", .int 5)]]

theorem checked_stops_scattered :
    ∃ s t, start scattered ["month"] { checkSorted := false } = .ok s ∧
      start scattered ["month"] { checkSorted := true } = .ok t ∧
      (∀ k < 2, t.item k = s.item k) ∧
      t.item 2 = some (.error (.unsorted [("year", .int 2009)])) ∧
      (∀ k, 2 < k → t.item k = none) ∧ ∀ k, scattered.drop 3 <:+ (t.after k).rows := by
  rcases checked_stops scattered ["month"] {} with
    ⟨e, failed, -⟩ | ⟨s, t, out, plain, checked, checks, -⟩
  · cases failed
  · let year (n : Int64) : Row := .ofList [("year", .int n)]
    have keys {k : Nat} {n : Int64} (given : (s.item k).map (·.map PivotRow.keys) =
        some (.ok (year n))) : (out.map PivotRow.keys)[k]? = some (year n) := by
      rw [checks.items, Option.map_map, Option.map_eq_some_iff] at given
      obtain ⟨shown, found, same⟩ := given
      rw [List.getElem?_map, found, Option.map_some, Except.ok.inj same]
    cases plain
    have first := keys (k := 0) (n := 2009) (by decide +kernel)
    have second := keys (k := 1) (n := 2010) (by decide +kernel)
    have third := keys (k := 2) (n := 2009) (by decide +kernel)
    have repeated : FirstRepeat (out.map PivotRow.keys) 2 := by
      refine ⟨repeats_of_lt first third (by decide), fun i before => ?_⟩
      rintro ⟨a, found, earlier⟩
      obtain rfl | rfl : i = 0 ∨ i = 1 := by omega
      · cases earlier
      · rw [second] at found
        rw [List.take_one, List.head?_eq_getElem?, first] at earlier
        obtain rfl := Option.some.inj found
        exact absurd (List.mem_singleton.mp earlier) (by decide +kernel)
    rw [List.getElem?_map, Option.map_eq_some_iff] at third
    obtain ⟨shown, found, same⟩ := third
    have stops := checks.stops 2 shown repeated found
    have read :
        (((Layout.ofRows scattered ["month"] {}).runs scattered).take 2).flatten.length = 2 := by
      decide +kernel
    have unread := stops.unread
    rw [read] at unread
    refine ⟨_, t, rfl, checked, stops.before, ?_, stops.stopped, unread⟩
    rw [stops.error, same]
    rfl

end Stream

end StarQuery.Crosstab
