import StarQuery.Proofs.Crosstab.Sorted

/-!
Rows of a crosstab as data documents. The identifying keys and the cells are fields of one object,
each cell under the text of its value. Main statement: the document of a row has all of the row
exactly when no two fields of a level are called the same and no float of the row is infinite or no
number.
-/
namespace StarQuery

namespace Json

variable {fields : List (String × Json)} {name : String} {j : Json}

def at? : List String → Json → Option Json
  | [], j => some j
  | name :: path, j => (j.field? name).bind (at? path)

def HasFields (j : Json) (names : List String) : Prop :=
  ∃ fields, j = .object fields ∧ (fields.map Prod.fst).Perm names

theorem hasFields_ofFields_iff :
    (ofFields fields).HasFields (fields.map Prod.fst) ↔ (fields.map Prod.fst).Nodup := by
  rw [← Ascending.keys_ofEntries_perm_iff]
  constructor
  · rintro ⟨_, same, names⟩
    cases same
    exact names
  · intro names
    exact ⟨_, rfl, names⟩

theorem field?_ofFields (distinct : (fields.map Prod.fst).Nodup) (member : (name, j) ∈ fields) :
    (ofFields fields).field? name = some j :=
  Ascending.get?_ofEntries distinct member

end Json

def Value.Writable : Value → Prop
  | .float x => x.isFinite
  | _ => True

instance : ∀ v : Value, Decidable v.Writable
  | .float x => inferInstanceAs (Decidable (x.isFinite = true))
  | .null | .bool _ | .int _ | .text _ => isTrue trivial

theorem Value.ofJson_toJson_iff {v : Value} : Value.ofJson v.toJson = v ↔ v.Writable := by
  cases v with
  | int n =>
    have word : Value.ofNumber (.whole n.toInt) = .int n := by
      rw [ofNumber, if_pos ⟨Int64.le_toInt n, Int64.toInt_le n⟩, Int64.ofInt_toInt]
    exact iff_of_true word trivial
  | float x =>
    rw [toJson, Writable]
    by_cases finite : x.isFinite
    · rw [if_pos finite]
      exact iff_of_true rfl finite
    · rw [if_neg finite]
      exact iff_of_false nofun finite
  | _ => exact iff_of_true rfl trivial

namespace Crosstab

open Settings (PivotSettings)

variable {n : Nat} {key next v : Value} {path other : List Value} {cells inner : Cells}
  {cell : Cell} {j : Json}

def cellAt? : List Value → Cells → Option Cell
  | [], _ => none
  | [key], cells => Ascending.get? key cells
  | key :: next :: path, cells =>
    match Ascending.get? key cells with
    | some (.nested inner) => cellAt? (next :: path) inner
    | _ => none

theorem cellAt?_cons (level : Ascending.get? key cells = some (.nested inner))
    (found : cellAt? path inner = some cell) : cellAt? (key :: path) cells = some cell := by
  cases path with
  | nil => cases found
  | cons next path =>
    rw [cellAt?, level]
    exact found

theorem cellAt?_nil (path : List Value) : cellAt? path [] = none := by
  cases path with
  | nil => rfl
  | cons key rest => cases rest <;> rfl

theorem cellAt?_below :
    cellAt? (key :: next :: path) cells = cellAt? (next :: path) (below key cells) := by
  rw [cellAt?, below]
  cases Ascending.get? key cells with
  | none => exact (cellAt?_nil (next :: path)).symm
  | some cell =>
    cases cell with
    | value v => exact (cellAt?_nil (next :: path)).symm
    | nested inner => rfl

theorem cellAt?_concat (level : cellAt? path cells = some (.nested inner))
    (found : Ascending.get? key inner = some cell) :
    cellAt? (path ++ [key]) cells = some cell := by
  induction path generalizing cells with
  | nil => cases level
  | cons first rest ih =>
    cases rest with
    | nil => exact cellAt?_cons level found
    | cons next path =>
      rw [cellAt?_below] at level
      exact cellAt?_below.trans (ih level)

theorem Cell.Uniform.cellAt? (uniform : (Cell.nested cells).Uniform n)
    (found : cellAt? path cells = some cell) : ∃ m, cell.Uniform m := by
  induction path generalizing n cells with
  | nil => cases found
  | cons key rest ih =>
    cases n with
    | zero => cases uniform
    | succ n =>
      cases rest with
      | nil => exact ⟨n, uniform.found found⟩
      | cons next path =>
        rw [Crosstab.cellAt?] at found
        split at found
        · next inner level => exact ih (uniform.found level) found
        · cases found

theorem cellAt?_alter_of_ne {change : Option Cell → Cell} (elsewhere : key ≠ next) :
    cellAt? (key :: path) (Ascending.alter next change cells) = cellAt? (key :: path) cells := by
  cases path with
  | nil => exact Ascending.get?_alter_of_ne elsewhere
  | cons => rw [cellAt?, cellAt?, Ascending.get?_alter_of_ne elsewhere]

theorem cellAt?_place (uniform : (Cell.nested cells).Uniform path.length)
    (found : cellAt? other (place v path cells) = some cell) :
    other <+: path ∨ ∃ old, cellAt? other cells = some old := by
  induction path generalizing other cells with
  | nil => cases uniform
  | cons key rest ih =>
    cases other with
    | nil => cases found
    | cons key' rest' =>
      by_cases here : key' = key
      · subst here
        cases rest' with
        | nil => exact Or.inl ⟨rest, rfl⟩
        | cons next' path' =>
          cases rest with
          | nil =>
            rw [cellAt?, place, Ascending.put, Ascending.get?_alter_self uniform.sorted] at found
            cases found
          | cons next path =>
            rw [cellAt?_below, below_place_self uniform.sorted] at found
            rcases ih (uniform_below uniform) found with inside | old
            · exact Or.inl (List.cons_prefix_cons.mpr ⟨rfl, inside⟩)
            · exact Or.inr (by rwa [cellAt?_below])
      · refine Or.inr ⟨cell, ?_⟩
        cases rest with
        | nil => rwa [place, Ascending.put, cellAt?_alter_of_ne here] at found
        | cons => rwa [place, cellAt?_alter_of_ne here] at found

theorem valueAt?_eq_some_iff :
    valueAt? path cells = some v ↔ cellAt? path cells = some (.value v) := by
  induction path generalizing cells with
  | nil => simp [valueAt?, cellAt?]
  | cons key rest ih =>
    cases rest with
    | nil =>
      rw [valueAt?, cellAt?]
      split
      · next w found => rw [found, Option.some.injEq, Option.some.injEq, Cell.value.injEq]
      · next other => simpa using other v
    | cons next path =>
      rw [valueAt?, cellAt?]
      cases Ascending.get? key cells with
      | none => simp
      | some cell =>
        cases cell with
        | value w => simp
        | nested inner => exact ih

def texts (cells : Cells) : List String := cells.map fun entry => entry.1.display

theorem names_cellFields (cells : Cells) : (cellFields cells).map Prod.fst = texts cells := by
  induction cells with
  | nil => rfl
  | cons entry rest ih => rw [cellFields, List.map_cons, ih, texts, texts, List.map_cons]

theorem mem_cellFields (member : (key, cell) ∈ cells) :
    (key.display, cell.toJson) ∈ cellFields cells := by
  induction cells with
  | nil => cases member
  | cons entry rest ih =>
    rw [cellFields]
    rcases List.mem_cons.mp member with rfl | member
    · exact List.mem_cons_self
    · exact List.mem_cons_of_mem _ (ih member)

theorem hasFields_nested_iff :
    (Cell.nested inner).toJson.HasFields (texts inner) ↔ (texts inner).Nodup := by
  rw [← names_cellFields]
  exact Json.hasFields_ofFields_iff

def Spells (j : Json) (cells : Cells) : Prop :=
  ∀ key cell, Ascending.get? key cells = some cell → j.field? key.display = some cell.toJson

def LevelsApart (cells : Cells) : Prop :=
  ∀ path inner, cellAt? path cells = some (.nested inner) → (texts inner).Nodup

theorem LevelsApart.below (apart : LevelsApart cells)
    (level : Ascending.get? key cells = some (.nested inner)) : LevelsApart inner :=
  fun path _ found => apart (key :: path) _ (cellAt?_cons level found)

theorem spells_nested (distinct : (texts inner).Nodup) : Spells (Cell.nested inner).toJson inner := by
  intro key cell found
  rw [← names_cellFields] at distinct
  exact Json.field?_ofFields distinct (mem_cellFields (Ascending.mem_of_get? found))

theorem Spells.at? (spells : Spells j cells) (apart : LevelsApart cells)
    (found : cellAt? path cells = some cell) :
    j.at? (path.map Value.display) = some cell.toJson := by
  induction path generalizing j cells with
  | nil => cases found
  | cons key rest ih =>
    rw [List.map_cons, Json.at?]
    cases rest with
    | nil =>
      rw [spells key cell found]
      rfl
    | cons next path =>
      rw [cellAt?] at found
      split at found
      · next inner level =>
        rw [spells key _ level]
        exact ih (spells_nested (apart [key] inner level)) (apart.below level) found
      · cases found

theorem Spells.levels_iff (spells : Spells j cells) :
    (∀ path inner, cellAt? path cells = some (.nested inner) →
      ∃ shown, j.at? (path.map Value.display) = some shown ∧ shown.HasFields (texts inner)) ↔
      LevelsApart cells := by
  constructor
  · intro fields path
    induction path generalizing j cells with
    | nil => exact fun _ found => nomatch found
    | cons key rest ih =>
      -- The first level on the path is apart, so that the rest of the path leads on from its object.
      have first (level : Cells) (found : Ascending.get? key cells = some (.nested level)) :
          (texts level).Nodup := by
        obtain ⟨shown, same, shows⟩ := fields [key] level found
        rw [List.map_singleton, Json.at?, spells key _ found] at same
        cases same
        exact hasFields_nested_iff.mp shows
      intro inner found
      cases rest with
      | nil => exact first inner found
      | cons next path =>
        rw [cellAt?] at found
        split at found
        · next level below =>
          refine ih (spells_nested (first level below)) (fun path inner deeper => ?_) inner found
          obtain ⟨shown, same, shows⟩ := fields (key :: path) inner (cellAt?_cons below deeper)
          rw [List.map_cons, Json.at?, spells key _ below] at same
          exact ⟨shown, same, shows⟩
        · cases found
  · intro apart path inner found
    exact ⟨_, spells.at? apart found, hasFields_nested_iff.mpr (apart path inner found)⟩

namespace PivotRow

variable {r : PivotRow}

/-- The document has a field for each key and each value of the first pivot key, and in each level a
field for each value of the next one; and keys and cells can be read back where their names and the
texts of their values lead. -/
structure Lossless (r : PivotRow) : Prop where
  fields : r.toJson.HasFields (r.keys.keys ++ texts r.cells)
  levels : ∀ path inner, cellAt? path r.cells = some (.nested inner) →
    ∃ shown, r.toJson.at? (path.map Value.display) = some shown ∧ shown.HasFields (texts inner)
  keys : ∀ name v, r.key? name = some v →
    ∃ shown, r.toJson.field? name = some shown ∧ Value.ofJson shown = v
  values : ∀ path v, r.cell? path = some v →
    ∃ shown, r.toJson.at? (path.map Value.display) = some shown ∧ Value.ofJson shown = v

/-- No two fields of an object are called the same. -/
structure Apart (r : PivotRow) : Prop where
  top : (r.keys.keys ++ texts r.cells).Nodup
  levels : LevelsApart r.cells

structure Writable (r : PivotRow) : Prop where
  keys : ∀ name v, r.key? name = some v → v.Writable
  values : ∀ path v, r.cell? path = some v → v.Writable

def fields (r : PivotRow) : List (String × Json) :=
  r.keys.entries.map (fun (name, v) => (name, v.toJson)) ++ cellFields r.cells

theorem names_fields (r : PivotRow) : r.fields.map Prod.fst = r.keys.keys ++ texts r.cells := by
  rw [fields, List.map_append, names_cellFields, List.map_map]
  rfl

theorem hasFields_iff :
    r.toJson.HasFields (r.keys.keys ++ texts r.cells) ↔ (r.keys.keys ++ texts r.cells).Nodup := by
  rw [← names_fields]
  exact Json.hasFields_ofFields_iff

theorem field?_of_mem (apart : (r.keys.keys ++ texts r.cells).Nodup) {name : String}
    (member : (name, j) ∈ r.fields) : r.toJson.field? name = some j := by
  rw [← names_fields] at apart
  exact Json.field?_ofFields apart member

theorem spells_cells (apart : (r.keys.keys ++ texts r.cells).Nodup) : Spells r.toJson r.cells := by
  intro key cell found
  refine field?_of_mem apart (List.mem_append_right _ ?_)
  exact mem_cellFields (Ascending.mem_of_get? found)

theorem mem_of_key? {name : String} (found : r.key? name = some v) :
    (name, v) ∈ r.keys.entries := by
  obtain ⟨before, after, whole, -⟩ := List.lookup_eq_some_iff.mp found
  rw [whole]
  exact List.mem_append_right before List.mem_cons_self

theorem field?_key (apart : (r.keys.keys ++ texts r.cells).Nodup) {name : String}
    (found : r.key? name = some v) : r.toJson.field? name = some v.toJson := by
  refine field?_of_mem apart (List.mem_append_left _ ?_)
  exact List.mem_map.mpr ⟨(name, v), mem_of_key? found, rfl⟩

theorem Apart.at? (apart : r.Apart) (found : r.cell? path = some v) :
    r.toJson.at? (path.map Value.display) = some v.toJson :=
  (spells_cells apart.top).at? apart.levels (valueAt?_eq_some_iff.mp found)

theorem Lossless.apart (lossless : r.Lossless) : r.Apart := by
  have top := hasFields_iff.mp lossless.fields
  exact ⟨top, (spells_cells top).levels_iff.mp lossless.levels⟩

theorem Lossless.writable (lossless : r.Lossless) : r.Writable where
  keys name v found := by
    obtain ⟨shown, same, back⟩ := lossless.keys name v found
    rw [field?_key lossless.apart.top found] at same
    cases same
    exact Value.ofJson_toJson_iff.mp back
  values path v found := by
    obtain ⟨shown, same, back⟩ := lossless.values path v found
    rw [lossless.apart.at? found] at same
    cases same
    exact Value.ofJson_toJson_iff.mp back

theorem Apart.lossless (apart : r.Apart) (writable : r.Writable) : r.Lossless where
  fields := hasFields_iff.mpr apart.top
  levels := (spells_cells apart.top).levels_iff.mpr apart.levels
  keys name v found :=
    ⟨_, field?_key apart.top found, Value.ofJson_toJson_iff.mpr (writable.keys name v found)⟩
  values path v found :=
    ⟨_, apart.at? found, Value.ofJson_toJson_iff.mpr (writable.values path v found)⟩

end PivotRow

namespace Layout

variable {l : Layout} {run : List Row} {row : Row}

theorem exists_row_of_cellAt? (keyed : l.pivotKeys ≠ [])
    (found : cellAt? path (l.cells run) = some cell) : ∃ row ∈ run, path <+: l.path row := by
  induction run using List.reverseRecOn generalizing cell with
  | nil =>
    rw [cells, List.foldl_nil, cellAt?_nil] at found
    cases found
  | append_singleton run row ih =>
    have uniform : (Cell.nested (l.cells run)).Uniform (l.path row).length :=
      l.length_path row ▸ uniform_cells keyed run
    rw [cells_concat] at found
    rcases cellAt?_place uniform found with inside | ⟨old, found⟩
    · exact ⟨row, List.mem_append_right run List.mem_cons_self, inside⟩
    · obtain ⟨earlier, member, inside⟩ := ih found
      exact ⟨earlier, List.mem_append_left _ member, inside⟩

theorem exists_row_of_valueAt? (keyed : l.pivotKeys ≠ [])
    (found : valueAt? path (l.cells run) = some v) : ∃ row ∈ run, l.value row = v := by
  by_cases full : path.length = l.pivotKeys.length
  · rw [valueAt?_cells keyed run full, Option.map_eq_some_iff] at found
    obtain ⟨row, last, rfl⟩ := found
    exact ⟨row, (List.mem_filter.mp (List.mem_of_getLast? last)).1, rfl⟩
  · rw [valueAt?_of_length_ne (uniform_cells keyed run) full] at found
    cases found

/-- The rows have values that a document can hold, values of a pivot key that differ in their texts
if they differ at all, and none of the first pivot key with the text of an identifying column. -/
structure Legible (l : Layout) (run : List Row) : Prop where
  texts : ∀ a ∈ run, ∀ b ∈ run, ∀ step ∈ (l.path a).zip (l.path b),
    step.1.display = step.2.display → step.1 = step.2
  columns : ∀ row ∈ run, ∀ key ∈ (l.path row).head?, key.display ∉ l.columns
  identity : ∀ row ∈ run, ∀ v ∈ l.identity row, v.Writable
  values : ∀ row ∈ run, (l.value row).Writable

theorem Legible.nodup_texts (legible : l.Legible run) (keyed : l.pivotKeys ≠ [])
    (path : List Value) (sorted : Ascending.Sorted inner)
    (level : ∀ key cell, Ascending.get? key inner = some cell →
      cellAt? (path ++ [key]) (l.cells run) = some cell) :
    (Crosstab.texts inner).Nodup := by
  have step {key : Value} {cell : Cell} (member : (key, cell) ∈ inner) :
      ∃ row ∈ run, (l.path row)[path.length]? = some key := by
    obtain ⟨row, inside, rest, whole⟩ :=
      exists_row_of_cellAt? keyed (level key cell (sorted.get?_of_mem member))
    refine ⟨row, inside, ?_⟩
    rw [← whole, List.append_assoc, List.getElem?_append_right Nat.le.refl, Nat.sub_self]
    rfl
  have apart : ((inner.map Prod.fst).map Value.display).Nodup := by
    refine List.Nodup.map_on (fun x hx y hy same => ?_) sorted.nodup_keys
    obtain ⟨⟨x, _⟩, first, rfl⟩ := List.mem_map.mp hx
    obtain ⟨⟨y, _⟩, second, rfl⟩ := List.mem_map.mp hy
    obtain ⟨a, ha, leads⟩ := step first
    obtain ⟨b, hb, leads'⟩ := step second
    have both : (x, y) ∈ (l.path a).zip (l.path b) :=
      List.mem_of_getElem? (List.getElem?_zip_eq_some.mpr ⟨leads, leads'⟩)
    exact legible.texts a ha b hb (x, y) both same
  rwa [List.map_map] at apart

theorem keys_row (distinct : l.columns.Nodup) (run : List Row) :
    (l.row run).keys.keys = l.columns := by
  rw [Layout.row, Row.keys, runIdentity, entries_keys distinct, zip_identity, names, List.map_map]
  exact List.map_id _

theorem Legible.apart (legible : l.Legible run) (keyed : l.pivotKeys ≠ [])
    (distinct : l.columns.Nodup) : (l.row run).Apart where
  top := by
    rw [keys_row distinct]
    refine List.nodup_append.mpr ⟨distinct, ?_, fun name column text written same => ?_⟩
    · exact legible.nodup_texts keyed [] (uniform_cells keyed run).sorted fun _ _ => id
    · obtain ⟨⟨key, cell⟩, member, rfl⟩ := List.mem_map.mp written
      have found : cellAt? [key] (l.cells run) = some cell :=
        (uniform_cells keyed run).sorted.get?_of_mem member
      obtain ⟨row, inside, rest, whole⟩ := exists_row_of_cellAt? keyed found
      have first : key ∈ (l.path row).head? := by
        rw [← whole]
        rfl
      exact legible.columns row inside key first (same ▸ column)
  levels _ _ level := by
    obtain ⟨m, uniform⟩ := (uniform_cells keyed run).cellAt? level
    exact legible.nodup_texts keyed _ uniform.sorted fun _ _ => cellAt?_concat level

theorem Legible.writable (legible : l.Legible run) (keyed : l.pivotKeys ≠ [])
    (distinct : l.columns.Nodup) (some : run ≠ []) : (l.row run).Writable where
  keys name v found := by
    obtain ⟨first, rest, rfl⟩ := List.exists_cons_of_ne_nil some
    have member : (name, v) ∈ l.columns.zip (l.identity first) := by
      rw [← entries_keys distinct]
      exact PivotRow.mem_of_key? found
    exact legible.identity first List.mem_cons_self v (List.of_mem_zip member).2
  values path v found := by
    obtain ⟨row, inside, rfl⟩ := exists_row_of_valueAt? keyed found
    exact legible.values row inside

end Layout

namespace Stream

variable {rows : List Row} {pivotKeys : List String} {options : PivotSettings} {s : Stream}
  {k : Nat} {r : PivotRow}

theorem row_of_item (started : start rows pivotKeys options = .ok s)
    (given : s.item k = some (.ok r)) :
    ∃ run ∈ (Layout.ofRows rows pivotKeys options).runs rows,
      r = (Layout.ofRows rows pivotKeys options).row run := by
  have position := start_at started
  have found : (((Layout.ofRows rows pivotKeys options).runs rows).map
      (Layout.ofRows rows pivotKeys options).row)[k]? = some r := by
    cases checked : options.checkSorted with
    | false =>
      rw [checked] at position
      rw [position.items nofun, Option.map_eq_some_iff] at given
      obtain ⟨shown, found, same⟩ := given
      rw [found, Except.ok.inj same]
    | true =>
      have plain := start_checking rows pivotKeys options false
      rw [started] at plain
      rw [checked] at position
      have checks := At.checks (Layout.nodup_columns rows pivotKeys options) (start_at plain)
        position
      exact (checks.new_of_ok given).1
  obtain ⟨run, member, same⟩ := List.mem_map.mp (List.mem_of_getElem? found)
  exact ⟨run, member, same.symm⟩

theorem keyed_of_start (started : start rows pivotKeys options = .ok s) : pivotKeys ≠ [] := by
  rintro rfl
  cases started

/-- A row that a stream gives has its values in levels as deep as there are pivot keys, each value
once; and its document has all of it exactly when the fields of each level are called differently
and no float is infinite or no number. -/
theorem lossless_iff (started : start rows pivotKeys options = .ok s)
    (given : s.item k = some (.ok r)) :
    (Cell.nested r.cells).Uniform pivotKeys.length ∧ (r.Lossless ↔ r.Apart ∧ r.Writable) := by
  obtain ⟨run, -, rfl⟩ := row_of_item started given
  have keyed : (Layout.ofRows rows pivotKeys options).pivotKeys ≠ [] := keyed_of_start started
  refine ⟨Layout.uniform_cells keyed run, ?_, ?_⟩
  · exact fun lossless => ⟨lossless.apart, lossless.writable⟩
  · exact fun ⟨apart, writable⟩ => apart.lossless writable

def regional : List Row := [
  .ofList [("region", .text "north"), ("year", .int 2009), ("month", .int 1), ("value", .int 1)],
  .ofList [("region", .text "north"), ("year", .int 2009), ("month", .int 3), ("value", .int 2)],
  .ofList [("region", .text "north"), ("year", .int 2010), ("month", .int 1), ("value", .null)]]

theorem lossless_iff_regional :
    ∃ s r, start regional ["year", "month"] {} = .ok s ∧ s.item 0 = some (.ok r) ∧
      (Cell.nested r.cells).Uniform 2 ∧ r.Lossless := by
  have started : start regional ["year", "month"] {} = .ok _ :=
    start_ok regional (by decide) (by decide)
  have given := (start_at started).items nofun 0
  obtain ⟨uniform, lossless⟩ := lossless_iff started given
  have legible : (Layout.ofRows regional ["year", "month"] {}).Legible regional :=
    ⟨by decide +kernel, by decide +kernel, by decide +kernel, by decide +kernel⟩
  have distinct : (Layout.ofRows regional ["year", "month"] {}).columns.Nodup := by decide +kernel
  refine ⟨_, _, started, given, uniform, lossless.mpr ⟨?_, ?_⟩⟩
  · exact legible.apart (by decide) distinct
  · exact legible.writable (by decide) distinct (by decide)

def homonymous : List Row := [
  .ofList [("year", .int 2009), ("category", .null), ("value", .int 1)],
  .ofList [("year", .int 2009), ("category", .text "null"), ("value", .int 2)],
  .ofList [("year", .int 2009), ("category", .text "year"),
    ("value", .float ⟨0x7ff8000000000000⟩)]]

/-- Not every row is kept by its document. -/
theorem not_all_lossless : ¬∀ rows pivotKeys options s k r,
    start rows pivotKeys options = .ok s → s.item k = some (.ok r) → r.Lossless := by
  intro all
  have started : start homonymous ["category"] {} = .ok _ :=
    start_ok homonymous (by decide) (by decide)
  have given := (start_at started).items nofun 0
  have apart := (all _ _ _ _ _ _ started given).apart.top
  exact absurd apart (by decide +kernel)

end Stream

end Crosstab

end StarQuery
