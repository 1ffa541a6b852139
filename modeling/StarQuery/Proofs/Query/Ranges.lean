import StarQuery.Proofs.Query.LiveCells

/-!
Pivots on columns of whole numbers between bounds. Main statement: such a column has a cell for each
number of its range, in order and without overflow, if the range is not empty and has at most one
number more than the limit says; a wider range is refused as one that exceeds the limit.
-/
namespace StarQuery.Query

open Model (Column Dimension Fact Schema)

/-- The column lists no elements, and has whole numbers between bounds. -/
structure IsRange (c : Column) (min max : Int64) : Prop where
  elements : c.elements = none
  integral : c.dataType.isIntegral = true
  lower : c.min = some min
  upper : c.max = some max

def rangeSize (min max : Int64) : Nat := (max.toInt + 1 - min.toInt).toNat

structure Enumerates (min max : Int64) (keys : List Value) : Prop where
  length : keys.length = rangeSize min max
  member : ∀ (i : Nat) key, keys[i]? = some key →
    ∃ n : Int64, key = .int n ∧ n.toInt = min.toInt + i

/-- A column for each integer from `min` to `max`, in this order: the cell of the integer, with the
operator of the value applied. -/
structure EnumeratesCells (min max : Int64) (value pivot : Target) (columns : List Projection) :
    Prop where
  length : columns.length = rangeSize min max
  member : ∀ (i : Nat) column, columns[i]? = some column → ∃ n : Int64,
    n.toInt = min.toInt + i ∧
      let cell := Projection.pivoted value.projection pivot.projection i (.int n)
      column = value.operator.elim cell (.aggregate cell)

/-- What a pivot on a range gives, by the number of integers and the limit. -/
structure PivotsOnRange (s : Scope) (pivot : Projection) (min max : Int64) : Prop where
  accepted : (∃ keys, s.pivotDomain pivot = .ok keys) ↔
    min ≤ max ∧ rangeSize min max ≤ s.settings.maxPivotSpan.toNat + 1
  keys : ∀ keys, s.pivotDomain pivot = .ok keys → Enumerates min max keys
  tooWide : s.pivotDomain pivot =
      .error (.unsupportedPivot pivot.name (.tooWide min max s.settings.maxPivotSpan)) ↔
    s.settings.maxPivotSpan.toNat + 1 < rangeSize min max
  empty : s.pivotDomain pivot = .error (.unsupportedPivot pivot.name .emptyRange) ↔ max < min
  limited : ((∃ keys, s.pivotDomain pivot = .ok keys) ↔
      min ≤ max ∧ rangeSize min max ≤ s.settings.maxPivotSpan.toNat) ↔
    rangeSize min max ≠ s.settings.maxPivotSpan.toNat + 1
  cells : ∀ reference value path v p columns,
    (Text.split '~' reference).map Text.trim = [value, path] → s.resolve value = .ok v →
      s.resolve path = .ok p → p.projection = pivot → s.parse reference = .ok columns →
      EnumeratesCells min max v p columns

section

variable {c : Column} {min max : Int64} {limit : UInt64} {keys : List Value}

theorem rangeSize_eq_zero_iff : rangeSize min max = 0 ↔ max < min := by
  rw [rangeSize, Int64.lt_iff_toInt_lt]
  omega

theorem domain_of_range (range : IsRange c min max) (limit : UInt64) :
    domain limit c =
      if max < min then .error .emptyRange
      else if limit.toNat + 1 < rangeSize min max then .error (.tooWide min max limit)
      else .ok (valuesFrom min.toInt (rangeSize min max)) := by
  have notBoolean : c.dataType ≠ .boolean := by
    intro boolean
    have integral := range.integral
    rw [boolean] at integral
    cases integral
  simp only [domain, range.elements, if_neg notBoolean, range.integral, range.lower, range.upper,
    Bool.not_true, Bool.false_eq_true, if_false]
  by_cases empty : max < min
  · rw [if_pos empty, if_pos empty]
  · have ordered : min.toInt ≤ max.toInt := Int64.le_iff_toInt_le.mp (Int64.not_lt.mp empty)
    have size : (max.toInt - min.toInt).toNat + 1 = rangeSize min max := by
      rw [rangeSize]
      omega
    have wide : (limit.toNat : Int) < max.toInt - min.toInt ↔
        limit.toNat + 1 < rangeSize min max := by omega
    rw [if_neg empty, if_neg empty, size]
    simp only [wide]

theorem enumerates_valuesFrom (min max : Int64) :
    Enumerates min max (valuesFrom min.toInt (rangeSize min max)) where
  length := by rw [valuesFrom, List.length_map, List.length_range]
  member i key found := by
    rw [valuesFrom, List.getElem?_map, Option.map_eq_some_iff] at found
    obtain ⟨n, inside, rfl⟩ := found
    obtain ⟨bound, rfl⟩ := List.getElem?_eq_some_iff.mp inside
    rw [List.length_range, rangeSize] at bound
    rw [List.getElem_range]
    have small := min.le_toInt
    have large := max.toInt_lt
    exact ⟨_, rfl, Int64.toInt_ofInt_of_le (by omega) (by omega)⟩

theorem Enumerates.cells {value pivot : Target} (enumerates : Enumerates min max keys) :
    EnumeratesCells min max value pivot
      ((cellsOf value.projection pivot.projection keys).map
        fun cell => value.operator.elim cell (.aggregate cell)) where
  length := by rw [List.length_map, cellsOf, List.length_map, List.length_zipIdx, enumerates.length]
  member i column found := by
    rw [List.getElem?_map, Option.map_eq_some_iff] at found
    obtain ⟨cell, found, rfl⟩ := found
    obtain ⟨key, here, rfl⟩ := exists_key_of_cell found
    obtain ⟨n, rfl, isNext⟩ := enumerates.member i key here
    exact ⟨n, isNext, rfl⟩

theorem pivotDomain_of_range {pivot : Projection} (behind : pivotColumn? pivot = some c)
    (range : IsRange c min max) (s : Scope) :
    s.pivotDomain pivot =
      if max < min then .error (.unsupportedPivot pivot.name .emptyRange)
      else if s.settings.maxPivotSpan.toNat + 1 < rangeSize min max then
        .error (.unsupportedPivot pivot.name (.tooWide min max s.settings.maxPivotSpan))
      else .ok (valuesFrom min.toInt (rangeSize min max)) := by
  simp only [Scope.pivotDomain, behind, domain_of_range range]
  split
  · rfl
  · split <;> rfl

theorem enumeratesCells_of_parse {s : Scope} {reference value path : String} {v p : Target}
    {columns : List Projection} (behind : pivotColumn? p.projection = some c)
    (range : IsRange c min max) (asked : (Text.split '~' reference).map Text.trim = [value, path])
    (ofValue : s.resolve value = .ok v) (ofPivot : s.resolve path = .ok p)
    (parsed : s.parse reference = .ok columns) : EnumeratesCells min max v p columns := by
  rw [Scope.parse_of_crosstab asked] at parsed
  obtain ⟨v', p', c', keys, ofValue', ofPivot', behind', found, made⟩ :=
    Scope.crosstab_cells parsed
  obtain rfl := Except.ok.inj (ofValue.symm.trans ofValue')
  obtain rfl := Except.ok.inj (ofPivot.symm.trans ofPivot')
  obtain rfl := Option.some.inj (behind.symm.trans behind')
  rw [domain_of_range range] at found
  split at found
  · cases found
  · split at found
    · cases found
    · cases found
      rw [made]
      exact (enumerates_valuesFrom min max).cells

end

/-- A pivot on a range is accepted up to one integer more than the limit, and has a cell for each
integer of the range. -/
theorem pivotsOnRange {s : Scope} {pivot : Projection} {c : Column} {min max : Int64}
    (behind : pivotColumn? pivot = some c) (range : IsRange c min max) :
    PivotsOnRange s pivot min max := by
  have members := pivotDomain_of_range behind range s
  have noneIff : rangeSize min max = 0 ↔ max < min := rangeSize_eq_zero_iff
  have cells (reference value path : String) (v p : Target) (columns : List Projection)
      (asked : (Text.split '~' reference).map Text.trim = [value, path])
      (ofValue : s.resolve value = .ok v) (ofPivot : s.resolve path = .ok p)
      (isPivot : p.projection = pivot) (parsed : s.parse reference = .ok columns) :
      EnumeratesCells min max v p columns :=
    enumeratesCells_of_parse (isPivot ▸ behind) range asked ofValue ofPivot parsed
  by_cases empty : max < min
  · rw [if_pos empty] at members
    have none := noneIff.mpr empty
    have unordered : ¬min ≤ max := Int64.not_le.mpr empty
    exact {
      accepted := by simp [members, unordered]
      keys := by simp [members]
      tooWide := by simp [members, none]
      empty := by simp [members, empty]
      limited := by simp [members, none, unordered]
      cells }
  · rw [if_neg empty] at members
    have ordered : min ≤ max := Int64.not_lt.mp empty
    -- The guard compares the distance of the bounds, so that one integer more than the limit
    -- passes.
    by_cases wide : s.settings.maxPivotSpan.toNat + 1 < rangeSize min max
    · rw [if_pos wide] at members
      have tooMany : ¬rangeSize min max ≤ s.settings.maxPivotSpan.toNat := by omega
      exact {
        accepted := by simp [members, Nat.not_le.mpr wide]
        keys := by simp [members]
        tooWide := by simp [members, wide]
        empty := by simp [members, ordered]
        limited := by simp [members, tooMany, (Nat.ne_of_lt wide).symm]
        cells }
    · rw [if_neg wide] at members
      have few := Nat.not_lt.mp wide
      have limited : rangeSize min max ≤ s.settings.maxPivotSpan.toNat ↔
          rangeSize min max ≠ s.settings.maxPivotSpan.toNat + 1 := by omega
      exact {
        accepted := by simp [members, ordered, few]
        keys := by
          intro keys found
          rw [members] at found
          cases found
          exact enumerates_valuesFrom min max
        tooWide := by simp [members, few]
        empty := by simp [members, ordered]
        limited := by simp [members, ordered, limited]
        cells }

def salesRated (min max : Int64) (limit : UInt64) : Scope :=
  let product := Dimension.define "product" [
    .column ((Column.ofType "rating" .integer).withBounds (some min) (some max))]
  let sales := Fact.define "sales" [
    .role (.ofDimension product), .measure (.ofType "total" .money)]
  { schema := { facts := [sales], dimensions := [product] }
    settings := { maxPivotSpan := limit } }

theorem range_of_declared (s : Scope) (path : String) (min max : Int64)
    (declared : (s.resolve path).map (fun p => (pivotColumn? p.projection).map fun c =>
      (c.elements, c.dataType, c.min, c.max)) = .ok (some (none, .integer, some min, some max))) :
    ∃ p c, s.resolve path = .ok p ∧ pivotColumn? p.projection = some c ∧ IsRange c min max := by
  obtain ⟨p, resolved, shown⟩ := map_ok declared
  obtain ⟨c, behind, shown⟩ := Option.map_eq_some_iff.mp shown
  simp only [Prod.mk.injEq] at shown
  obtain ⟨elements, dataType, lower, upper⟩ := shown
  exact ⟨p, c, resolved, behind, elements, by rw [dataType]; rfl, lower, upper⟩

theorem pivotsOnRange_ratings :
    ∃ p c, (salesRated 1 5 4).resolve "product.rating" = .ok p ∧
      pivotColumn? p.projection = some c ∧ IsRange c 1 5 ∧ rangeSize 1 5 = 5 ∧
      PivotsOnRange (salesRated 1 5 4) p.projection 1 5 := by
  obtain ⟨p, c, resolved, behind, range⟩ :=
    range_of_declared (salesRated 1 5 4) "product.rating" 1 5 (by decide +kernel)
  exact ⟨p, c, resolved, behind, range, by decide, pivotsOnRange behind range⟩

/-- Four ratings are accepted where the limit is three. -/
theorem not_all_ranges_limited :
    ¬∀ (s : Scope) (path : String) (p : Target) (c : Column) (min max : Int64),
      s.resolve path = .ok p → pivotColumn? p.projection = some c → IsRange c min max →
      ((∃ keys, s.pivotDomain p.projection = .ok keys) ↔
        min ≤ max ∧ rangeSize min max ≤ s.settings.maxPivotSpan.toNat) := by
  intro all
  obtain ⟨p, c, resolved, behind, range⟩ :=
    range_of_declared (salesRated 1 4 3) "product.rating" 1 4 (by decide +kernel)
  have accepted := pivotDomain_of_range behind range (salesRated 1 4 3)
  rw [if_neg (by decide), if_neg (by decide)] at accepted
  have few := ((all _ _ p c 1 4 resolved behind range).mp ⟨_, accepted⟩).2
  revert few
  decide

end StarQuery.Query
