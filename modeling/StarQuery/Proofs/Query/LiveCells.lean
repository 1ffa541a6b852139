import Mathlib.Algebra.BigOperators.Group.List.Basic
import Mathlib.Data.List.Nodup
import StarQuery.Proofs.Query.Denotation
import StarQuery.Proofs.Sql.Equality

/-!
The cells of a crosstab in rows and groups. A cell is live in the rows where the pivot column has
the value of the cell. Main statement: a row whose pivot column has a value of the domain has one
live cell exactly when equality tells that value from the others, and cells that are summed add up
to the sum over the rows that have a live cell.
-/
namespace StarQuery.Query

open Model (Column Dimension Fact Schema)
open Sql (Expr Interpretation Row)

def cellsOf (value pivot : Projection) (keys : List Value) : List Projection :=
  keys.zipIdx.map fun (key, index) => .pivoted value pivot index key

/-- In the row the cell at `k` has what the value has there, to be shown or to be counted, and all
other cells are null. -/
structure OnlyLive (i : Interpretation) (row : Row) (value : Projection) (cells : List Projection)
    (k : Nat) : Prop where
  live : ∃ cell, cells[k]? = some cell ∧ cell.expr.value i row = value.expr.value i row ∧
    cell.countExpr.value i row = value.countExpr.value i row
  others : ∀ j cell, cells[j]? = some cell → j ≠ k →
    cell.expr.value i row = .null ∧ cell.countExpr.value i row = .null

/-- Equality tells a member of a domain from the others: it is not null, it is a number if it is a
float, and no other member is the same number. -/
structure ToldApart (keys : List Value) (key : Value) : Prop where
  notNull : key ≠ .null
  number : key.isNaN = false
  apart : ∀ other ∈ keys, other ≠ key → key.equals other = false

def Settled (keys : List Value) (v : Value) : Prop :=
  v = .null ∨ v ∈ keys ∧ ToldApart keys v ∨ v ∉ keys ∧ ∀ key ∈ keys, v.equals key = false

section

variable {i : Interpretation} {row : Row} {value pivot : Projection} {keys : List Value}
  {key : Value} {k : Nat}

theorem getElem?_cellsOf (found : keys[k]? = some key) :
    (cellsOf value pivot keys)[k]? = some (.pivoted value pivot k key) := by
  simp [cellsOf, found]

theorem exists_key_of_cell {cell : Projection} (found : (cellsOf value pivot keys)[k]? = some cell) :
    ∃ key, keys[k]? = some key ∧ cell = .pivoted value pivot k key := by
  simp only [cellsOf, List.getElem?_map, List.getElem?_zipIdx, Option.map_map,
    Option.map_eq_some_iff, Function.comp_apply, Nat.zero_add] at found
  obtain ⟨key, found, rfl⟩ := found
  exact ⟨key, found, rfl⟩

theorem value_ofValue (i : Interpretation) (row : Row) (v : Value) :
    (Expr.ofValue v).value i row = v := by
  rw [Expr.ofValue, Expr.value]
  cases v <;> rfl

variable (equality : i.operator .eq = Value.equality)

include equality

theorem value_cellExpr (row : Row) (condition : Expr) (key : Value) (result : Expr) :
    (Projection.cellExpr condition key result).value i row =
      if (condition.value i row).equals key then result.value i row else .null := by
  rw [Projection.cellExpr, Expr.equals, Expr.value, Expr.value, equality, value_ofValue]
  simp only [Value.equality_eq_true_iff]

theorem live_of_equals (holds : (pivot.expr.value i row).equals key = true) :
    (Projection.pivoted value pivot k key).expr.value i row = value.expr.value i row ∧
      (Projection.pivoted value pivot k key).countExpr.value i row =
        value.countExpr.value i row := by
  rw [Projection.expr, Projection.countExpr, value_cellExpr equality, value_cellExpr equality,
    if_pos holds, if_pos holds]
  exact ⟨rfl, rfl⟩

theorem dead_of_not_equals (fails : (pivot.expr.value i row).equals key = false) :
    (Projection.pivoted value pivot k key).expr.value i row = .null ∧
      (Projection.pivoted value pivot k key).countExpr.value i row = .null := by
  rw [Projection.expr, Projection.countExpr, value_cellExpr equality, value_cellExpr equality,
    fails, if_neg Bool.false_ne_true, if_neg Bool.false_ne_true]
  exact ⟨rfl, rfl⟩

theorem dead_of_null (unknown : pivot.expr.value i row = .null) :
    ∀ cell ∈ cellsOf value pivot keys,
      cell.expr.value i row = .null ∧ cell.countExpr.value i row = .null := by
  intro cell member
  obtain ⟨k, found⟩ := List.mem_iff_getElem?.mp member
  obtain ⟨key, -, rfl⟩ := exists_key_of_cell found
  refine dead_of_not_equals equality ?_
  rw [unknown, Value.null_equals]

theorem onlyLive_of_toldApart (distinct : keys.Nodup) (member : pivot.expr.value i row ∈ keys)
    (apart : ToldApart keys (pivot.expr.value i row)) :
    ∃ k, OnlyLive i row value (cellsOf value pivot keys) k := by
  obtain ⟨k, found⟩ := List.mem_iff_getElem?.mp member
  obtain ⟨small, -⟩ := List.getElem?_eq_some_iff.mp found
  refine ⟨k, ⟨_, getElem?_cellsOf found, ?_⟩, fun j cell placed other => ?_⟩
  · exact live_of_equals equality (Value.equals_self_iff.mpr ⟨apart.notNull, apart.number⟩)
  · obtain ⟨key, found', rfl⟩ := exists_key_of_cell placed
    refine dead_of_not_equals equality (apart.apart key (List.mem_of_getElem? found') ?_)
    rintro rfl
    exact other ((List.getElem?_inj small distinct).mp (found.trans found'.symm)).symm

theorem toldApart_of_onlyLive (member : pivot.expr.value i row ∈ keys)
    (some : value.expr.value i row ≠ .null)
    (only : OnlyLive i row value (cellsOf value pivot keys) k) :
    ToldApart keys (pivot.expr.value i row) := by
  -- A member that the value is equal to has a live cell, so that it stands at `k`.
  have placed {j : Nat} {key : Value} (found : keys[j]? = .some key)
      (holds : (pivot.expr.value i row).equals key = true) : j = k := by
    by_contra other
    have dead := (only.others j _ (getElem?_cellsOf found) other).1
    rw [(live_of_equals equality holds).1] at dead
    exact some dead
  obtain ⟨cell, found, shown, -⟩ := only.live
  obtain ⟨key, found, rfl⟩ := exists_key_of_cell found
  have holds : (pivot.expr.value i row).equals key = true := by
    by_contra fails
    rw [Bool.not_eq_true] at fails
    rw [(dead_of_not_equals equality fails).1] at shown
    exact some shown.symm
  have reflexive := Value.equals_self_of_equals holds
  obtain ⟨notNull, number⟩ := Value.equals_self_iff.mp reflexive
  obtain ⟨j, here⟩ := List.mem_iff_getElem?.mp member
  obtain rfl := placed here reflexive
  refine ⟨notNull, number, fun other inside differs => ?_⟩
  by_contra equal
  obtain ⟨j', there⟩ := List.mem_iff_getElem?.mp inside
  obtain rfl := placed there (by simpa using equal)
  exact differs (Option.some.inj (there.symm.trans here))

omit equality

variable {M : Type} [AddCommMonoid M] {amount : Value → M} {group : List Row}

theorem sum_ite_equals {v : Value} (distinct : keys.Nodup) (settled : Settled keys v) (m : M) :
    (keys.map fun key => if v.equals key then m else 0).sum =
      if v ≠ .null ∧ v ∈ keys then m else 0 := by
  rcases settled with rfl | ⟨member, apart⟩ | ⟨outside, unequal⟩
  · simp [Value.null_equals]
  · have single := List.sum_map_eq_nsmul_single v (fun key => if v.equals key then m else 0)
      fun key other inside => by rw [apart.apart key inside other, if_neg Bool.false_ne_true]
    have reflexive := Value.equals_self_iff.mpr ⟨apart.notNull, apart.number⟩
    rw [single, List.count_eq_one_of_mem distinct member, one_nsmul, if_pos reflexive,
      if_pos ⟨apart.notNull, member⟩]
  · rw [if_neg fun inside => outside inside.2]
    refine List.sum_eq_zero fun x hx => ?_
    obtain ⟨key, inside, rfl⟩ := List.mem_map.mp hx
    rw [unequal key inside, if_neg Bool.false_ne_true]

theorem groupValue_sum (i : Interpretation) (p : Projection) (group : List Row) :
    (Projection.aggregate p .sum).expr.groupValue i group =
      i.aggregate "SUM" false (group.map fun row => p.expr.value i row) := by
  have called : (Projection.aggregate p .sum).expr = .function "SUM" p.expr := by
    rw [Projection.expr, if_neg (by decide)]
    rfl
  have isAggregate : Expr.isAggregateName "SUM" = true := by decide +kernel
  have notMax : ¬Text.sameIgnoringAsciiCase "MAX" "SUM" = true := by decide +kernel
  rw [called, Expr.function, Expr.groupValue, if_pos isAggregate, Expr.foldValues, if_neg notMax]

theorem amount_cell (equality : i.operator .eq = Value.equality) (null : amount .null = 0)
    (sums : ∀ vs, amount (i.aggregate "SUM" false vs) = (vs.map amount).sum) (k : Nat)
    (key : Value) (group : List Row) :
    amount ((Projection.aggregate (.pivoted value pivot k key) .sum).expr.groupValue i group) =
      (group.map fun row =>
        if (pivot.expr.value i row).equals key then amount (value.expr.value i row) else 0).sum := by
  rw [groupValue_sum, sums, List.map_map]
  refine congrArg List.sum (List.map_congr_left fun row _ => ?_)
  rw [Function.comp_apply]
  split
  · next holds => rw [(live_of_equals equality holds).1]
  · next fails =>
    rw [Bool.not_eq_true] at fails
    rw [(dead_of_not_equals equality fails).1, null]

theorem sum_cells (equality : i.operator .eq = Value.equality) (null : amount .null = 0)
    (sums : ∀ vs, amount (i.aggregate "SUM" false vs) = (vs.map amount).sum)
    (distinct : keys.Nodup) (group : List Row)
    (settled : ∀ row ∈ group, Settled keys (pivot.expr.value i row)) :
    ((cellsOf value pivot keys).map fun cell =>
        amount ((Projection.aggregate cell .sum).expr.groupValue i group)).sum =
      ((group.filter fun row =>
        pivot.expr.value i row ≠ .null ∧ pivot.expr.value i row ∈ keys).map
          fun row => amount (value.expr.value i row)).sum := by
  have cells : ((cellsOf value pivot keys).map fun cell =>
      amount ((Projection.aggregate cell .sum).expr.groupValue i group)) =
      keys.map fun key => (group.map fun row =>
        if (pivot.expr.value i row).equals key then amount (value.expr.value i row) else 0).sum := by
    conv_rhs => rw [← List.zipIdx_map_fst 0 keys]
    rw [cellsOf, List.map_map, List.map_map]
    exact List.map_congr_left fun entry _ => amount_cell equality null sums entry.2 entry.1 group
  rw [cells]
  clear cells
  induction group with
  | nil => simp
  | cons row group ih =>
    have rest := ih fun r inside => settled r (List.mem_cons_of_mem _ inside)
    have first := sum_ite_equals distinct (settled row List.mem_cons_self)
      (amount (value.expr.value i row))
    simp only [List.map_cons, List.sum_cons, List.sum_map_add, rest, first]
    by_cases inside : pivot.expr.value i row ≠ .null ∧ pivot.expr.value i row ∈ keys
    · rw [if_pos inside, List.filter_cons_of_pos (by simpa using inside), List.map_cons,
        List.sum_cons]
    · rw [if_neg inside, List.filter_cons_of_neg (by simpa using inside), zero_add]

end

section

variable {keys : List Value} {key : Value}

theorem toldApart_of_exact (exact : ∀ other ∈ keys, other.isFloat = false) (member : key ∈ keys)
    (notNull : key ≠ .null) : ToldApart keys key where
  notNull := notNull
  number := by
    have notFloat := exact key member
    cases key with
    | float x => cases notFloat
    | _ => rfl
  apart other inside different :=
    Value.equals_eq_false different.symm (exact key member) (exact other inside)

theorem nodup_valuesFrom {min max : Int64} (ordered : ¬max < min) :
    (valuesFrom min.toInt ((max.toInt - min.toInt).toNat + 1)).Nodup := by
  refine List.Nodup.map_on (fun a ha b hb same => ?_) List.nodup_range
  have small := min.le_toInt
  have large := max.toInt_lt
  have ordered : min.toInt ≤ max.toInt := Int64.le_iff_toInt_le.mp (Int64.not_lt.mp ordered)
  have within {n : Nat} (inside : n ∈ List.range ((max.toInt - min.toInt).toNat + 1)) :
      (Int64.ofInt (min.toInt + n)).toInt = min.toInt + n := by
    rw [List.mem_range] at inside
    exact Int64.toInt_ofInt_of_le (by omega) (by omega)
  have words : (Int64.ofInt (min.toInt + a)).toInt = (Int64.ofInt (min.toInt + b)).toInt :=
    congrArg Int64.toInt (Value.int.inj same)
  rw [within ha, within hb] at words
  omega

theorem domain_ok {limit : UInt64} {c : Column} (found : domain limit c = .ok keys)
    (distinct : ∀ elements ∈ c.elements, elements.Nodup) :
    keys.Nodup ∧ (c.elements = none → ∀ key ∈ keys, key ≠ .null ∧ key.isFloat = false) := by
  unfold domain at found
  split at found
  · next elements declared =>
    cases found
    refine ⟨distinct keys declared, fun none => ?_⟩
    rw [none] at declared
    cases declared
  · split at found
    · cases found
      exact ⟨by decide, fun _ => by decide⟩
    · split at found
      · cases found
      · split at found
        · next min max _ _ =>
          split at found
          · cases found
          · next ordered =>
            dsimp only at found
            split at found
            · cases found
            · cases found
              refine ⟨nodup_valuesFrom ordered, fun _ key member => ?_⟩
              obtain ⟨n, -, rfl⟩ := List.mem_map.mp member
              exact ⟨nofun, rfl⟩
        · cases found

end

namespace Scope

variable {s : Scope} {value pivot : String} {columns : List Projection}

theorem applyOperator_eq {p q : Projection} {operator : Option Aggregate}
    (applied : applyOperator p operator = .ok q) : q = operator.elim p (.aggregate p) := by
  cases operator with
  | none => exact (Except.ok.inj applied).symm
  | some op =>
    rw [applyOperator] at applied
    split at applied
    · cases applied
    · split at applied
      · cases applied
      · exact (Except.ok.inj applied).symm

theorem crosstab_cells (found : s.crosstab value pivot = .ok columns) :
    ∃ v p c keys, s.resolve value = .ok v ∧ s.resolve pivot = .ok p ∧
      pivotColumn? p.projection = some c ∧ domain s.settings.maxPivotSpan c = .ok keys ∧
      columns = (cellsOf v.projection p.projection keys).map
        fun cell => v.operator.elim cell (.aggregate cell) := by
  obtain ⟨v, hv, found⟩ := bind_ok found
  obtain ⟨p, hp, found⟩ := bind_ok found
  dsimp only at found
  split at found
  · cases found
  · split at found
    · cases found
    · obtain ⟨keys, members, found⟩ := bind_ok found
      unfold pivotDomain at members
      split at members
      · cases members
      · next c behind =>
        refine ⟨v, p, c, keys, hv, hp, behind, ?_, ?_⟩
        · cases fromColumn : domain s.settings.maxPivotSpan c with
          | error fault =>
            rw [fromColumn] at members
            cases members
          | ok keys' =>
            rw [fromColumn, Except.mapError] at members
            rw [Except.ok.inj members]
        · rw [cellsOf, List.map_map]
          exact eq_map_of_forall₂ (fun _ _ applied => applyOperator_eq applied)
            (mapM_eq_ok_iff.mp found)

theorem parse_of_crosstab {reference : String}
    (asked : (Text.split '~' reference).map Text.trim = [value, pivot]) :
    s.parse reference = s.crosstab value pivot := by
  rw [parse, asked]

end Scope

/-- What the cells of a crosstab show of rows and groups. -/
structure Crosses (i : Interpretation) (value pivot : Projection) (keys : List Value) : Prop where
  live : ∀ row, pivot.expr.value i row ∈ keys → ToldApart keys (pivot.expr.value i row) →
    ∃ k, OnlyLive i row value (cellsOf value pivot keys) k
  only : ∀ row, pivot.expr.value i row ∈ keys → value.expr.value i row ≠ .null →
    (∃ k, OnlyLive i row value (cellsOf value pivot keys) k) →
      ToldApart keys (pivot.expr.value i row)
  null : ∀ row, pivot.expr.value i row = .null → ∀ cell ∈ cellsOf value pivot keys,
    cell.expr.value i row = .null ∧ cell.countExpr.value i row = .null
  sum : ∀ {M : Type} [AddCommMonoid M] (amount : Value → M), amount .null = 0 →
    (∀ vs, amount (i.aggregate "SUM" false vs) = (vs.map amount).sum) → ∀ group : List Row,
      (∀ row ∈ group, Settled keys (pivot.expr.value i row)) →
        ((cellsOf value pivot keys).map fun cell =>
            amount ((Projection.aggregate cell .sum).expr.groupValue i group)).sum =
          ((group.filter fun row =>
            pivot.expr.value i row ≠ .null ∧ pivot.expr.value i row ∈ keys).map
              fun row => amount (value.expr.value i row)).sum

/-- The cells of an accepted crosstab are those of its domain, and in a row with a member of the
domain one of them is live exactly when equality tells the member from the others: always, if the
domain is one of truth values or whole numbers between bounds, and for all members but null, if no
member is a float. -/
theorem crosstab_live {s : Scope} {reference value pivot : String} {columns : List Projection}
    (asked : (Text.split '~' reference).map Text.trim = [value, pivot])
    (parsed : s.parse reference = .ok columns)
    (distinct : ∀ p, s.resolve pivot = .ok p → ∀ c ∈ pivotColumn? p.projection,
      ∀ elements ∈ c.elements, elements.Nodup) :
    ∃ v p c keys, s.resolve value = .ok v ∧ s.resolve pivot = .ok p ∧
      pivotColumn? p.projection = some c ∧ domain s.settings.maxPivotSpan c = .ok keys ∧
      (columns = (cellsOf v.projection p.projection keys).map
        fun cell => v.operator.elim cell (.aggregate cell)) ∧
      (c.elements = none → ∀ key ∈ keys, ToldApart keys key) ∧
      ((∀ key ∈ keys, key.isFloat = false) → ∀ key ∈ keys, key ≠ .null → ToldApart keys key) ∧
      ∀ i : Interpretation, i.operator .eq = Value.equality →
        Crosses i v.projection p.projection keys := by
  rw [Scope.parse_of_crosstab asked] at parsed
  obtain ⟨v, p, c, keys, hv, hp, behind, found, cells⟩ := Scope.crosstab_cells parsed
  obtain ⟨nodup, undeclared⟩ := domain_ok found (distinct p hp c behind)
  refine ⟨v, p, c, keys, hv, hp, behind, found, cells, fun none key member => ?_,
    fun exact key => toldApart_of_exact exact, fun i equality => ?_⟩
  · have exact (other : Value) (inside : other ∈ keys) := (undeclared none other inside).2
    exact toldApart_of_exact exact member (undeclared none key member).1
  · exact {
      live := fun row => onlyLive_of_toldApart equality nodup
      only := fun row member some ⟨k, only⟩ => toldApart_of_onlyLive equality member some only
      null := fun row => dead_of_null equality
      sum := fun amount null sums group => sum_cells equality null sums nodup group }

def salesOf (categories : List Value) : Scope :=
  let product := Dimension.define "product" [
    .column ((Column.ofType "category" .string).withElements categories)]
  let sales := Fact.define "sales" [
    .role (.ofDimension product), .measure (.ofType "total" .money)]
  { schema := { facts := [sales], dimensions := [product] } }

def comparing : Interpretation where
  operator op := if op = .eq then Value.equality else fun _ _ => .null
  function _ _ := .null
  aggregate _ _ _ := .null
  isIn _ _ := .null

def saleOf (category : Value) : Row := fun _ column => if column = "total" then .int 5 else category

theorem crosstab_live_tools :
    ∃ columns, (salesOf [.text "tools", .text "toys"]).parse "sum.sales.total~product.category" =
        .ok columns ∧
      ∃ v p keys, columns = (cellsOf v p keys).map (.aggregate · .sum) ∧
        ∃ k, OnlyLive comparing (saleOf (.text "toys")) v (cellsOf v p keys) k := by
  let s := salesOf [.text "tools", .text "toys"]
  have run : (s.parse "sum.sales.total~product.category").map (fun _ => ()) = .ok () := by
    decide +kernel
  obtain ⟨columns, parsed, -⟩ := map_ok run
  have ofValue : (s.resolve "sum.sales.total").map (·.operator) = .ok (some .sum) := by
    decide +kernel
  have ofPivot : (s.resolve "product.category").map (fun t =>
      (t.projection.expr, (pivotColumn? t.projection).bind (·.elements))) =
      .ok (.ofTable "product" "category", some [.text "tools", .text "toys"]) := by decide +kernel
  obtain ⟨v, hv, operator⟩ := map_ok ofValue
  obtain ⟨p, hp, shown⟩ := map_ok ofPivot
  obtain ⟨expr, elements⟩ := Prod.ext_iff.mp shown
  have asked : (Text.split '~' "sum.sales.total~product.category").map Text.trim =
      ["sum.sales.total", "product.category"] := by decide +kernel
  have distinct : ∀ p, s.resolve "product.category" = .ok p → ∀ c ∈ pivotColumn? p.projection,
      ∀ elements ∈ c.elements, elements.Nodup := by
    intro p' hp' c behind listed isListed
    obtain rfl := Except.ok.inj (hp.symm.trans hp')
    rw [Option.mem_def.mp behind, Option.bind_some, isListed] at elements
    cases elements
    decide
  obtain ⟨v', p', c, keys, hv', hp', behind, members, cells, -, exact, crosses⟩ :=
    crosstab_live asked parsed distinct
  obtain rfl := Except.ok.inj (hv.symm.trans hv')
  obtain rfl := Except.ok.inj (hp.symm.trans hp')
  rw [behind, Option.bind_some] at elements
  rw [domain, show c.elements = some _ from elements] at members
  obtain rfl := Except.ok.inj members
  have here : p.projection.expr.value comparing (saleOf (.text "toys")) = .text "toys" := by
    rw [show p.projection.expr = _ from expr]
    rfl
  rw [show v.operator = some .sum from operator] at cells
  refine ⟨columns, parsed, v.projection, p.projection, _, cells, ?_⟩
  refine (crosses comparing rfl).live (saleOf (.text "toys")) ?_ ?_
  · rw [here]
    decide
  · rw [here]
    exact exact (by decide) _ (by decide) (by decide)

/-- A missing category is declared and has a cell, which is never live. -/
theorem not_all_crosstabs_live :
    ¬∀ (s : Scope) (reference value pivot : String) (columns : List Projection) (v p : Target)
      (keys : List Value) (i : Interpretation) (row : Row),
      (Text.split '~' reference).map Text.trim = [value, pivot] → s.parse reference = .ok columns →
      s.resolve value = .ok v → s.resolve pivot = .ok p → s.pivotDomain p.projection = .ok keys →
      keys.Nodup → i.operator .eq = Value.equality → p.projection.expr.value i row ∈ keys →
      ∃ k, OnlyLive i row v.projection (cellsOf v.projection p.projection keys) k := by
  intro all
  let s := salesOf [.null, .text "tools"]
  have run : (s.parse "sum.sales.total~product.category").map (fun _ => ()) = .ok () := by
    decide +kernel
  obtain ⟨columns, parsed, -⟩ := map_ok run
  have ofValue : (s.resolve "sum.sales.total").map (·.projection.expr) =
      .ok (.ofTable "sales" "total") := by decide +kernel
  have ofPivot : (s.resolve "product.category").map (fun t =>
      (t.projection.expr, (s.pivotDomain t.projection).toOption)) =
      .ok (.ofTable "product" "category", some [.null, .text "tools"]) := by decide +kernel
  obtain ⟨v, hv, total⟩ := map_ok ofValue
  obtain ⟨p, hp, shown⟩ := map_ok ofPivot
  obtain ⟨category, members⟩ := Prod.ext_iff.mp shown
  have found : s.pivotDomain p.projection = .ok [.null, .text "tools"] := by
    cases keys : s.pivotDomain p.projection with
    | error e => rw [keys] at members; cases members
    | ok keys' =>
      rw [keys] at members
      rw [Option.some.inj members]
  have here : p.projection.expr.value comparing (saleOf .null) = .null := by
    rw [show p.projection.expr = _ from category]
    rfl
  have five : v.projection.expr.value comparing (saleOf .null) ≠ .null := by
    rw [total]
    decide
  have missing : p.projection.expr.value comparing (saleOf .null) ∈ [.null, .text "tools"] := by
    rw [here]
    decide
  obtain ⟨k, only⟩ := all s _ _ _ columns v p _ comparing (saleOf .null)
    (by decide +kernel) parsed hv hp found (by decide) rfl missing
  exact (toldApart_of_onlyLive rfl missing five only).notNull here

end StarQuery.Query
