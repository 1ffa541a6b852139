import StarQuery.Proofs.Query.Denotation
import StarQuery.Proofs.Sql.Calls

/-!
The shapes of columns. Main statement: a reference denotes plain columns, cells of plain columns, or
an operator over one of these that suits the values it folds; the columns that count as aggregates
are those whose expressions call one, and none of them is grouped by.
-/
namespace StarQuery.Query

open Model (Column DataType Dimension Fact Table)
open Sql (Expr Token)

namespace Projection

inductive IsPlain : Projection → Prop where
  | physical (owner : Table) (column : Column) : IsPlain (.attribute owner column)
  | dimension (owner : Table) (main : Option String) (key : String) :
      IsPlain (.dimension owner main key)
  | identifier (owner : Table) (column : Column) (key : String) :
      IsPlain (.identifier owner column key)
  | calculated (owner : Table) (column : Column) : IsPlain (.calculated owner column)

/-- An operator is not refused for the values of a plain column. Members of a dimension can be
counted, and are not what semi-additive means. -/
inductive Admits (op : Aggregate) : Projection → Prop where
  | physical {owner : Table} {column : Column}
      (suits : op.rejection? ⟨column.dataType, column.semiAdditive, column.countable⟩ = none) :
      Admits op (.attribute owner column)
  | calculated {owner : Table} {column : Column}
      (suits : op.rejection? ⟨column.dataType, column.semiAdditive, column.countable⟩ = none) :
      Admits op (.calculated owner column)
  | identifier {owner : Table} {column : Column} {key : String}
      (suits : op.rejection? ⟨column.dataType, false, true⟩ = none) :
      Admits op (.identifier owner column key)
  | dimension {owner : Table} {main : Option String} {key : String}
      (suits : op.rejection? ⟨(Projection.dimension owner main key).dataType, false, true⟩ = none) :
      Admits op (.dimension owner main key)

/-- What references denote: nothing that is an aggregate is wrapped in an operator or a cell. -/
inductive Shaped : Projection → Prop where
  | plain {p : Projection} (plain : p.IsPlain) : Shaped p
  | aggregate {p : Projection} {op : Aggregate} (plain : p.IsPlain)
      (rowValue : p.isAggregate = false) (admits : p.Admits op) : Shaped (.aggregate p op)
  | cell {value pivot : Projection} {index : Nat} {key : Value} (plainValue : value.IsPlain)
      (plainPivot : pivot.IsPlain) (rowValue : value.isAggregate = false)
      (rowPivot : pivot.isAggregate = false) : Shaped (.pivoted value pivot index key)
  | aggregateCell {value pivot : Projection} {index : Nat} {key : Value} {op : Aggregate}
      (plainValue : value.IsPlain) (plainPivot : pivot.IsPlain)
      (rowValue : value.isAggregate = false) (rowPivot : pivot.isAggregate = false)
      (admits : value.Admits op) : Shaped (.aggregate (.pivoted value pivot index key) op)

variable {p : Projection}

theorem IsPlain.admits {op : Aggregate} (plain : p.IsPlain)
    (suits : op.rejection? p.profile = none) : p.Admits op := by
  cases plain with
  | physical owner column => exact Admits.physical suits
  | dimension owner main key => exact Admits.dimension suits
  | identifier owner column key => exact Admits.identifier suits
  | calculated owner column => exact Admits.calculated suits

theorem groupExpr?_of_isAggregate : p.isAggregate = true → p.groupExpr? = none := by
  cases p with
  | calculated owner column => exact fun _ => rfl
  | aggregate inner op => exact fun _ => rfl
  | pivoted value pivot index key => exact fun _ => rfl
  | _ => exact nofun

end Projection

namespace Scope

variable {s : Scope} {p : Projection}

theorem Plain.isPlain (plain : s.Plain p) : p.IsPlain := by
  cases plain with
  | whole sees isDimension => exact .dimension _ _ _
  | @column owner c sees declared =>
    rcases s.columnOf_cases owner c with ⟨d, -, hp⟩ | ⟨-, hp⟩ | ⟨-, hp⟩
    · rw [hp]
      exact .identifier owner c (s.keyOf d)
    · rw [hp]
      exact .calculated owner c
    · rw [hp]
      exact .physical owner c

theorem Parsed.shaped (parsed : s.Parsed p) : p.Shaped := by
  cases parsed with
  | plain plain => exact .plain plain.isPlain
  | cell index key plainValue plainPivot rowValue rowPivot =>
    exact .cell plainValue.isPlain plainPivot.isPlain rowValue rowPivot
  | aggregate parsed rowInner suits =>
    -- An operator over an operator is refused, so that only two shapes are left under one.
    cases parsed with
    | plain plain => exact .aggregate plain.isPlain rowInner (plain.isPlain.admits suits)
    | cell index key plainValue plainPivot rowValue rowPivot =>
      exact .aggregateCell plainValue.isPlain plainPivot.isPlain rowValue rowPivot
        (plainValue.isPlain.admits suits)
    | aggregate parsed rowValue suits => cases rowInner

/-- The columns of a reference have one of four shapes, and those that count as aggregates are those
that call one; what is written of them does so as well, unless all calls are in memberships in empty
lists. -/
theorem parse_shaped {reference : String} {columns : List Projection}
    (found : s.parse reference = .ok columns) {p : Projection} (member : p ∈ columns) :
    p.Shaped ∧ (p.isAggregate = true ↔ p.expr.CallsAggregate) ∧
      (p.isAggregate = true → p.groupExpr? = none) ∧
      (p.expr.tokens.any Token.callsAggregate = true ↔ p.expr.WritesAggregate) := by
  have parsed : s.Parsed p := Yields.parsed ⟨reference, columns, found, member⟩
  refine ⟨parsed.shaped, ?_, Projection.groupExpr?_of_isAggregate, Expr.any_tokens_iff p.expr⟩
  rw [← parsed.hasAggregate, Expr.hasAggregate_iff]

def ratedSales : Scope where
  schema :=
    let product := Dimension.define "product" [
      .column ((Column.ofType "rating" .integer).withBounds (some 1) (some 3))]
    let rare := Expr.isIn (.function "SUM" (.ofTable "sales" "total")) []
    let fact := Fact.define "sales" [
      .role (.ofDimension product), .measure (.ofType "total" .money),
      .measure ((Column.ofType "rare" .boolean).calculated rare)]
    { facts := [fact], dimensions := [product] }

theorem parse_shaped_ratedSales :
    ∃ columns p, ratedSales.parse "sum.sales.total ~ product.rating" = .ok columns ∧
      p ∈ columns ∧ p.name = "sales.total~product.rating.2.sum" ∧ p.isAggregate = true ∧
      p.Shaped ∧ (p.isAggregate = true ↔ p.expr.CallsAggregate) ∧
      (p.isAggregate = true → p.groupExpr? = none) ∧
      (p.expr.tokens.any Token.callsAggregate = true ↔ p.expr.WritesAggregate) := by
  have run : (ratedSales.parse "sum.sales.total ~ product.rating").map
      (·.map fun p => (p.name, p.isAggregate)) =
      .ok [("sales.total~product.rating.0.sum", true), ("sales.total~product.rating.1.sum", true),
        ("sales.total~product.rating.2.sum", true)] := by decide +kernel
  obtain ⟨columns, found, shown⟩ := map_ok run
  obtain ⟨p, member, hp⟩ : ∃ p ∈ columns, (p.name, p.isAggregate) =
      ("sales.total~product.rating.2.sum", true) := by
    rw [← List.mem_map, shown]
    simp
  obtain ⟨named, aggregate⟩ := Prod.mk.inj hp
  exact ⟨columns, p, found, member, named, aggregate, parse_shaped found member⟩

/-- A column may count as an aggregate although no aggregate is written for it. -/
theorem not_all_aggregates_written :
    ¬∀ (s : Scope) (reference : String) (columns : List Projection),
      s.parse reference = .ok columns → ∀ p ∈ columns,
        (p.isAggregate = true ↔ p.expr.tokens.any Token.callsAggregate = true) := by
  intro all
  have run : (ratedSales.parse "sales.rare").map (·.map fun p =>
      (p.isAggregate, p.expr.tokens)) = .ok [(true, [.keyword .never])] := by decide +kernel
  obtain ⟨columns, found, shown⟩ := map_ok run
  obtain ⟨p, member, hp⟩ : ∃ p ∈ columns, (p.isAggregate, p.expr.tokens) =
      (true, [Token.keyword .never]) := by
    rw [← List.mem_map, shown]
    exact List.mem_singleton_self _
  obtain ⟨aggregate, written⟩ := Prod.mk.inj hp
  have called := (all ratedSales "sales.rare" columns found p member).mp aggregate
  rw [written] at called
  cases called

end Scope

end StarQuery.Query
