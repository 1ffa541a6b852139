import Mathlib.Data.List.Nodup
import StarQuery.Proofs.Query.Denotation
import StarQuery.Proofs.Query.Grouping
import StarQuery.Proofs.Query.Planned
import StarQuery.Proofs.Query.Record

/-!
Grouped queries are legal. Main statement: as soon as a plan groups or aggregates, every column that
its result expressions mention outside of aggregates is grouped by; a plan that does neither has no
condition on groups.
-/
namespace StarQuery.Query

open Model (Column Schema Table)
open Settings (CompilerSettings)
open Sql (Direction Expr Item Statement)

/-- No calculation has columns both inside and outside of aggregates. -/
def CalculationsUniform (s : Schema) : Prop :=
  ∀ c ∈ s.columns, ∀ e ∈ c.calculation, e.hasAggregate = false ∨ e.bareColumns = []

theorem bareColumns_apply (op : Aggregate) (e : Expr) : (op.apply e).bareColumns = [] :=
  Expr.columnsOutside_of_skip (isAggregateName_functionName op)

namespace Projection

theorem bareColumns_of_groupable {p : Projection} (groupable : p.groupExpr?.isSome = true)
    {c : Option String × String} (member : c ∈ p.expr.bareColumns) :
    Expr.column c.1 c.2 = p.expr := by
  obtain ⟨owner, shown, key, on⟩ := exists_groupedOn groupable
  rw [on.expr] at member ⊢
  obtain rfl := List.mem_singleton.mp (Expr.columnsOutside_column _ _ member)
  rfl

end Projection

theorem hasAggregate_condition (f : Filter) :
    f.condition.hasAggregate = f.column.expr.hasAggregate := by
  obtain ⟨p, values⟩ := f
  unfold Filter.condition
  split
  · next value hvalues =>
    rw [Expr.equals, Expr.hasAggregate, Expr.ofValue, Expr.hasAggregate, Bool.or_false]
  · rw [Expr.map_ofValue, Expr.hasAggregate, Expr.anyAggregate_literals, Bool.or_false]

namespace Scope

variable {s : Scope} {p : Projection}

theorem Parsed.bareColumns (uniform : CalculationsUniform s.schema)
    {table : Table} (isBase : s.base = some table) (held : s.schema.Holds table)
    (parsed : s.Parsed p) (aggregate : p.isAggregate = true) : p.expr.bareColumns = [] := by
  cases parsed with
  | plain plain =>
    cases plain with
    | whole sees isDimension => cases aggregate
    | @column owner c sees declared =>
      rcases s.columnOf_cases owner c with ⟨d, -, hp⟩ | ⟨-, hp⟩ | ⟨-, hp⟩
      · rw [hp] at aggregate
        cases aggregate
      · rw [hp] at aggregate ⊢
        rw [Projection.isAggregate, Option.any_eq_true] at aggregate
        obtain ⟨e, calculation, aggregates⟩ := aggregate
        rw [Projection.expr, calculation, Option.getD_some]
        have member : c ∈ s.schema.columns := (sees.holds isBase held).mem_columns declared
        rcases uniform c member e calculation with free | inside
        · rw [free] at aggregates
          cases aggregates
        · exact inside
      · rw [hp] at aggregate
        cases aggregate
  | cell index key plainValue plainPivot rowValue rowPivot =>
    rw [Projection.isAggregate, rowValue] at aggregate
    cases aggregate
  | @aggregate p op parsed rowValue suits =>
    obtain ⟨distinct, argument, hexpr⟩ := Projection.aggregate_isCall p op
    rw [hexpr]
    exact Expr.columnsOutside_of_skip (isAggregateName_functionName op)

end Scope

section

variable {start d : Draft} {calls : List Call} {plan : Plan} {p : Projection}
  {c : Option String × String}

/-- A column of a grouped query is an aggregate, or grouped by, or shown by its maximum. -/
theorem bareColumns_item (uniform : CalculationsUniform start.schema)
    (held : start.schema.Holds start.base)
    (records : Draft.Records start (accepted start.scope calls) d) (planned : d.Planned plan)
    (grouped : d.isGrouped = true) (member : p ∈ d.selected)
    (occurs : c ∈ (itemOf d.isGrouped d.keptColumns p).expr.bareColumns) :
    Expr.column c.1 c.2 ∈ plan.statement.groupBy := by
  rcases itemOf_cases d.isGrouped d.keptColumns p with ⟨shown, kept⟩ | ⟨shown, -⟩
  · rw [shown] at occurs
    rcases planned.placed grouped p member with groupable | aggregate
    · obtain ⟨k, hk, sameName⟩ := kept grouped groupable
      obtain rfl : k = p := List.inj_on_of_nodup_map records.nodup_names
        (Draft.mem_keptColumns hk).1 member sameName
      rw [Projection.bareColumns_of_groupable groupable occurs, planned.groupBy]
      exact expr_mem_groupings hk
    · have parsed := accepted_parsed (records.mem_selected member) rfl
      rw [parsed.bareColumns uniform rfl held aggregate] at occurs
      cases occurs
  · rw [shown, bareColumns_apply] at occurs
    cases occurs

theorem isGrouped_of_item
    (records : Draft.Records start (accepted start.scope calls) d) (member : p ∈ d.selected)
    (aggregates : (itemOf d.isGrouped d.keptColumns p).expr.hasAggregate = true) :
    d.isGrouped = true := by
  rcases itemOf_cases d.isGrouped d.keptColumns p with ⟨shown, -⟩ | ⟨-, grouped, -⟩
  · rw [shown, (accepted_parsed (records.mem_selected member) rfl).hasAggregate] at aggregates
    exact Draft.isGrouped_of_selected member (Or.inr aggregates)
  · exact grouped

theorem isGrouped_of_aggregates
    (records : Draft.Records start (accepted start.scope calls) d) (planned : d.Planned plan)
    (aggregates : plan.statement.aggregates = true) : d.isGrouped = true := by
  obtain ⟨e, member, aggregate⟩ := List.any_eq_true.mp aggregates
  rcases planned.resultExprs_cases member with ⟨p, hp, rfl⟩ | joined | ⟨term, hterm, rfl, -⟩
  · exact isGrouped_of_item records hp aggregate
  · refine Draft.isGrouped_of_groupConditions fun empty => ?_
    rw [empty] at joined
    cases joined
  · rw [(accepted_parsed (records.mem_ordering hterm) rfl).hasAggregate] at aggregate
    exact Draft.isGrouped_of_ordering hterm aggregate

theorem bareColumns_grouped (uniform : CalculationsUniform start.schema)
    (held : start.schema.Holds start.base)
    (records : Draft.Records start (accepted start.scope calls) d) (planned : d.Planned plan)
    (grouped : d.isGrouped = true) {e : Expr} (member : e ∈ plan.statement.resultExprs)
    (occurs : c ∈ e.bareColumns) : Expr.column c.1 c.2 ∈ plan.statement.groupBy := by
  rcases planned.resultExprs_cases member with
    ⟨p, hp, rfl⟩ | joined | ⟨term, hterm, rfl, aggregate, -⟩
  · exact bareColumns_item uniform held records planned grouped hp occurs
  · obtain ⟨e', he', occurs⟩ := columnsOutside_conjunction joined occurs
    obtain ⟨f, hf, aggregate, rfl⟩ := records.mem_groupConditions he'
    have inside : c ∈ f.column.expr.bareColumns := columnsOutside_condition f occurs
    rw [(accepted_parsed hf rfl).bareColumns uniform rfl held aggregate] at inside
    cases inside
  · have parsed := accepted_parsed (records.mem_ordering hterm) rfl
    rw [parsed.bareColumns uniform rfl held (aggregate grouped)] at occurs
    cases occurs

theorem having_none (records : Draft.Records start (accepted start.scope calls) d)
    (planned : d.Planned plan) (flat : plan.statement.aggregates = false) :
    plan.statement.having = none := by
  cases having : plan.statement.having with
  | none => rfl
  | some e =>
    have joined : conjunction d.groupConditions = some e := by rw [← planned.having, having]
    cases conditions : d.groupConditions with
    | nil =>
      rw [conditions] at joined
      cases joined
    | cons first rest =>
      obtain ⟨f, hf, aggregate, hfirst⟩ := records.mem_groupConditions
        (conditions ▸ List.mem_cons_self : first ∈ d.groupConditions)
      have aggregates : e.hasAggregate = true := by
        rw [hasAggregate_conjunction joined, conditions, List.any_cons, hfirst,
          hasAggregate_condition, (accepted_parsed hf rfl).hasAggregate, aggregate, Bool.true_or]
      have member : e ∈ plan.statement.resultExprs := by
        simp [Statement.resultExprs, having]
      rw [Statement.aggregates, List.any_eq_false] at flat
      exact absurd aggregates (flat e member)

end

/-- A plan that groups or aggregates mentions only grouped columns outside of aggregates. -/
theorem planOf_legal {s : Schema} {base : String} {settings : CompilerSettings} {calls : List Call}
    {plan : Plan} (uniform : CalculationsUniform s)
    (planned : planOf s base settings calls = .ok plan) :
    (plan.statement.groupBy ≠ [] ∨ plan.statement.aggregates = true →
      ∀ e ∈ plan.statement.resultExprs, ∀ c ∈ e.bareColumns,
        Expr.column c.1 c.2 ∈ plan.statement.groupBy) ∧
    (plan.statement.groupBy = [] → plan.statement.aggregates = false →
      plan.statement.having = none) := by
  obtain ⟨d, made, hplan⟩ := planOf_ok planned
  obtain ⟨table, found, records⟩ := draftOf_ok made
  have assembled := Draft.plan_ok hplan
  have held : s.Holds table := Schema.holds_of_table? found
  constructor
  · intro groups e member c occurs
    have grouped : d.isGrouped = true := by
      rcases groups with nonempty | aggregates
      · exact assembled.isGrouped_of_groupBy nonempty
      · exact isGrouped_of_aggregates records assembled aggregates
    exact bareColumns_grouped uniform held records assembled grouped member occurs
  · intro _ flat
    exact having_none records assembled flat

def shareCalls : List Call :=
  [.select ["product.sku", "product", "sales.share"], .filter ["sum.sales.total:7"],
    .order ["-product", "avg.sales.total"]]

theorem planOf_legal_sales :
    ∃ plan, planOf Schema.sales "sales" {} shareCalls = .ok plan ∧
      plan.statement.groupBy = [.ofTable "product" "sku"] ∧
      ∀ e ∈ plan.statement.resultExprs, ∀ c ∈ e.bareColumns,
        Expr.column c.1 c.2 ∈ plan.statement.groupBy := by
  have uniform : CalculationsUniform Schema.sales := by
    unfold CalculationsUniform
    decide +kernel
  have run : (planOf Schema.sales "sales" {} shareCalls).map (·.statement.groupBy) =
      .ok [.ofTable "product" "sku"] := by decide +kernel
  obtain ⟨plan, planned, grouping⟩ := map_ok run
  have grouped : plan.statement.groupBy ≠ [] := by simp [grouping]
  exact ⟨plan, planned, grouping, (planOf_legal uniform planned).1 (Or.inl grouped)⟩

end StarQuery.Query
