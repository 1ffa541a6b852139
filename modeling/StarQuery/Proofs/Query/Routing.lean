import StarQuery.Proofs.Query.History
import StarQuery.Proofs.Query.Legality

/-!
Aggregates stand where they may. Main statement: rows, groupings and joins are free of aggregates,
the conditions of filters are conditions on groups just if they hold an aggregate, and no aggregate
is taken of an aggregate, unless a calculation does so.
-/
namespace StarQuery.Sql.Expr

mutual

def nestsAggregates : Expr → Bool
  | .column _ _ => false
  | .literal _ => false
  | .binary _ left right => left.nestsAggregates || right.nestsAggregates
  | .call name _ argument =>
    isAggregateName name && argument.hasAggregate || argument.nestsAggregates
  | .caseWhen condition result => condition.nestsAggregates || result.nestsAggregates
  | .isIn subject choices => subject.nestsAggregates || anyNested choices

def anyNested : List Expr → Bool
  | [] => false
  | choice :: choices => choice.nestsAggregates || anyNested choices

end

theorem anyNested_literals (ls : List Literal) : anyNested (ls.map .literal) = false := by
  induction ls with
  | nil => rfl
  | cons l ls ih => rw [List.map_cons, anyNested, ih]; rfl

/-- What an expression asks for at the same time. -/
def conjuncts : Expr → List Expr
  | .binary .and left right => left.conjuncts ++ right.conjuncts
  | e => [e]

end StarQuery.Sql.Expr

namespace StarQuery.Query

open Model (Column Schema Table)
open Sql (Expr Statement)

def CalculationsUnnested (s : Schema) : Prop :=
  ∀ c ∈ s.columns, ∀ e ∈ c.calculation, e.nestsAggregates = false

def conjunctsOf (clause : Option Expr) : List Expr := clause.elim [] Expr.conjuncts

/-- Where aggregates stand in a plan with the given filters. -/
structure Plan.Routes (fs : List Filter) (plan : Plan) : Prop where
  rows : conjunctsOf plan.statement.condition =
    (fs.map Filter.condition).filter fun e => !e.hasAggregate
  groups : conjunctsOf plan.statement.having =
    (fs.map Filter.condition).filter fun e => e.hasAggregate
  condition : ∀ e ∈ plan.statement.condition, e.hasAggregate = false
  groupBy : ∀ e ∈ plan.statement.groupBy, e.hasAggregate = false
  joins : ∀ join ∈ plan.statement.joins, join.on.hasAggregate = false
  unnested : ∀ e ∈ plan.statement.clauseExprs, e.nestsAggregates = false
  unnestedJoins : ∀ join ∈ plan.statement.joins, join.on.nestsAggregates = false

theorem conjuncts_conjunction {es : List Expr} {all : Expr} (joined : conjunction es = some all) :
    all.conjuncts = es.flatMap Expr.conjuncts := by
  induction joined using conjunction_induct with
  | single e => rw [List.flatMap_cons, List.flatMap_nil, List.append_nil]
  | more es all last _ _ ih => rw [Expr.conjuncts, ih, List.flatMap_append, List.flatMap_singleton]

theorem nestsAggregates_conjunction {es : List Expr} {all : Expr}
    (joined : conjunction es = some all) : all.nestsAggregates = es.any Expr.nestsAggregates := by
  induction joined using conjunction_induct with
  | single e => rw [List.any_cons, List.any_nil, Bool.or_false]
  | more es all last _ _ ih =>
    rw [Expr.nestsAggregates, ih, List.any_append, List.any_cons, List.any_nil, Bool.or_false]

theorem conjuncts_condition (f : Filter) : f.condition.conjuncts = [f.condition] := by
  unfold Filter.condition
  split <;> rfl

theorem nestsAggregates_condition (f : Filter) :
    f.condition.nestsAggregates = f.column.expr.nestsAggregates := by
  unfold Filter.condition
  split
  · rw [Expr.equals, Expr.nestsAggregates, Expr.ofValue, Expr.nestsAggregates, Bool.or_false]
  · rw [Expr.map_ofValue, Expr.nestsAggregates, Expr.anyNested_literals, Bool.or_false]

theorem conjunctsOf_conditions (fs : List Filter) :
    conjunctsOf (conjunction (fs.map Filter.condition)) = fs.map Filter.condition := by
  cases joined : conjunction (fs.map Filter.condition) with
  | none =>
    cases fs with
    | nil => rfl
    | cons f fs => cases joined
  | some all =>
    rw [conjunctsOf, Option.elim_some, conjuncts_conjunction joined, List.flatMap_map]
    simp only [conjuncts_condition]
    exact List.flatMap_pure_eq_map Filter.condition fs

theorem Projection.nestsAggregates_of_groupable {p : Projection}
    (groupable : p.groupExpr?.isSome = true) :
    p.expr.hasAggregate = false ∧ p.expr.nestsAggregates = false := by
  obtain ⟨t, shown, key, on⟩ := exists_groupedOn groupable
  rw [on.expr]
  exact ⟨rfl, rfl⟩

theorem nestsAggregates_cellExpr {pivot result : Expr} (key : Value)
    (inPivot : pivot.nestsAggregates = false) (inResult : result.nestsAggregates = false) :
    (Projection.cellExpr pivot key result).nestsAggregates = false := by
  rw [Projection.cellExpr, Expr.nestsAggregates, Expr.equals, Expr.nestsAggregates, inPivot,
    inResult]
  rfl

theorem nestsAggregates_call (name : String) (distinct : Bool) {e : Expr}
    (free : e.hasAggregate = false) (flat : e.nestsAggregates = false) :
    (Expr.call name distinct e).nestsAggregates = false := by
  rw [Expr.nestsAggregates, free, flat, Bool.and_false]
  rfl

section

variable {s : Schema} {base : Table} {fs : List Filter} {d : Draft} {plan : Plan} {p : Projection}

theorem Offers.hasAggregate (offers : Offers s base p) : p.expr.hasAggregate = p.isAggregate := by
  obtain ⟨settings, yields⟩ := offers
  exact yields.parsed.hasAggregate

theorem Offers.nestsAggregates (unnested : CalculationsUnnested s) (held : s.Holds base)
    (offers : Offers s base p) : p.expr.nestsAggregates = false := by
  obtain ⟨settings, yields⟩ := offers
  exact (yields.parsed.expr_induct (P := fun e => e.nestsAggregates = false) rfl held
    (fun _ _ => rfl) unnested
    (fun _ key _ => nestsAggregates_cellExpr key)
    (fun name distinct _ => nestsAggregates_call name distinct)).1

/-- A filter is put on groups just if its condition holds an aggregate. -/
theorem Filter.Readable.hasAggregate {f : Filter} (readable : f.Readable s base) :
    f.condition.hasAggregate = f.column.isAggregate := by
  rw [hasAggregate_condition, readable.offers.hasAggregate]

theorem nestsAggregates_item (unnested : CalculationsUnnested s) (held : s.Holds base)
    (offers : Offers s base p) (grouped : Bool) (kept : List Projection) :
    (itemOf grouped kept p).expr.nestsAggregates = false := by
  rcases itemOf_cases grouped kept p with ⟨shown, -⟩ | ⟨shown, -, groupable, -⟩
  · rw [shown, offers.nestsAggregates unnested held]
  · obtain ⟨free, flat⟩ := Projection.nestsAggregates_of_groupable groupable
    rw [shown]
    exact nestsAggregates_call Aggregate.max.functionName false free flat

theorem nestsAggregates_conditions (unnested : CalculationsUnnested s) (held : s.Holds base)
    (readable : ∀ f ∈ fs, f.Readable s base) {e : Expr}
    (joined : conjunction (fs.map Filter.condition) = some e) : e.nestsAggregates = false := by
  rw [nestsAggregates_conjunction joined, List.any_eq_false]
  intro c member
  obtain ⟨f, hf, rfl⟩ := List.mem_map.mp member
  rw [nestsAggregates_condition, (readable f hf).offers.nestsAggregates unnested held]
  exact Bool.false_ne_true

theorem filter_condition (readable : ∀ f ∈ fs, f.Readable s base) (keep : Bool → Bool) :
    (fs.map Filter.condition).filter (fun e => keep e.hasAggregate) =
      (fs.filter fun f => keep f.column.isAggregate).map Filter.condition := by
  rw [List.filter_map]
  congr 1
  apply List.filter_congr
  intro f member
  rw [Function.comp_apply, (readable f member).hasAggregate]

theorem groupings_free {kept : List Projection} {e : Expr}
    (groupable : ∀ k ∈ kept, k.groupExpr?.isSome = true) (member : e ∈ groupings kept) :
    e.hasAggregate = false ∧ e.nestsAggregates = false := by
  obtain ⟨k, hk, member⟩ := mem_groupings.mp member
  obtain ⟨t, -, name, rfl⟩ := mem_groupingOf_column (groupable k hk) member
  exact ⟨rfl, rfl⟩

theorem Draft.Built.condition_free (built : d.Built s base fs) {e : Expr}
    (joined : conjunction d.conditions = some e) : e.hasAggregate = false := by
  rw [hasAggregate_conjunction joined, List.any_eq_false, built.conditions]
  intro c member
  obtain ⟨f, hf, rfl⟩ := List.mem_map.mp member
  obtain ⟨hf, onRows⟩ := List.mem_filter.mp hf
  rw [(built.readable f hf).hasAggregate]
  simpa using onRows

theorem Draft.Built.unnested (unnested : CalculationsUnnested s) (held : s.Holds base)
    (built : d.Built s base fs) (planned : d.Planned plan) {e : Expr}
    (clause : e ∈ plan.statement.clauseExprs) : e.nestsAggregates = false := by
  have onSome (keep : Filter → Bool) : ∀ f ∈ fs.filter keep, f.Readable s base :=
    fun f member => built.readable f (List.mem_of_mem_filter member)
  rcases Statement.mem_clauseExprs.mp clause with condition | grouping | result
  · rw [planned.condition, built.conditions] at condition
    exact nestsAggregates_conditions unnested held (onSome _) condition
  · rw [planned.groupBy] at grouping
    exact (groupings_free (fun k hk => (mem_keptColumns hk).2) grouping).2
  · rcases planned.resultExprs_cases result with ⟨p, hp, rfl⟩ | joined | ⟨term, hterm, rfl, -⟩
    · exact nestsAggregates_item unnested held (built.selected p hp) d.isGrouped d.keptColumns
    · rw [built.groupConditions] at joined
      exact nestsAggregates_conditions unnested held (onSome _) joined
    · exact (built.ordering term hterm).nestsAggregates unnested held

theorem Draft.Built.routes (unnested : CalculationsUnnested s) (held : s.Holds base)
    (built : d.Built s base fs) (planned : d.Planned plan) : plan.Routes fs where
  rows := by
    rw [planned.condition, built.conditions, conjunctsOf_conditions]
    exact (filter_condition built.readable not).symm
  groups := by
    rw [planned.having, built.groupConditions, conjunctsOf_conditions]
    exact (filter_condition built.readable id).symm
  condition := by
    intro e condition
    rw [planned.condition] at condition
    exact built.condition_free condition
  groupBy := by
    intro e grouping
    rw [planned.groupBy] at grouping
    exact (groupings_free (fun k hk => (mem_keptColumns hk).2) grouping).1
  joins := by
    intro join member
    rw [planned.joins] at member
    obtain ⟨t, x, u, y, on⟩ := built.joins join member
    rw [on]
    rfl
  unnested := fun _ clause => built.unnested unnested held planned clause
  unnestedJoins := by
    intro join member
    rw [planned.joins] at member
    obtain ⟨t, x, u, y, on⟩ := built.joins join member
    rw [on]
    rfl

end

/-- Whatever operations led to a plan, its aggregates stand where they may. The filters are those of
all predicates, if no operation failed. -/
theorem plan_routes {s : Schema} {name : String} {start : Draft} {ops : List Operation}
    {plan : Plan} (unnested : CalculationsUnnested s) (started : Draft.start s name = .ok start)
    (planned : (start.after ops).plan = .ok plan) :
    plan.Routes (start.filtersAfter ops) ∧
      ∀ d, Outcome.each Operation.apply ops start = ⟨d, none⟩ →
        start.after ops = d ∧ filtersAsked start.scope ops = .ok (start.filtersAfter ops) := by
  obtain ⟨base, found, built⟩ := built_after_start started ops
  have held : s.Holds base := Schema.holds_of_table? found
  constructor
  · exact built.routes unnested held (Draft.plan_ok planned)
  · intro d success
    exact filtersAfter_of_ok success

def shareOperations : List Operation :=
  shareCalls.map .call ++
    [.configure { surrogateKey := "key" },
      .call (.filter ["product.maker:acme,apex", "sales.share:1"])]

theorem plan_routes_sales :
    ∃ start plan, Draft.start Schema.sales "sales" = .ok start ∧
      (start.after shareOperations).plan = .ok plan ∧
      (start.filtersAfter shareOperations).map (·.column.name) =
        ["sales.total.sum", "product.maker", "sales.share"] ∧
      plan.Routes (start.filtersAfter shareOperations) := by
  have unnested : CalculationsUnnested Schema.sales := by
    unfold CalculationsUnnested
    decide +kernel
  obtain ⟨start, started, run, columns⟩ : ∃ start,
      Draft.start Schema.sales "sales" = .ok start ∧
      (start.after shareOperations).plan.toOption.isSome = true ∧
      (start.filtersAfter shareOperations).map (·.column.name) =
        ["sales.total.sum", "product.maker", "sales.share"] :=
    ⟨{ schema := Schema.sales, base := .fact (Schema.sales.facts.head (by decide)) },
      rfl, by decide +kernel⟩
  cases planned : (start.after shareOperations).plan with
  | error e =>
    rw [planned] at run
    cases run
  | ok plan =>
    have routes := (plan_routes unnested started planned).1
    exact ⟨start, plan, started, planned, columns, routes⟩

end StarQuery.Query
