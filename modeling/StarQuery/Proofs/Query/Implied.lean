import Mathlib.Data.Set.Basic
import StarQuery.Proofs.Model.Holding
import StarQuery.Proofs.Query.Grouping
import StarQuery.Proofs.Query.Planned
import StarQuery.Proofs.Query.Record
import StarQuery.Proofs.Sql.Evaluation

/-!
Leaving implied columns out of the grouping shows no other values. Main statement: if the declared
implications hold in the joined rows, then rows of one group agree on every selected column that
could be grouped by, and its item has that value in the group.
-/
namespace StarQuery.Query

open Model (Hierarchy Schema Table)
open Relation (TransGen)
open Sql (Expr Interpretation Item Row)

def DependsOn (rows : Set Row) (qualifier a b : String) : Prop :=
  ∀ r ∈ rows, ∀ r' ∈ rows, r (some qualifier) a = r' (some qualifier) a →
    r (some qualifier) b = r' (some qualifier) b

/-- The declared implications of a table hold in the rows. -/
def Respects (rows : Set Row) (t : Table) : Prop :=
  ∀ edge ∈ t.hierarchy.implications, DependsOn rows t.name edge.1 edge.2

def Agree (i : Interpretation) (es : List Expr) (r r' : Row) : Prop :=
  ∀ e ∈ es, e.value i r = e.value i r'

theorem dependsOn_of_determines {rows : Set Row} {t : Table} {a b : String}
    (respects : Respects rows t) (determines : t.hierarchy.determines a b = true) :
    DependsOn rows t.name a b := by
  have path := (Hierarchy.determines_iff.mp determines).2
  clear determines
  induction path with
  | single edge => exact respects _ edge
  | tail _ edge ih =>
    intro r hr r' hr' same
    exact respects _ edge r hr r' hr' (ih r hr r' hr' same)

theorem Projection.At.expr_eq {p : Projection} {t : Table} {x : String} (h : p.At t x)
    (groupable : p.groupExpr?.isSome = true) : p.expr = .ofTable t.name x := by
  obtain ⟨u, shown, key, on⟩ := exists_groupedOn groupable
  obtain ⟨rfl, rfl⟩ := h.unique ⟨on.owner, on.element⟩
  exact on.expr

namespace Draft

variable {d : Draft} {plan : Plan} {rows : Set Row} {i : Interpretation} {p : Projection}

theorem exists_kept_settling (i : Interpretation)
    (respects : ∀ q ∈ d.selected, ∀ t ∈ q.owner?, Respects rows t) (member : p ∈ d.candidates) :
    ∃ k ∈ d.groupedColumns, ∀ r ∈ rows, ∀ r' ∈ rows,
      k.expr.value i r = k.expr.value i r' → p.expr.value i r = p.expr.value i r' := by
  refine exists_kept_covering (fun a b => ∀ r ∈ rows, ∀ r' ∈ rows,
    a.expr.value i r = a.expr.value i r' → b.expr.value i r = b.expr.value i r')
    ?_ ?_ ?_ member
  · intro a _ r _ r' _ same
    exact same
  · intro a _ b _ c _ hab hbc r hr r' hr' same
    exact hbc r hr r' hr' (hab r hr r' hr' same)
  · intro a ha b hb determines r hr r' hr' same
    obtain ⟨hsel, hgroup⟩ := mem_candidates.mp ha
    obtain ⟨t, x, u, y, hat, hbu, htu, hxy⟩ := Projection.determines_iff.mp determines
    rw [hat.expr_eq hgroup] at same
    rw [hbu.expr_eq (mem_candidates.mp hb).2, ← (same_iff.mp htu).1]
    exact dependsOn_of_determines (respects a hsel t hat.1) hxy r hr r' hr' same

theorem Planned.value_eq (planned : d.Planned plan)
    (respects : ∀ q ∈ d.selected, ∀ t ∈ q.owner?, Respects rows t) (member : p ∈ d.selected)
    (groupable : p.groupExpr?.isSome = true) {r r' : Row} (hr : r ∈ rows) (hr' : r' ∈ rows)
    (agree : Agree i plan.statement.groupBy r r') : p.expr.value i r = p.expr.value i r' := by
  have grouped := isGrouped_of_selected member (Or.inl groupable)
  obtain ⟨k, hk, settles⟩ :=
    exists_kept_settling i respects (mem_candidates.mpr ⟨member, groupable⟩)
  refine settles r hr r' hr' (agree k.expr ?_)
  rw [planned.groupBy, keptColumns, if_pos grouped]
  exact expr_mem_groupings hk

/-- What is shown for a column is its value, if that is the same throughout the group. -/
theorem itemOf_groupValue {grouped : Bool} {kept : List Projection}
    (groupable : p.groupExpr?.isSome = true) {group : List Row} {r : Row} (member : r ∈ group)
    (same : ∀ r' ∈ group, p.expr.value i r' = p.expr.value i r) :
    (itemOf grouped kept p).expr.groupValue i group = p.expr.value i r := by
  rcases itemOf_cases grouped kept p with ⟨shown, -⟩ | ⟨shown, -⟩
  · obtain ⟨t, x, key, on⟩ := Projection.exists_groupedOn groupable
    rw [shown]
    rw [on.expr] at same ⊢
    exact Expr.groupValue_column member same
  · rw [shown]
    exact Expr.groupValue_max member same

end Draft

/-- The rows of a group agree on every selected column that could be grouped by, and the item of
such a column, be it the column or its maximum, has their value. -/
theorem plan_shows_values {d : Draft} {plan : Plan} (planned : d.plan = .ok plan)
    (i : Interpretation) {rows : Set Row}
    (respects : ∀ p ∈ plan.columns, ∀ t ∈ p.owner?, Respects rows t) :
    (∀ r ∈ rows, ∀ r' ∈ rows, Agree i plan.statement.groupBy r r' →
      ∀ p ∈ plan.columns, p.groupExpr?.isSome = true → p.expr.value i r = p.expr.value i r') ∧
    List.Forall₂ (fun p item => p.groupExpr?.isSome = true →
      item.name = p.name ∧
      (item.expr = p.expr ∧ (∃ k ∈ d.groupedColumns, k.name = p.name) ∨
        item.expr = Aggregate.max.apply p.expr ∧ ∀ k ∈ d.groupedColumns, k.name ≠ p.name) ∧
      ∀ group : List Row, (∀ r ∈ group, r ∈ rows) →
        (∀ r ∈ group, ∀ r' ∈ group, Agree i plan.statement.groupBy r r') →
        ∀ r ∈ group, item.expr.groupValue i group = p.expr.value i r)
      plan.columns plan.statement.items := by
  have assembled := Draft.plan_ok planned
  rw [assembled.columns] at respects ⊢
  constructor
  · intro r hr r' hr' agree p member groupable
    exact assembled.value_eq respects member groupable hr hr' agree
  · rw [assembled.items, List.forall₂_map_right_iff, List.forall₂_same]
    intro p member groupable
    have grouped := Draft.isGrouped_of_selected member (Or.inl groupable)
    have kept : d.keptColumns = d.groupedColumns := if_pos grouped
    refine ⟨rfl, ?_, ?_⟩
    · rw [kept]
      rcases itemOf_cases d.isGrouped d.groupedColumns p with ⟨shown, named⟩ | ⟨shown, -, -, absent⟩
      · exact Or.inl ⟨shown, named grouped groupable⟩
      · exact Or.inr ⟨shown, absent⟩
    · intro group inside agree r hr
      refine Draft.itemOf_groupValue groupable hr fun r' hr' => ?_
      exact assembled.value_eq respects member groupable (inside r' hr') (inside r hr)
        (agree r' hr' r hr)

theorem plan_shows_values_sales :
    ∃ d plan, draftOf Schema.sales "sales" {}
        [.select ["product.address", "product.maker", "sum.sales.total"]] = .ok d ∧
      d.plan = .ok plan ∧ plan.statement.groupBy = [.ofTable "product" "maker"] ∧
      ∀ (i : Interpretation) (place : Value → Value) (rows : Set Row),
        (∀ r ∈ rows, r (some "product") "name" = r (some "product") "sku" ∧
          r (some "product") "address" = place (r (some "product") "maker")) →
        ∀ r ∈ rows, ∀ r' ∈ rows, Agree i plan.statement.groupBy r r' →
          ∀ p ∈ plan.columns, p.groupExpr?.isSome = true →
            p.expr.value i r = p.expr.value i r' := by
  have run : (planOf Schema.sales "sales" {}
      [.select ["product.address", "product.maker", "sum.sales.total"]]).map (fun plan =>
        (plan.statement.groupBy, plan.columns.all fun p => p.owner?.all fun t =>
          t.name == "product" && t.hierarchy.implications ==
            [("sku", "name"), ("name", "sku"), ("maker", "address")])) =
      .ok ([.ofTable "product" "maker"], true) := by decide +kernel
  obtain ⟨plan, planned, found⟩ := map_ok run
  obtain ⟨grouping, owners⟩ := Prod.ext_iff.mp found
  obtain ⟨d, made, planned⟩ := planOf_ok planned
  refine ⟨d, plan, made, planned, grouping, ?_⟩
  intro i place rows holds
  refine (plan_shows_values planned i ?_).1
  intro p hp t ht
  have product := List.all_eq_true.mp owners p hp
  rw [Option.mem_def.mp ht, Option.all_some, Bool.and_eq_true, beq_iff_eq, beq_iff_eq] at product
  intro edge hedge r hr r' hr' same
  rw [product.1] at same ⊢
  rw [product.2] at hedge
  simp only [List.mem_cons, List.not_mem_nil, or_false] at hedge
  rcases hedge with rfl | rfl | rfl
  · rw [(holds r hr).1, (holds r' hr').1]
    exact same
  · rw [(holds r hr).1, (holds r' hr').1] at same
    exact same
  · rw [(holds r hr).2, (holds r' hr').2]
    exact congrArg place same

end StarQuery.Query
