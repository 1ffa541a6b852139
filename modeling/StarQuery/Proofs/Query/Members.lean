import StarQuery.Proofs.Query.Implied

/-!
When the members of a selected dimension stay apart. Main statement: rows with different keys are in
different groups exactly when the key is grouped by, and that is when one of the columns that stay
contributes it. A dimension can be left out along with its key, so its members can be merged.
-/
namespace StarQuery.Query

open Model (Schema)
open Settings (CompilerSettings)
open Sql (Expr Interpretation Row)

namespace Projection

/-- The key by which the members of a dimension are told apart, for a column that shows them. -/
def memberKey? : Projection → Option Expr
  | .dimension owner _ key | .identifier owner _ key => some (.ofTable owner.name key)
  | .attribute .. | .calculated .. | .aggregate .. | .pivoted .. => none

theorem groupExpr_of_memberKey {p : Projection} {key : Expr} (isKey : p.memberKey? = some key) :
    p.groupExpr? = some key := by
  cases p
  · cases isKey
  · exact isKey
  · exact isKey
  all_goals cases isKey

end Projection

theorem mem_of_settled {es : List Expr} (columns : ∀ e ∈ es, ∃ table name, e = .column table name)
    {table : Option String} {name : String} (i : Interpretation)
    (settled : ∀ r r', Agree i es r r' →
      (Expr.column table name).value i r = (Expr.column table name).value i r') :
    Expr.column table name ∈ es := by
  by_contra absent
  -- two rows that differ in this column alone
  have same : Agree i es (fun _ _ => .null)
      (fun t n => if t = table ∧ n = name then .bool true else .null) := by
    intro e member
    obtain ⟨t, n, rfl⟩ := columns e member
    by_cases h : t = table ∧ n = name
    · obtain ⟨rfl, rfl⟩ := h
      exact absurd member absent
    · rw [Expr.value, Expr.value, if_neg h]
  have differ := settled _ _ same
  rw [Expr.value, Expr.value, if_pos ⟨rfl, rfl⟩] at differ
  cases differ

namespace Draft

variable {d : Draft} {plan : Plan}

theorem Planned.groupBy_columns (planned : d.Planned plan) :
    ∀ e ∈ plan.statement.groupBy, ∃ table name, e = .column table name := by
  intro e member
  rw [planned.groupBy] at member
  obtain ⟨k, hk, he⟩ := mem_groupings.mp member
  obtain ⟨t, -, name, h⟩ := mem_groupingOf_column (mem_keptColumns hk).2 he
  exact ⟨some t.name, name, h⟩

end Draft

/-- For a selected column that shows the members of a dimension: rows of one group have one key
exactly when the key is grouped by; and where tables of one name have one hierarchy, exactly when a
column contributes the key that prevails among those that could be grouped by. -/
theorem memberKey_grouped_iff {d : Draft} {plan : Plan} (planned : d.plan = .ok plan)
    {p : Projection} (selected : p ∈ plan.columns) {key : Expr} (isKey : p.memberKey? = some key) :
    (key ∈ plan.statement.groupBy ↔ ∀ i r r',
      Agree i plan.statement.groupBy r r' → key.value i r = key.value i r') ∧
    (Projection.OneHierarchy plan.columns →
      (key ∈ plan.statement.groupBy ↔
        ∃ k ∈ plan.columns.filter (·.groupExpr?.isSome),
          Projection.prevails (plan.columns.filter (·.groupExpr?.isSome)) k = true ∧
            key ∈ groupingOf k)) := by
  have assembled := Draft.plan_ok planned
  rw [assembled.columns] at selected ⊢
  have groups := Projection.groupExpr_of_memberKey isKey
  constructor
  · constructor
    · intro member i r r' agree
      exact agree key member
    · intro settled
      obtain ⟨t, -, name, rfl⟩ := mem_groupingOf_column (by rw [groups]; rfl)
        (List.mem_append_left _ (Option.mem_toList.mpr groups) : key ∈ groupingOf p)
      exact mem_of_settled assembled.groupBy_columns
        ⟨fun _ _ _ => .null, fun _ v => v, fun _ _ _ => .null, fun _ _ => .null⟩
        (settled _)
  · intro one
    have grouped : d.isGrouped = true :=
      Draft.isGrouped_of_selected selected (Or.inl (by rw [groups]; rfl))
    rw [assembled.groupBy, Draft.keptColumns, if_pos grouped, mem_groupings,
      Draft.groupedColumns_eq_filter (one.mono (List.filter_subset_self _))]
    simp only [Draft.candidates, List.mem_filter, and_assoc]

theorem planOf_sku_product :
    (planOf Schema.sales "sales" {} [.select ["product.sku", "product", "sum.sales.total"]]).map
      (fun plan => (plan.statement.groupBy, plan.columns.filterMap Projection.memberKey?,
        decide (Projection.OneHierarchy plan.columns))) =
      .ok ([.ofTable "product" "sku"], [.ofTable "product" "original_id"], true) := by
  decide +kernel

theorem memberKey_grouped_iff_sales :
    ∃ d plan, draftOf Schema.sales "sales" {}
        [.select ["product.sku", "product", "sum.sales.total"]] = .ok d ∧ d.plan = .ok plan ∧
      ∃ p ∈ plan.columns, p.memberKey? = some (.ofTable "product" "original_id") ∧
        (¬∀ i r r', Agree i plan.statement.groupBy r r' →
          (Expr.ofTable "product" "original_id").value i r =
            (Expr.ofTable "product" "original_id").value i r') ∧
        ¬∃ k ∈ plan.columns.filter (·.groupExpr?.isSome),
          Projection.prevails (plan.columns.filter (·.groupExpr?.isSome)) k = true ∧
            .ofTable "product" "original_id" ∈ groupingOf k := by
  obtain ⟨plan, planned, found⟩ := map_ok planOf_sku_product
  obtain ⟨grouping, more⟩ := Prod.ext_iff.mp found
  obtain ⟨keys, one⟩ := Prod.ext_iff.mp more
  obtain ⟨d, made, planned⟩ := planOf_ok planned
  obtain ⟨p, hp, isKey⟩ : ∃ p ∈ plan.columns,
      p.memberKey? = some (.ofTable "product" "original_id") := by
    refine List.mem_filterMap.mp ?_
    rw [show plan.columns.filterMap Projection.memberKey? = [.ofTable "product" "original_id"]
      from keys]
    exact List.mem_singleton_self _
  have absent : Expr.ofTable "product" "original_id" ∉ plan.statement.groupBy := by
    rw [show plan.statement.groupBy = [.ofTable "product" "sku"] from grouping]
    decide +kernel
  obtain ⟨settled, contributed⟩ := memberKey_grouped_iff planned hp isKey
  exact ⟨d, plan, made, planned, p, hp, isKey, fun h => absent (settled.mpr h),
    fun h => absent ((contributed (of_decide_eq_true one)).mpr h)⟩

/-- A selected dimension need not be grouped by its key. -/
theorem not_all_memberKeys_grouped :
    ¬∀ (s : Schema) (base : String) (settings : CompilerSettings) (calls : List Call) (plan : Plan),
      planOf s base settings calls = .ok plan → plan.statement.groupBy ≠ [] →
        ∀ p ∈ plan.columns, ∀ key, p.memberKey? = some key → key ∈ plan.statement.groupBy := by
  intro all
  obtain ⟨plan, planned, found⟩ := map_ok planOf_sku_product
  obtain ⟨grouping, more⟩ := Prod.ext_iff.mp found
  obtain ⟨keys, -⟩ := Prod.ext_iff.mp more
  have grouping : plan.statement.groupBy = [.ofTable "product" "sku"] := grouping
  have keys : plan.columns.filterMap Projection.memberKey? = [.ofTable "product" "original_id"] :=
    keys
  obtain ⟨p, hp, isKey⟩ := List.mem_filterMap.mp (keys ▸ List.mem_singleton_self _)
  have member := all _ _ _ _ plan planned (by simp [grouping]) p hp _ isKey
  rw [grouping] at member
  revert member
  decide +kernel

end StarQuery.Query
