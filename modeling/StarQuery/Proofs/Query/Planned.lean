import StarQuery.Proofs.Query.Grouping
import StarQuery.Proofs.Sql.Occurrence
import StarQuery.Proofs.Success

/-!
What a plan holds. Main statement: a draft that has a plan selects something, every selected column
of a grouped one has its place, and each clause of the statement is read off from the draft.
-/
namespace StarQuery.Query

open Sql (Direction Expr Item OrderTerm)

theorem conjunction_concat (e : Expr) (es : List Expr) (last : Expr) :
    conjunction (e :: es ++ [last]) =
      (conjunction (e :: es)).map fun all => .binary .and all last := by
  simp [conjunction]

@[elab_as_elim]
theorem conjunction_induct {P : ∀ es all, conjunction es = some all → Prop}
    (single : ∀ e, P [e] e rfl)
    (more : ∀ es all last joined joined', P es all joined →
      P (es ++ [last]) (.binary .and all last) joined')
    {es : List Expr} {all : Expr} (joined : conjunction es = some all) : P es all joined := by
  induction es using List.reverseRecOn generalizing all with
  | nil => cases joined
  | append_singleton front last ih =>
    cases front with
    | nil =>
      cases joined
      exact single last
    | cons e es =>
      have whole := joined
      rw [conjunction_concat] at whole
      obtain ⟨before, hbefore, rfl⟩ := Option.map_eq_some_iff.mp whole
      exact more (e :: es) before last hbefore joined (ih hbefore)

theorem conjunction_of_all {P : Expr → Prop} (both : ∀ e e', P e → P e' → P (.binary .and e e'))
    {es : List Expr} {all : Expr} (joined : conjunction es = some all) (each : ∀ e ∈ es, P e) :
    P all := by
  induction joined using conjunction_induct with
  | single e => exact each e (List.mem_singleton_self e)
  | more es all last _ _ ih =>
    obtain ⟨before, behind⟩ := List.forall_mem_append.mp each
    exact both all last (ih before) (behind last (List.mem_singleton_self last))

theorem columnsOutside_conjunction {skip : Expr → Bool} {es : List Expr} {all : Expr}
    (joined : conjunction es = some all) {c : Option String × String}
    (member : c ∈ all.columnsOutside skip) : ∃ e ∈ es, c ∈ e.columnsOutside skip := by
  induction es using List.reverseRecOn generalizing all with
  | nil => cases joined
  | append_singleton front last ih =>
    cases front with
    | nil =>
      cases joined
      exact ⟨last, List.mem_singleton_self last, member⟩
    | cons e es =>
      rw [conjunction_concat] at joined
      obtain ⟨before, hbefore, rfl⟩ := Option.map_eq_some_iff.mp joined
      rcases List.mem_append.mp (Expr.columnsOutside_binary .and before last member) with old | new
      · obtain ⟨x, hx, hc⟩ := ih hbefore old
        exact ⟨x, List.mem_append_left [last] hx, hc⟩
      · exact ⟨last, List.mem_append_right _ (List.mem_singleton_self last), new⟩

theorem hasAggregate_conjunction {es : List Expr} {all : Expr}
    (joined : conjunction es = some all) :
    all.hasAggregate = es.any Expr.hasAggregate := by
  induction es using List.reverseRecOn generalizing all with
  | nil => cases joined
  | append_singleton front last ih =>
    cases front with
    | nil =>
      cases joined
      simp
    | cons e es =>
      rw [conjunction_concat] at joined
      obtain ⟨before, hbefore, rfl⟩ := Option.map_eq_some_iff.mp joined
      rw [Expr.hasAggregate, ih hbefore]
      simp only [List.any_append, List.any_cons, List.any_nil, Bool.or_false]

theorem columnsOutside_condition {skip : Expr → Bool} (f : Filter) :
    f.condition.columnsOutside skip ⊆ f.column.expr.columnsOutside skip := by
  obtain ⟨p, values⟩ := f
  unfold Filter.condition
  split
  · next value hvalues =>
    refine List.Subset.trans (Expr.columnsOutside_binary .eq _ _) ?_
    rw [Expr.ofValue, Expr.columnsOutside_literal, List.append_nil]
    exact List.Subset.refl _
  · rw [Expr.map_ofValue]
    exact Expr.columnsOutside_isIn _ _

theorem Projection.countExpr_of_groupExpr? {p : Projection} {e : Expr}
    (grouped : p.groupExpr? = some e) : p.countExpr = e := by
  cases p <;> cases grouped <;> rfl

theorem mem_groupingOf_column {p : Projection} (groupable : p.groupExpr?.isSome = true) {e : Expr}
    (member : e ∈ groupingOf p) : ∃ t ∈ p.owners, ∃ name, e = .column (some t.name) name := by
  obtain ⟨t, shown, key, on⟩ := Projection.exists_groupedOn groupable
  rw [on.owners]
  refine ⟨t, List.mem_singleton_self t, ?_⟩
  rw [groupingOf, on.groupExpr, on.expr] at member
  rcases List.mem_append.mp member with byKey | byDisplay
  · obtain rfl := List.mem_singleton.mp byKey
    exact ⟨key, rfl⟩
  · obtain rfl := List.mem_singleton.mp byDisplay
    exact ⟨shown, rfl⟩

theorem mem_appendNew {all : List Expr} {e x : Expr} : x ∈ appendNew all e ↔ x ∈ all ∨ x = e := by
  unfold appendNew
  split
  · next present =>
    constructor
    · exact Or.inl
    · rintro (old | rfl)
      · exact old
      · exact present
  · simp

theorem mem_foldl_appendNew {es start : List Expr} {x : Expr} :
    x ∈ es.foldl appendNew start ↔ x ∈ start ∨ x ∈ es := by
  induction es generalizing start with
  | nil => simp
  | cons e es ih => rw [List.foldl_cons, ih, mem_appendNew, List.mem_cons, or_assoc]

theorem mem_groupings {kept : List Projection} {e : Expr} :
    e ∈ groupings kept ↔ ∃ k ∈ kept, e ∈ groupingOf k := by
  rw [groupings, mem_foldl_appendNew, List.mem_flatMap]
  simp

theorem expr_mem_groupings {kept : List Projection} {k : Projection} (member : k ∈ kept) :
    k.expr ∈ groupings kept :=
  mem_groupings.mpr ⟨k, member, List.mem_append_right _ (List.mem_singleton_self k.expr)⟩

/-- A column is shown as it is or, where it could be grouped by and is not, by its maximum. -/
theorem itemOf_cases (grouped : Bool) (kept : List Projection) (p : Projection) :
    (itemOf grouped kept p).expr = p.expr ∧
        (grouped = true → p.groupExpr?.isSome = true → ∃ k ∈ kept, k.name = p.name) ∨
      (itemOf grouped kept p).expr = Aggregate.max.apply p.expr ∧
        grouped = true ∧ p.groupExpr?.isSome = true ∧ ∀ k ∈ kept, k.name ≠ p.name := by
  unfold itemOf
  dsimp only
  split
  · next implied =>
    refine Or.inr ⟨rfl, ?_⟩
    simpa [and_assoc] using implied
  · next explicit =>
    refine Or.inl ⟨rfl, ?_⟩
    intro hgrouped groupable
    simpa [hgrouped, groupable] using explicit

theorem orderTermOf_ok {grouped : Bool} {items : List Item} {p : Projection}
    {direction : Direction} {term : OrderTerm}
    (placed : orderTermOf grouped items (p, direction) = .ok term) :
    (∃ item ∈ items, item.name = p.name ∧ term = ⟨item.expr, direction⟩) ∨
      term = ⟨p.expr, direction⟩ ∧ (grouped = true → p.isAggregate = true) ∧
        ∀ item ∈ items, item.name ≠ p.name := by
  unfold orderTermOf at placed
  dsimp only at placed
  split at placed
  · next item found =>
    cases placed
    exact Or.inl ⟨item, List.mem_of_find?_eq_some found, by simpa using List.find?_some found, rfl⟩
  · next fresh =>
    split at placed
    · cases placed
    · next admitted =>
      cases placed
      exact Or.inr ⟨rfl, by simpa using admitted, by simpa using fresh⟩

namespace Draft

def keptColumns (d : Draft) : List Projection := if d.isGrouped then d.groupedColumns else []

theorem mem_keptColumns {d : Draft} {k : Projection} (member : k ∈ d.keptColumns) :
    k ∈ d.selected ∧ k.groupExpr?.isSome = true := by
  unfold keptColumns at member
  split at member
  · exact mem_groupedColumns member
  · cases member

structure Planned (d : Draft) (plan : Plan) : Prop where
  selected : d.selected ≠ []
  placed : d.isGrouped = true →
    ∀ p ∈ d.selected, p.groupExpr?.isSome = true ∨ p.isAggregate = true
  columns : plan.columns = d.selected
  source : plan.statement.source = d.base.source
  items : plan.statement.items = d.selected.map (itemOf d.isGrouped d.keptColumns)
  joins : plan.statement.joins = d.joins
  condition : plan.statement.condition = conjunction d.conditions
  groupBy : plan.statement.groupBy = groupings d.keptColumns
  having : plan.statement.having = conjunction d.groupConditions
  orderBy : List.Forall₂
    (fun term shown => orderTermOf d.isGrouped plan.statement.items term = .ok shown)
    d.ordering plan.statement.orderBy
  limit : plan.statement.limit = d.limit

theorem checkSelection_ok {d : Draft} (checked : d.checkSelection = .ok ()) :
    d.selected ≠ [] ∧ (d.isGrouped = true →
      ∀ p ∈ d.selected, p.groupExpr?.isSome = true ∨ p.isAggregate = true) := by
  unfold checkSelection at checked
  split at checked
  · cases checked
  · next some =>
    refine ⟨by simpa using some, ?_⟩
    intro grouped
    rw [grouped] at checked
    cases loose : d.looseColumn? with
    | some p =>
      rw [loose] at checked
      cases checked
    | none =>
      intro p member
      have := List.find?_eq_none.mp loose p member
      cases hg : p.groupExpr? with
      | some e => exact Or.inl rfl
      | none => exact Or.inr (by simpa [hg] using this)

theorem plan_ok {d : Draft} {plan : Plan} (planned : d.plan = .ok plan) : d.Planned plan := by
  obtain ⟨_, checked, planned⟩ := bind_ok planned
  obtain ⟨orderBy, ordered, made⟩ := bind_ok planned
  cases made
  exact {
    selected := (checkSelection_ok checked).1
    placed := (checkSelection_ok checked).2
    columns := rfl
    source := rfl
    items := rfl
    joins := rfl
    condition := rfl
    groupBy := rfl
    having := rfl
    orderBy := mapM_eq_ok_iff.mp ordered
    limit := rfl }

theorem isGrouped_of_selected {d : Draft} {p : Projection} (member : p ∈ d.selected)
    (placed : p.groupExpr?.isSome = true ∨ p.isAggregate = true) : d.isGrouped = true := by
  have : d.selected.any (fun p => p.groupExpr?.isSome || p.isAggregate) = true :=
    List.any_eq_true.mpr ⟨p, member, Bool.or_eq_true_iff.mpr placed⟩
  rw [isGrouped, this, Bool.or_true, Bool.true_or]

theorem isGrouped_of_ordering {d : Draft} {term : Projection × Direction}
    (member : term ∈ d.ordering) (aggregate : term.1.isAggregate = true) :
    d.isGrouped = true := by
  have : d.ordering.any (·.1.isAggregate) = true :=
    List.any_eq_true.mpr ⟨term, member, aggregate⟩
  rw [isGrouped, this, Bool.or_true]

theorem isGrouped_of_groupConditions {d : Draft} (nonempty : d.groupConditions ≠ []) :
    d.isGrouped = true := by
  simp [isGrouped, nonempty]

theorem Planned.isGrouped_of_groupBy {d : Draft} {plan : Plan} (planned : d.Planned plan)
    (nonempty : plan.statement.groupBy ≠ []) : d.isGrouped = true := by
  by_contra flat
  rw [planned.groupBy, keptColumns, if_neg flat] at nonempty
  exact nonempty rfl

theorem Planned.resultExprs_cases {d : Draft} {plan : Plan} (planned : d.Planned plan) {e : Expr}
    (member : e ∈ plan.statement.resultExprs) :
    (∃ p ∈ d.selected, e = (itemOf d.isGrouped d.keptColumns p).expr) ∨
      conjunction d.groupConditions = some e ∨
      ∃ term ∈ d.ordering, e = term.1.expr ∧ (d.isGrouped = true → term.1.isAggregate = true) ∧
        ∀ p ∈ d.selected, p.name ≠ term.1.name := by
  have item : ∀ i ∈ plan.statement.items,
      ∃ p ∈ d.selected, i.expr = (itemOf d.isGrouped d.keptColumns p).expr := by
    intro i hi
    rw [planned.items] at hi
    obtain ⟨p, hp, rfl⟩ := List.mem_map.mp hi
    exact ⟨p, hp, rfl⟩
  rcases List.mem_append.mp member with front | ordered
  · rcases List.mem_append.mp front with shown | having
    · obtain ⟨i, hi, rfl⟩ := List.mem_map.mp shown
      exact Or.inl (item i hi)
    · rw [planned.having, Option.mem_toList] at having
      exact Or.inr (Or.inl having)
  · obtain ⟨term, hterm, rfl⟩ := List.mem_map.mp ordered
    obtain ⟨⟨p, direction⟩, hp, placed⟩ := exists_left_of_forall₂ planned.orderBy hterm
    rcases orderTermOf_ok placed with ⟨i, hi, -, rfl⟩ | ⟨rfl, aggregate, fresh⟩
    · exact Or.inl (item i hi)
    · refine Or.inr (Or.inr ⟨(p, direction), hp, rfl, aggregate, fun q hq => ?_⟩)
      rw [planned.items] at fresh
      exact fresh _ (List.mem_map_of_mem hq)

/-- Induction over the clauses: they hold what shows and counts selected columns, conditions, and
what shows columns that are ordered by, put together by conjunctions and maxima. -/
theorem Planned.clause_induct {d : Draft} {plan : Plan} {P : Expr → Prop} (planned : d.Planned plan)
    (selected : ∀ p ∈ d.selected, P p.expr ∧ P p.countExpr)
    (rows : ∀ e ∈ d.conditions, P e) (groups : ∀ e ∈ d.groupConditions, P e)
    (ordered : ∀ term ∈ d.ordering, P term.1.expr)
    (both : ∀ e e', P e → P e' → P (.binary .and e e'))
    (greatest : ∀ e, P e → P (Aggregate.max.apply e)) {e : Expr}
    (clause : e ∈ plan.statement.clauseExprs) : P e := by
  rcases Sql.Statement.mem_clauseExprs.mp clause with condition | grouping | result
  · rw [planned.condition] at condition
    exact conjunction_of_all both condition rows
  · rw [planned.groupBy] at grouping
    obtain ⟨k, hk, member⟩ := mem_groupings.mp grouping
    obtain ⟨shown, counted⟩ := selected k (mem_keptColumns hk).1
    rcases List.mem_append.mp member with key | display
    · rwa [Projection.countExpr_of_groupExpr? (Option.mem_toList.mp key)] at counted
    · rwa [List.mem_singleton.mp display]
  · rcases planned.resultExprs_cases result with ⟨p, hp, rfl⟩ | joined | ⟨term, hterm, rfl, -⟩
    · have shown := (selected p hp).1
      rcases itemOf_cases d.isGrouped d.keptColumns p with ⟨plain, -⟩ | ⟨maximum, -⟩
      · rwa [plain]
      · rw [maximum]
        exact greatest p.expr shown
    · exact conjunction_of_all both joined groups
    · exact ordered term hterm

end Draft

end StarQuery.Query
