import StarQuery.Proofs.Model.Holding
import StarQuery.Proofs.Query.Grouping
import StarQuery.Proofs.Query.Planned
import StarQuery.Proofs.Query.Record

/-!
What a query shows and which tables it joins. Main statement: a plan shows the columns that were
selected, once each; it joins the tables that its columns need beside the base, once each and in the
order of first need; and its clauses refer to no other tables, calculations apart.
-/
namespace StarQuery.Query

open Model (Schema Table)
open Settings (CompilerSettings)
open Sql (Expr Item Join Statement)

def Projection.calculations : Projection → List Expr
  | .calculated _ column => column.calculation.toList
  | .aggregate inner _ => inner.calculations
  | .pivoted value pivot _ _ => value.calculations ++ pivot.calculations
  | .attribute .. | .dimension .. | .identifier .. => []

def Use.calculations (u : Use) : List Expr := u.column?.elim [] Projection.calculations

def requested (s : Scope) (calls : List Call) : List Projection :=
  (calls.flatMap (Call.uses s)).filterMap Use.selected?

/-- What is shown and joined on `table` for the uses of columns that were accepted. -/
structure Plan.Serves (table : Table) (settings : CompilerSettings) (uses : List Use)
    (plan : Plan) : Prop where
  columns : plan.columns = uses.filterMap Use.selected?
  items : List.Forall₂ (fun p item => item.name = p.name ∧
    (item.expr = p.expr ∨ item.expr = Aggregate.max.apply p.expr)) plan.columns plan.statement.items
  distinct : (plan.statement.items.map Item.name).Nodup
  source : plan.statement.source = table.source
  joins : plan.statement.joins.map (fun join => join.source.name) =
    (((uses.flatMap Use.owners).filter fun t => !t.same table).map Table.name).eraseDups
  on : ∀ join ∈ plan.statement.joins, ∃ f role,
    table.fact? = some f ∧ f.role? join.source.name = some role ∧
      join.on = (Expr.ofTable join.source.name settings.surrogateKey).equals
        (.ofTable table.name role.foreignKey)
  dimension : table.fact? = none → plan.statement.joins = []
  owners : ∀ t ∈ uses.flatMap Use.owners, t.name ∈ plan.statement.tableNames
  qualifiers : ∀ e ∈ plan.statement.clauseExprs,
    ∀ q ∈ e.qualifiersOutside (uses.flatMap Use.calculations), q ∈ plan.statement.tableNames

theorem selected_eraseDupsBy (uses : List Use) :
    (uses.eraseDupsBy Use.repeats).filterMap Use.selected? =
      (uses.filterMap Use.selected?).eraseDupsBy fun p q => p.name == q.name := by
  induction uses using List.reverseRecOn with
  | nil => simp
  | append_singleton uses u ih =>
    rw [eraseDupsBy_concat, filterMap_concat]
    cases u with
    | select p =>
      have repeated := Draft.any_selected (uses.eraseDupsBy Use.repeats) p
      rw [ih] at repeated
      rw [Use.selected?, Option.toList_some, eraseDupsBy_concat, ← repeated]
      simp only [Bool.beq_comm]
      split
      · exact ih
      · rw [filterMap_concat, ih]
        rfl
    | _ => simp [Use.repeats, Use.selected?, ih]

namespace Projection

/-- The columns outside of calculations belong to the owners, by their names. -/
def Owns (p : Projection) (c : Option String × String) : Prop := ∃ t ∈ p.owners, c.1 = some t.name

theorem owns_of_column {p : Projection} {skip : Expr → Bool} {owner : Table} {name : String}
    (member : owner ∈ p.owners) :
    ∀ c ∈ (Expr.ofTable owner.name name).columnsOutside skip, p.Owns c := by
  intro c hc
  obtain rfl := List.mem_singleton.mp (Expr.columnsOutside_column _ _ hc)
  exact ⟨owner, member, rfl⟩

theorem owns_of_expr {within : List Expr} {p : Projection} (inside : p.calculations ⊆ within) :
    (∀ c ∈ p.expr.columnsOutside (within.contains ·), p.Owns c) ∧
      ∀ c ∈ p.countExpr.columnsOutside (within.contains ·), p.Owns c := by
  induction p
  · next owner column =>
    have own := List.mem_singleton_self owner
    exact ⟨owns_of_column own, owns_of_column own⟩
  · next owner main key =>
    have own := List.mem_singleton_self owner
    exact ⟨owns_of_column own, owns_of_column own⟩
  · next owner column key =>
    have own := List.mem_singleton_self owner
    exact ⟨owns_of_column own, owns_of_column own⟩
  · next owner column =>
    rw [expr, countExpr]
    cases calculation : column.calculation with
    | none =>
      have own := List.mem_singleton_self owner
      exact ⟨owns_of_column own, owns_of_column own⟩
    | some e =>
      -- A calculation is among what is left out, so that it brings no columns.
      have declared : within.contains e = true := by
        rw [List.contains_iff_mem]
        refine inside ?_
        rw [calculations, calculation]
        exact List.mem_singleton_self e
      rw [Option.getD_some, Expr.columnsOutside_of_skip declared]
      simp
  · next inner op ih =>
    obtain ⟨shown, counted⟩ := ih inside
    rw [expr, countExpr]
    split
    · exact ⟨fun c hc => counted c (Expr.columnsOutside_call _ _ _ hc),
        fun c hc => counted c (Expr.columnsOutside_call _ _ _ hc)⟩
    · exact ⟨fun c hc => shown c (Expr.columnsOutside_call _ _ _ hc),
        fun c hc => shown c (Expr.columnsOutside_call _ _ _ hc)⟩
  · next value pivot index key ihValue ihPivot =>
    obtain ⟨insideValue, insidePivot⟩ := List.append_subset.mp inside
    obtain ⟨shown, counted⟩ := ihValue insideValue
    obtain ⟨compared, -⟩ := ihPivot insidePivot
    have ofValue : ∀ c, value.Owns c → (pivoted value pivot index key).Owns c :=
      fun c ⟨t, ht, hc⟩ => ⟨t, List.mem_append_left _ ht, hc⟩
    have ofPivot : ∀ c, pivot.Owns c → (pivoted value pivot index key).Owns c :=
      fun c ⟨t, ht, hc⟩ => ⟨t, List.mem_append_right _ ht, hc⟩
    -- The condition of a cell has the columns of the pivot, its result those of the value.
    have cell : ∀ result : Expr,
        (∀ c ∈ result.columnsOutside (within.contains ·), value.Owns c) →
        ∀ c ∈ (cellExpr pivot.expr key result).columnsOutside (within.contains ·),
          (pivoted value pivot index key).Owns c := by
      intro result owned c hc
      rcases List.mem_append.mp (Expr.columnsOutside_caseWhen _ _ hc) with tested | taken
      · have tested := Expr.columnsOutside_binary _ _ _ tested
        rw [Expr.ofValue, Expr.columnsOutside_literal, List.append_nil] at tested
        exact ofPivot c (compared c tested)
      · exact ofValue c (owned c taken)
    exact ⟨cell value.expr shown, cell value.countExpr counted⟩

theorem owns_of_grouping {p : Projection} (groupable : p.groupExpr?.isSome = true)
    {skip : Expr → Bool} {e : Expr} (member : e ∈ groupingOf p) :
    ∀ c ∈ e.columnsOutside skip, p.Owns c := by
  obtain ⟨t, ht, name, rfl⟩ := mem_groupingOf_column groupable member
  exact owns_of_column ht

end Projection

section

variable {start d : Draft} {uses : List Use} {plan : Plan}

theorem Use.calculations_subset {u : Use} {p : Projection} (used : u ∈ uses)
    (column : u.column? = some p) : p.calculations ⊆ uses.flatMap Use.calculations := by
  intro e member
  refine List.mem_flatMap.mpr ⟨u, used, ?_⟩
  rw [Use.calculations, column]
  exact member

theorem Use.owner_mem {u : Use} {p : Projection} {t : Table} (used : u ∈ uses)
    (column : u.column? = some p) (own : t ∈ p.owners) : t ∈ uses.flatMap Use.owners := by
  refine List.mem_flatMap.mpr ⟨u, used, ?_⟩
  rw [Use.owners, column]
  exact own

def Plan.Renders (plan : Plan) : Use → Prop
  | .order p _ => p.name ∉ plan.names
  | .select _ | .filter _ | .limit _ => True

theorem occurs_of_clause (records : Draft.Records start uses d) (planned : d.Planned plan)
    {skip : Expr → Bool} {e : Expr} (clause : e ∈ plan.statement.clauseExprs)
    {c : Option String × String} (occurs : c ∈ e.columnsOutside skip) :
    ∃ u ∈ uses, plan.Renders u ∧ ∃ p, u.column? = some p ∧
      (c ∈ p.expr.columnsOutside skip ∨ p.Owns c) := by
  rcases Statement.mem_clauseExprs.mp clause with condition | grouping | result
  · rw [planned.condition] at condition
    obtain ⟨e', he', occurs⟩ := columnsOutside_conjunction condition occurs
    obtain ⟨f, hf, -, rfl⟩ := records.mem_conditions he'
    exact ⟨_, hf, trivial, f.column, rfl, Or.inl (columnsOutside_condition f occurs)⟩
  · rw [planned.groupBy] at grouping
    obtain ⟨k, hk, member⟩ := mem_groupings.mp grouping
    obtain ⟨selected, groupable⟩ := Draft.mem_keptColumns hk
    exact ⟨_, records.mem_selected selected, trivial, k, rfl,
      Or.inr (Projection.owns_of_grouping groupable member c occurs)⟩
  · rcases planned.resultExprs_cases result with
      ⟨p, hp, rfl⟩ | joined | ⟨term, hterm, rfl, -, fresh⟩
    · refine ⟨_, records.mem_selected hp, trivial, p, rfl, Or.inl ?_⟩
      rcases itemOf_cases d.isGrouped d.keptColumns p with ⟨h, -⟩ | ⟨h, -⟩
      · rwa [h] at occurs
      · rw [h] at occurs
        exact Expr.columnsOutside_call _ _ _ occurs
    · obtain ⟨e', he', occurs⟩ := columnsOutside_conjunction joined occurs
      obtain ⟨f, hf, -, rfl⟩ := records.mem_groupConditions he'
      exact ⟨_, hf, trivial, f.column, rfl, Or.inl (columnsOutside_condition f occurs)⟩
    · refine ⟨_, records.mem_ordering hterm, fun taken => ?_, term.1, rfl, Or.inl occurs⟩
      rw [Plan.names, planned.columns] at taken
      obtain ⟨p, hp, sameName⟩ := List.mem_map.mp taken
      exact fresh p hp sameName

theorem owned_of_clause (records : Draft.Records start uses d) (planned : d.Planned plan)
    {e : Expr} (clause : e ∈ plan.statement.clauseExprs) {c : Option String × String}
    (occurs : c ∈ e.columnsOutside ((uses.flatMap Use.calculations).contains ·)) :
    ∃ u ∈ uses, ∃ p, u.column? = some p ∧ p.Owns c := by
  obtain ⟨u, hu, -, p, column, shown | owned⟩ := occurs_of_clause records planned clause occurs
  · have inside := Use.calculations_subset hu column
    exact ⟨u, hu, p, column, (Projection.owns_of_expr inside).1 c shown⟩
  · exact ⟨u, hu, p, column, owned⟩

theorem Draft.Records.join_names (records : Draft.Records start uses d) :
    d.joins.map (fun join => join.source.name) =
      (((uses.flatMap Use.owners).filter fun t => !t.same start.base).map
        Table.name).eraseDups := by
  rw [← map_eraseDupsBy]
  change _ = (tablesNeeded start.base (uses.flatMap Use.owners)).map Table.name
  have related := mapM_eq_ok_iff.mp records.joins
  generalize tablesNeeded start.base (uses.flatMap Use.owners) = needed at related ⊢
  generalize d.joins = joins at related ⊢
  induction related with
  | nil => rfl
  | @cons t join _ _ first _ ih =>
    obtain ⟨f, role, -, -, rfl⟩ := Draft.joinOf_ok first
    rw [List.map_cons, List.map_cons, ih, Table.source_name]

theorem Draft.Records.join_on (records : Draft.Records start uses d) {join : Join}
    (member : join ∈ d.joins) :
    ∃ f role, start.base.fact? = some f ∧ f.role? join.source.name = some role ∧
      join.on = (Expr.ofTable join.source.name start.settings.surrogateKey).equals
        (.ofTable start.base.name role.foreignKey) := by
  obtain ⟨t, -, joined⟩ := exists_left_of_forall₂ (mapM_eq_ok_iff.mp records.joins) member
  obtain ⟨f, role, isFact, hasRole, rfl⟩ := Draft.joinOf_ok joined
  rw [Table.source_name]
  exact ⟨f, role, isFact, hasRole, rfl⟩

theorem owner_named (records : Draft.Records start uses d) (planned : d.Planned plan) {t : Table}
    (needed : t ∈ uses.flatMap Use.owners) : t.name ∈ plan.statement.tableNames := by
  have base := Draft.base_eq records.scope
  rw [Statement.tableNames, planned.source, planned.joins, records.join_names, base,
    Table.source_name]
  cases same : t.same start.base with
  | true =>
    rw [(same_iff.mp same).1]
    exact List.mem_cons_self
  | false =>
    refine List.mem_cons_of_mem _ (List.mem_eraseDups.mpr (List.mem_map.mpr ⟨t, ?_, rfl⟩))
    exact List.mem_filter.mpr ⟨needed, by rw [same]; rfl⟩

end

/-- A plan shows the columns selected and joins the tables that all columns in use call for. -/
theorem planOf_serves {s : Schema} {base : String} {settings : CompilerSettings}
    {calls : List Call} {plan : Plan} (planned : planOf s base settings calls = .ok plan) :
    ∃ table, s.table? base = some table ∧
      plan.columns = (requested (scopeOf s table settings) calls).eraseDupsBy
        (fun p q => p.name == q.name) ∧
      plan.Serves table settings (accepted (scopeOf s table settings) calls) := by
  obtain ⟨d, made, hplan⟩ := planOf_ok planned
  obtain ⟨table, found, records⟩ := draftOf_ok made
  have assembled := Draft.plan_ok hplan
  have onRole : ∀ join ∈ plan.statement.joins, ∃ f role,
      table.fact? = some f ∧ f.role? join.source.name = some role ∧
        join.on = (Expr.ofTable join.source.name settings.surrogateKey).equals
          (.ofTable table.name role.foreignKey) := by
    rw [assembled.joins]
    exact fun join member => records.join_on member
  have base : d.base = table := Option.some.inj (congrArg Scope.base records.scope)
  refine ⟨table, found, ?_, ?_⟩
  · rw [assembled.columns, records.selected]
    exact selected_eraseDupsBy _
  exact {
    columns := assembled.columns.trans records.selected
    items := by
      rw [assembled.columns, assembled.items, List.forall₂_map_right_iff, List.forall₂_same]
      intro p _
      exact ⟨rfl, (itemOf_cases d.isGrouped d.keptColumns p).imp And.left And.left⟩
    distinct := by
      rw [assembled.items, List.map_map]
      exact records.nodup_names
    source := by rw [assembled.source, base]
    joins := by rw [assembled.joins, records.join_names]
    on := onRole
    dimension := by
      intro isDimension
      rw [List.eq_nil_iff_forall_not_mem]
      intro join member
      obtain ⟨f, role, isFact, -⟩ := onRole join member
      rw [isDimension] at isFact
      cases isFact
    owners := fun t needed => owner_named records assembled needed
    qualifiers := by
      intro e clause q qualifies
      obtain ⟨name, occurs⟩ := Expr.mem_qualifiersOutside.mp qualifies
      obtain ⟨u, hu, p, column, t, ht, hq⟩ := owned_of_clause records assembled clause occurs
      obtain rfl : q = t.name := Option.some.inj hq
      refine owner_named records assembled (List.mem_flatMap.mpr ⟨u, hu, ?_⟩)
      rw [Use.owners, column]
      exact ht }

def productCalls : List Call :=
  [.order ["product.sku"], .select ["sum.sales.total", "product", "product.sku", "product"],
    .filter ["product.maker:acme,apex"]]

theorem planOf_serves_sales :
    ∃ plan, planOf Schema.sales "sales" {} productCalls = .ok plan ∧
      plan.columns.map Projection.name = ["sales.total.sum", "product", "product.sku"] ∧
      plan.statement.joins.map (fun join => join.source.name) = ["product"] ∧
      ∃ table, Schema.sales.table? "sales" = some table ∧
        plan.columns = (requested (scopeOf Schema.sales table {}) productCalls).eraseDupsBy
          (fun p q => p.name == q.name) ∧
        plan.Serves table {} (accepted (scopeOf Schema.sales table {}) productCalls) := by
  have run : (planOf Schema.sales "sales" {} productCalls).map (fun plan =>
      (plan.columns.map Projection.name,
        plan.statement.joins.map fun join => join.source.name)) =
      .ok (["sales.total.sum", "product", "product.sku"], ["product"]) := by decide +kernel
  obtain ⟨plan, planned, found⟩ := map_ok run
  obtain ⟨names, joined⟩ := Prod.ext_iff.mp found
  exact ⟨plan, planned, names, joined, planOf_serves planned⟩

end StarQuery.Query
