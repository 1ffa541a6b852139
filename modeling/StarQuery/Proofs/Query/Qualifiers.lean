import StarQuery.Proofs.Query.Aliases

/-!
The table names by which a plan qualifies columns. A plain column is qualified by the name under
which its table is joined, but a calculation is part of the plan as it was declared. Main statement:
if calculations keep to their own tables, then all qualifiers are names of tables in the plan exactly
when each table whose calculation is rendered is there under the name that it has in the database.
-/
namespace StarQuery.Sql

def Expr.qualifiers (e : Expr) : List String := e.mentions.filterMap Prod.fst

def Statement.qualifiers (s : Statement) : List String :=
  (s.clauseExprs ++ s.joins.map Join.on).flatMap Expr.qualifiers

theorem Expr.mem_qualifiers {e : Expr} {q : String} :
    q ∈ e.qualifiers ↔ ∃ name, (some q, name) ∈ e.mentions := by
  simp [qualifiers]

end StarQuery.Sql

namespace StarQuery.Model

namespace Schema

/-- Calculations mention columns of their own table only, by its name in the database. -/
def CalculationsLocal (s : Schema) : Prop :=
  ∀ t ∈ s.tables, ∀ c ∈ t.columns, ∀ e ∈ c.calculation, ∀ m ∈ e.mentions,
    m.1 = some t.physicalName

instance (s : Schema) : Decidable s.CalculationsLocal :=
  inferInstanceAs (Decidable (∀ t ∈ s.tables, ∀ c ∈ t.columns, ∀ e ∈ c.calculation,
    ∀ m ∈ e.mentions, m.1 = some t.physicalName))

end Schema

end StarQuery.Model

namespace StarQuery.Query

open Model (Schema Table)
open Settings (CompilerSettings)
open Sql (Expr Statement)

namespace Projection

/-- The calculations that the column is made of, each with the table that declares it. -/
def formulas : Projection → List (Table × Expr)
  | .calculated owner column => column.calculation.toList.map fun e => (owner, e)
  | .aggregate inner _ => inner.formulas
  | .pivoted value pivot _ _ => value.formulas ++ pivot.formulas
  | .attribute .. | .dimension .. | .identifier .. => []

theorem map_formulas (p : Projection) : p.formulas.map Prod.snd = p.calculations := by
  induction p
  case calculated owner column =>
    rw [formulas, calculations, List.map_map]
    exact List.map_id _
  case aggregate inner op ih => exact ih
  case pivoted value pivot index key ihValue ihPivot =>
    rw [formulas, calculations, List.map_append, ihValue, ihPivot]
  all_goals rfl

theorem owner_of_formula {p : Projection} {f : Table × Expr} (member : f ∈ p.formulas) :
    f.1 ∈ p.owners := by
  induction p
  case calculated owner column =>
    obtain ⟨e, _, rfl⟩ := List.mem_map.mp member
    exact List.mem_singleton_self owner
  case aggregate inner op ih => exact ih member
  case pivoted value pivot index key ihValue ihPivot =>
    rcases List.mem_append.mp member with ofValue | ofPivot
    · exact List.mem_append_left _ (ihValue ofValue)
    · exact List.mem_append_right _ (ihPivot ofPivot)
  all_goals cases member

theorem formula_mentions {p : Projection} {f : Table × Expr} (member : f ∈ p.formulas) :
    f.2.mentions ⊆ p.expr.mentions ∧ f.2.mentions ⊆ p.countExpr.mentions := by
  induction p
  case calculated owner column =>
    obtain ⟨e, he, rfl⟩ := List.mem_map.mp member
    rw [expr, countExpr, Option.mem_toList.mp he, Option.getD_some]
    exact ⟨List.Subset.refl _, List.Subset.refl _⟩
  case aggregate inner op ih =>
    obtain ⟨shown, counted⟩ := ih member
    rw [expr, countExpr]
    split
    · rw [Expr.mentions_call]
      exact ⟨counted, counted⟩
    · rw [Aggregate.apply, Expr.function, Expr.mentions_call]
      exact ⟨shown, shown⟩
  case pivoted value pivot index key ihValue ihPivot =>
    rw [expr, countExpr, cellExpr, cellExpr, Expr.mentions_caseWhen, Expr.mentions_caseWhen,
      Expr.equals, Expr.mentions_binary]
    rcases List.mem_append.mp member with ofValue | ofPivot
    · obtain ⟨shown, counted⟩ := ihValue ofValue
      exact ⟨List.subset_append_of_subset_right _ shown,
        List.subset_append_of_subset_right _ counted⟩
    · have compared := List.subset_append_of_subset_left (Expr.ofValue key).mentions
        (ihPivot ofPivot).1
      exact ⟨List.subset_append_of_subset_left _ compared,
        List.subset_append_of_subset_left _ compared⟩
  all_goals cases member

theorem owns_or_formula {p : Projection} {m : Option String × String}
    (occurs : m ∈ p.expr.mentions) : p.Owns m ∨ ∃ f ∈ p.formulas, m ∈ f.2.mentions := by
  rcases Expr.mentions_split (p.calculations.contains ·) p.expr occurs with outside | within
  · exact Or.inl ((owns_of_expr (List.Subset.refl _)).1 m outside)
  · obtain ⟨e, declared, occurs⟩ := within
    rw [List.contains_iff_mem, ← map_formulas] at declared
    obtain ⟨f, hf, rfl⟩ := List.mem_map.mp declared
    exact Or.inr ⟨f, hf, occurs⟩

end Projection

theorem Scope.Plain.formula_declared {s : Scope} {p : Projection} (plain : s.Plain p)
    {f : Table × Expr} (member : f ∈ p.formulas) :
    ∃ c ∈ f.1.columns, c.calculation = some f.2 := by
  cases plain with
  | whole sees isDimension => cases member
  | @column owner c sees declared =>
    rcases s.columnOf_cases owner c with ⟨d, -, hp⟩ | ⟨-, hp⟩ | ⟨-, hp⟩
    · rw [hp] at member
      cases member
    · rw [hp] at member
      obtain ⟨e, he, rfl⟩ := List.mem_map.mp member
      exact ⟨c, Table.mem_columns declared, Option.mem_toList.mp he⟩
    · rw [hp] at member
      cases member

theorem Scope.Parsed.formula_declared {s : Scope} {p : Projection} (parsed : s.Parsed p)
    {f : Table × Expr} (member : f ∈ p.formulas) :
    ∃ c ∈ f.1.columns, c.calculation = some f.2 := by
  induction parsed with
  | plain plain => exact plain.formula_declared member
  | cell index key plainValue plainPivot rowValue rowPivot =>
    rcases List.mem_append.mp member with ofValue | ofPivot
    · exact plainValue.formula_declared ofValue
    · exact plainPivot.formula_declared ofPivot
  | aggregate parsed rowValue suits ih => exact ih member

def Use.formulas (u : Use) : List (Table × Expr) := u.column?.elim [] Projection.formulas

theorem Use.mem_formulas {u : Use} {f : Table × Expr} :
    f ∈ u.formulas ↔ ∃ p, u.column? = some p ∧ f ∈ p.formulas := by
  cases column : u.column? <;> simp [Use.formulas, column]

section

variable {start d : Draft} {uses : List Use} {plan : Plan}

theorem mentions_conjunction {es : List Expr} {e : Expr} (member : e ∈ es) :
    ∃ all, conjunction es = some all ∧ e.mentions ⊆ all.mentions := by
  induction es using List.reverseRecOn with
  | nil => cases member
  | append_singleton front last ih =>
    cases front with
    | nil =>
      obtain rfl := List.mem_singleton.mp member
      exact ⟨e, rfl, List.Subset.refl _⟩
    | cons first rest =>
      rw [conjunction_concat]
      rcases List.mem_append.mp member with old | new
      · obtain ⟨before, joined, inside⟩ := ih old
        refine ⟨.binary .and before last, by rw [joined]; rfl, ?_⟩
        rw [Expr.mentions_binary]
        exact List.subset_append_of_subset_left _ inside
      · obtain rfl := List.mem_singleton.mp new
        refine ⟨_, rfl, ?_⟩
        rw [Expr.mentions_binary]
        exact List.subset_append_right _ _

theorem mentions_condition (f : Filter) : f.column.expr.mentions ⊆ f.condition.mentions := by
  unfold Filter.condition
  split
  · rw [Expr.equals, Expr.mentions_binary]
    exact List.subset_append_left _ _
  · rw [Expr.mentions_isIn]
    exact List.subset_append_left _ _

theorem mentions_rendered (records : Draft.Records start uses d) (planned : d.Planned plan)
    {u : Use} (used : u ∈ uses) (rendered : plan.Renders u) {p : Projection}
    (column : u.column? = some p) :
    ∃ e ∈ plan.statement.clauseExprs, p.expr.mentions ⊆ e.mentions := by
  cases u with
  | select q =>
    cases column
    have selected : p ∈ d.selected := by
      rw [records.selected]
      exact List.mem_filterMap.mpr ⟨_, used, rfl⟩
    have item : itemOf d.isGrouped d.keptColumns p ∈ plan.statement.items := by
      rw [planned.items]
      exact List.mem_map_of_mem selected
    refine ⟨_, Statement.item_mem_clauseExprs item, ?_⟩
    rcases itemOf_cases d.isGrouped d.keptColumns p with ⟨h, -⟩ | ⟨h, -⟩
    · rw [h]
      exact List.Subset.refl _
    · rw [h, Aggregate.apply, Expr.function, Expr.mentions_call]
      exact List.Subset.refl _
  | filter f =>
    cases column
    cases aggregate : f.column.isAggregate with
    | true =>
      have member : f.condition ∈ d.groupConditions := by
        rw [records.groupConditions]
        exact List.mem_filterMap.mpr ⟨_, used, by simp [Use.groupCondition?, aggregate]⟩
      obtain ⟨all, joined, inside⟩ := mentions_conjunction member
      rw [← planned.having] at joined
      exact ⟨all, Statement.having_mem_clauseExprs joined, List.Subset.trans (mentions_condition f) inside⟩
    | false =>
      have member : f.condition ∈ d.conditions := by
        rw [records.conditions]
        exact List.mem_filterMap.mpr ⟨_, used, by simp [Use.condition?, aggregate]⟩
      obtain ⟨all, joined, inside⟩ := mentions_conjunction member
      rw [← planned.condition] at joined
      exact ⟨all, Statement.mem_clauseExprs.mpr (Or.inl joined),
        List.Subset.trans (mentions_condition f) inside⟩
  | order q direction =>
    cases column
    have ordered : (p, direction) ∈ d.ordering := by
      rw [records.ordering]
      exact List.mem_filterMap.mpr ⟨_, used, rfl⟩
    obtain ⟨term, hterm, placed⟩ := exists_right_of_forall₂ planned.orderBy ordered
    -- A term that stands for a selected column of that name does not render this one.
    rcases orderTermOf_ok placed with ⟨i, hi, sameName, -⟩ | ⟨rfl, -⟩
    · rw [planned.items] at hi
      obtain ⟨q, hq, rfl⟩ := List.mem_map.mp hi
      refine absurd ?_ rendered
      rw [Plan.names, planned.columns, ← sameName]
      exact List.mem_map_of_mem hq
    · exact ⟨p.expr, Statement.orderTerm_mem_clauseExprs hterm, List.Subset.refl _⟩
  | limit rows => cases column

theorem qualifier_named (records : Draft.Records start uses d) (planned : d.Planned plan)
    {q : String} (occurs : q ∈ plan.statement.qualifiers) :
    q ∈ plan.statement.tableNames ∨
      ∃ u ∈ uses, plan.Renders u ∧ ∃ f ∈ u.formulas, q ∈ f.2.qualifiers := by
  obtain ⟨e, member, occurs⟩ := List.mem_flatMap.mp occurs
  obtain ⟨name, occurs⟩ := Expr.mem_qualifiers.mp occurs
  rcases List.mem_append.mp member with clause | joined
  · obtain ⟨u, hu, rendered, p, column, shown⟩ := occurs_of_clause records planned clause occurs
    have owned : p.Owns (some q, name) → q ∈ plan.statement.tableNames := by
      rintro ⟨t, ht, qualifies⟩
      cases qualifies
      exact owner_named records planned (Use.owner_mem hu column ht)
    rcases shown with shown | own
    · refine (Projection.owns_or_formula shown).imp owned ?_
      rintro ⟨f, hf, occurs⟩
      exact ⟨u, hu, rendered, f, Use.mem_formulas.mpr ⟨p, column, hf⟩,
        Expr.mem_qualifiers.mpr ⟨name, occurs⟩⟩
    · exact Or.inl (owned own)
  · obtain ⟨join, hjoin, rfl⟩ := List.mem_map.mp joined
    rw [planned.joins] at hjoin
    obtain ⟨g, role, -, -, on⟩ := records.join_on hjoin
    rw [on, Expr.equals, Expr.mentions_binary, Expr.ofTable, Expr.ofTable, Expr.mentions_column,
      Expr.mentions_column] at occurs
    rw [Statement.tableNames, planned.source, planned.joins, Draft.base_eq records.scope,
      Table.source_name]
    rcases List.mem_pair.mp occurs with ofJoin | ofBase
    · cases ofJoin
      exact Or.inl (List.mem_cons_of_mem _ (List.mem_map.mpr ⟨join, hjoin, rfl⟩))
    · cases ofBase
      exact Or.inl List.mem_cons_self

theorem qualifiers_rendered (records : Draft.Records start uses d) (planned : d.Planned plan)
    {u : Use} (used : u ∈ uses) (rendered : plan.Renders u) {f : Table × Expr}
    (member : f ∈ u.formulas) : f.2.qualifiers ⊆ plan.statement.qualifiers := by
  obtain ⟨p, column, formula⟩ := Use.mem_formulas.mp member
  obtain ⟨e, clause, inside⟩ := mentions_rendered records planned used rendered column
  intro q occurs
  obtain ⟨name, occurs⟩ := Expr.mem_qualifiers.mp occurs
  refine List.mem_flatMap.mpr ⟨e, List.mem_append_left _ clause, Expr.mem_qualifiers.mpr ⟨name, ?_⟩⟩
  exact inside ((Projection.formula_mentions formula).1 occurs)

end

theorem formula_qualifiers {s : Schema} {table : Table} {settings : CompilerSettings}
    {calls : List Call} (isLocal : s.CalculationsLocal) (held : s.Holds table) {u : Use}
    (used : u ∈ accepted (scopeOf s table settings) calls) {f : Table × Expr}
    (member : f ∈ u.formulas) : ∀ m ∈ f.2.mentions, m.1 = some f.1.physicalName := by
  obtain ⟨p, column, formula⟩ := Use.mem_formulas.mp member
  have parsed := accepted_parsed used column
  have holds : s.Holds f.1 :=
    (parsed.sees_owner (Projection.owner_of_formula formula)).holds rfl held
  obtain ⟨c, hc, declared⟩ := parsed.formula_declared formula
  exact isLocal f.1 (Schema.mem_tables holds) c hc f.2 declared

/-- Where calculations are local, the qualifiers in a plan are names of its tables exactly when every
calculation that mentions columns has its table there under the name of the database; and so it is
if calculations are reached under that name only. -/
theorem planOf_qualified_iff {s : Schema} {base : String} {settings : CompilerSettings}
    {calls : List Call} {plan : Plan} (isLocal : s.CalculationsLocal)
    (planned : planOf s base settings calls = .ok plan) :
    ∃ table, s.table? base = some table ∧
      ((∀ q ∈ plan.statement.qualifiers, q ∈ plan.statement.tableNames) ↔
        ∀ u ∈ accepted (scopeOf s table settings) calls, plan.Renders u → ∀ f ∈ u.formulas,
          f.2.mentions ≠ [] → f.1.physicalName ∈ plan.statement.tableNames) ∧
      ((∀ u ∈ accepted (scopeOf s table settings) calls, plan.Renders u → ∀ f ∈ u.formulas,
          f.1.name = f.1.physicalName) →
        ∀ q ∈ plan.statement.qualifiers, q ∈ plan.statement.tableNames) := by
  obtain ⟨d, made, hplan⟩ := planOf_ok planned
  obtain ⟨table, found, records⟩ := draftOf_ok made
  have assembled := Draft.plan_ok hplan
  have held := Schema.holds_of_table? found
  have sufficient : (∀ u ∈ accepted (scopeOf s table settings) calls, plan.Renders u →
      ∀ f ∈ u.formulas, f.2.mentions ≠ [] → f.1.physicalName ∈ plan.statement.tableNames) →
      ∀ q ∈ plan.statement.qualifiers, q ∈ plan.statement.tableNames := by
    intro present q occurs
    rcases qualifier_named records assembled occurs with named | ⟨u, hu, rendered, f, hf, occurs⟩
    · exact named
    · obtain ⟨name, occurs⟩ := Expr.mem_qualifiers.mp occurs
      have own := formula_qualifiers isLocal held hu hf _ occurs
      rw [Option.some.inj own]
      exact present u hu rendered f hf (List.ne_nil_of_mem occurs)
  refine ⟨table, found, ⟨fun qualified u hu rendered f hf mentions => ?_, sufficient⟩,
    fun reached => sufficient fun u hu rendered f hf _ => ?_⟩
  · obtain ⟨m, occurs⟩ := List.exists_mem_of_ne_nil _ mentions
    have own := formula_qualifiers isLocal held hu hf m occurs
    refine qualified _ (qualifiers_rendered records assembled hu rendered hf ?_)
    exact Expr.mem_qualifiers.mpr ⟨m.2, by rw [← own]; exact occurs⟩
  · rw [← reached u hu rendered f hf]
    obtain ⟨p, column, formula⟩ := Use.mem_formulas.mp hf
    have own := Projection.owner_of_formula formula
    exact owner_named records assembled (Use.owner_mem hu column own)

theorem planOf_qualified_iff_shipments :
    ∃ plan, planOf Schema.shipments "date" {} [.select ["max.date.decade", "date.year"]] =
        .ok plan ∧
      plan.columns.flatMap Projection.formulas ≠ [] ∧
      ∀ q ∈ plan.statement.qualifiers, q ∈ plan.statement.tableNames := by
  let calls : List Call := [.select ["max.date.decade", "date.year"]]
  have run : (planOf Schema.shipments "date" {} calls).map
      (fun plan => plan.columns.flatMap Projection.formulas) =
      .ok [(.dimension (Schema.shipments.dimensions.head (by decide)),
        .binary .div (.ofTable "date" "year") (.literal (.int 10)))] := by decide +kernel
  obtain ⟨plan, planned, formulas⟩ := map_ok run
  obtain ⟨table, found, -, sufficient⟩ :=
    planOf_qualified_iff (s := Schema.shipments) (by decide) planned
  refine ⟨plan, planned, by rw [formulas]; exact List.cons_ne_nil _ _, sufficient ?_⟩
  obtain rfl : .dimension (Schema.shipments.dimensions.head (by decide)) = table :=
    Option.some.inj found
  have reached : ∀ u ∈ accepted (scopeOf Schema.shipments
      (.dimension (Schema.shipments.dimensions.head (by decide))) {}) calls,
      ∀ f ∈ u.formulas, f.1.name = f.1.physicalName := by decide +kernel
  exact fun u hu _ => reached u hu

/-- A calculation that is reached through a role is not qualified by the name of the role. -/
theorem not_all_plans_qualified :
    ¬ ∀ s base settings calls plan, Schema.Built s → s.CalculationsLocal →
      planOf s base settings calls = .ok plan →
      ∀ q ∈ plan.statement.qualifiers, q ∈ plan.statement.tableNames := by
  intro all
  have run : (planOf Schema.shipments "sales" {} [.select ["ship_date.decade"]]).map
      (fun plan => (plan.statement.qualifiers, plan.statement.tableNames)) =
      .ok (["date", "ship_date", "sales"], ["sales", "ship_date"]) := by decide +kernel
  obtain ⟨plan, planned, found⟩ := map_ok run
  obtain ⟨qualifiers, names⟩ := Prod.ext_iff.mp found
  have qualified := all Schema.shipments "sales" {} _ plan Schema.shipments_built (by decide) planned
  rw [show plan.statement.qualifiers = _ from qualifiers,
    show plan.statement.tableNames = _ from names] at qualified
  exact absurd (qualified "date" List.mem_cons_self) (by decide)

end StarQuery.Query
