import Mathlib.Data.List.Nodup
import StarQuery.Proofs.Model.Namesakes
import StarQuery.Proofs.Query.Denotation
import StarQuery.Proofs.Query.Joins

/-!
What the table names in a plan stand for. A table is taken to be joined as soon as something is
joined under its name. Main statement: the names stand for the tables that the columns in use belong
to exactly when tables in use that share a name are one physical table, and so they do where roles
keep to names of their own.
-/
namespace StarQuery.Sql

def Statement.sources (s : Statement) : List Source := s.source :: s.joins.map Join.source

theorem Statement.map_sources (s : Statement) : s.sources.map Source.name = s.tableNames := by
  rw [sources, tableNames, List.map_cons, List.map_map]
  rfl

end StarQuery.Sql

namespace StarQuery.Query

open Model (Dimension Fact Schema Table)
open Settings (CompilerSettings)

def tablesInUse (s : Scope) (calls : List Call) : List Table :=
  (accepted s calls).flatMap Use.owners

/-- Each name in the plan stands for one table, and the name of an owner for the owner. -/
structure Plan.Denotes (owners : List Table) (plan : Plan) : Prop where
  distinct : plan.statement.tableNames.Nodup
  owners : ∀ t ∈ owners, ∃ source,
    plan.statement.sources.filter (·.name == t.name) = [source] ∧ source.table = t.physicalName

def OnePhysicalTable (ts : List Table) : Prop :=
  ∀ t ∈ ts, ∀ u ∈ ts, t.name = u.name → t.physicalName = u.physicalName

section

variable {base t : Table} {owners : List Table} {start d : Draft} {uses : List Use} {plan : Plan}

theorem tablesNeeded_subset : tablesNeeded base owners ⊆ owners :=
  List.Subset.trans (eraseDupsBy_subset _ _) List.filter_sublist.subset

theorem nodup_tablesNeeded (one : OnePhysicalTable (base :: owners)) :
    ((base :: tablesNeeded base owners).map Table.name).Nodup := by
  rw [List.map_cons]
  refine List.nodup_cons.mpr ⟨fun taken => ?_, ?_⟩
  · obtain ⟨t, ht, sameName⟩ := List.mem_map.mp taken
    have used := List.mem_cons_of_mem base (tablesNeeded_subset ht)
    have same : t.same base = true :=
      same_iff.mpr ⟨sameName, one t used base List.mem_cons_self sameName⟩
    have other := (List.mem_filter.mp (eraseDupsBy_subset _ _ ht)).2
    rw [same] at other
    cases other
  · rw [List.Nodup, List.pairwise_map]
    refine (pairwise_eraseDupsBy _ _).imp fun fresh sameName => ?_
    rw [sameName, beq_self_eq_true] at fresh
    cases fresh

theorem sources_eq (records : Draft.Records start uses d) (planned : d.Planned plan) :
    plan.statement.sources =
      (start.base :: tablesNeeded start.base (uses.flatMap Use.owners)).map Table.source := by
  have base := Draft.base_eq records.scope
  rw [Sql.Statement.sources, planned.source, planned.joins, base, List.map_cons]
  refine congrArg (List.cons _) ?_
  have related := mapM_eq_ok_iff.mp records.joins
  generalize tablesNeeded start.base (uses.flatMap Use.owners) = needed at related ⊢
  generalize d.joins = joins at related ⊢
  induction related with
  | nil => rfl
  | @cons t join _ _ first _ ih =>
    obtain ⟨f, role, -, -, rfl⟩ := Draft.joinOf_ok first
    rw [List.map_cons, List.map_cons, ih]

theorem Plan.Denotes.onePhysicalTable (denotes : plan.Denotes owners)
    (source : plan.statement.source = base.source) : OnePhysicalTable (base :: owners) := by
  -- the base is found under its name, as any owner is
  have found : ∀ t ∈ base :: owners, ∃ source ∈ plan.statement.sources,
      source.name = t.name ∧ source.table = t.physicalName := by
    intro t ht
    rcases List.mem_cons.mp ht with rfl | ht
    · exact ⟨t.source, by rw [← source]; exact List.mem_cons_self, t.source_name, rfl⟩
    · obtain ⟨source, only, physical⟩ := denotes.owners t ht
      have member : source ∈ plan.statement.sources.filter (·.name == t.name) := by
        rw [only]
        exact List.mem_singleton_self source
      obtain ⟨member, sameName⟩ := List.mem_filter.mp member
      exact ⟨source, member, eq_of_beq sameName, physical⟩
  have distinct := denotes.distinct
  rw [← Sql.Statement.map_sources] at distinct
  intro t ht u hu sameName
  obtain ⟨a, ha, nameA, physicalA⟩ := found t ht
  obtain ⟨b, hb, nameB, physicalB⟩ := found u hu
  have same : a = b :=
    List.inj_on_of_nodup_map distinct ha hb (nameA.trans (sameName.trans nameB.symm))
  rw [← physicalA, same, physicalB]

theorem denotes_of_onePhysicalTable (records : Draft.Records start uses d)
    (planned : d.Planned plan)
    (one : OnePhysicalTable (start.base :: uses.flatMap Use.owners)) :
    plan.Denotes (uses.flatMap Use.owners) := by
  have sources := sources_eq records planned
  have named : plan.statement.tableNames =
      (start.base :: tablesNeeded start.base (uses.flatMap Use.owners)).map Table.name := by
    rw [← Sql.Statement.map_sources, sources, List.map_map]
    exact List.map_congr_left fun t _ => t.source_name
  have distinct : plan.statement.tableNames.Nodup := by
    rw [named]
    exact nodup_tablesNeeded one
  refine ⟨distinct, fun t ht => ?_⟩
  have present := owner_named records planned ht
  rw [named] at present
  obtain ⟨u, hu, sameName⟩ := List.mem_map.mp present
  have listed : u.source ∈ plan.statement.sources := by
    rw [sources]
    exact List.mem_map_of_mem hu
  refine ⟨u.source, ?_, ?_⟩
  · rw [← Sql.Statement.map_sources] at distinct
    rw [← sameName, ← u.source_name]
    exact filter_key_of_nodup distinct listed
  · have used : u ∈ start.base :: uses.flatMap Use.owners :=
      List.cons_subset_cons start.base tablesNeeded_subset hu
    exact one u used t (List.mem_cons_of_mem _ ht) sameName

end

theorem holds_of_inUse {s : Schema} {table t : Table} {settings : CompilerSettings}
    {calls : List Call} (held : s.Holds table)
    (used : t ∈ tablesInUse (scopeOf s table settings) calls) : s.Holds t := by
  obtain ⟨u, hu, owned⟩ := List.mem_flatMap.mp used
  rw [Use.owners] at owned
  cases column : u.column? with
  | none =>
    rw [column] at owned
    cases owned
  | some p =>
    rw [column] at owned
    exact ((accepted_parsed hu column).sees_owner owned).holds rfl held

/-- The names in a plan stand for the right tables exactly when tables in use that share a name are
one physical table. -/
theorem planOf_denotes_iff {s : Schema} {base : String} {settings : CompilerSettings}
    {calls : List Call} {plan : Plan} (planned : planOf s base settings calls = .ok plan) :
    ∃ table, s.table? base = some table ∧
      (plan.Denotes (tablesInUse (scopeOf s table settings) calls) ↔
        OnePhysicalTable (table :: tablesInUse (scopeOf s table settings) calls)) ∧
      (s.Built → s.RolesApart → plan.Denotes (tablesInUse (scopeOf s table settings) calls)) := by
  obtain ⟨d, made, hplan⟩ := planOf_ok planned
  obtain ⟨table, found, records⟩ := draftOf_ok made
  have assembled := Draft.plan_ok hplan
  have sufficient := denotes_of_onePhysicalTable records assembled
  refine ⟨table, found, ⟨fun denotes => ?_, sufficient⟩, fun built apart => sufficient ?_⟩
  · exact denotes.onePhysicalTable (by rw [assembled.source, Draft.base_eq records.scope])
  · have held := Schema.holds_of_table? found
    have holds : ∀ t ∈ table :: tablesInUse (scopeOf s table settings) calls, s.Holds t := by
      intro t ht
      rcases List.mem_cons.mp ht with rfl | used
      · exact held
      · exact holds_of_inUse held used
    intro t ht u hu sameName
    exact (apart.alike built (holds t ht) (holds u hu) sameName).physicalName

theorem planOf_denotes_iff_shipments :
    ∃ plan, planOf Schema.shipments "sales" {} [.select ["ship_date.year", "order_date.year"]] =
        .ok plan ∧
      plan.statement.tableNames = ["sales", "ship_date", "order_date"] ∧
      ∃ table, Schema.shipments.table? "sales" = some table ∧
        plan.Denotes (tablesInUse (scopeOf Schema.shipments table {})
          [.select ["ship_date.year", "order_date.year"]]) := by
  have run : (planOf Schema.shipments "sales" {} [.select ["ship_date.year", "order_date.year"]]).map
      (fun plan => plan.statement.tableNames) = .ok ["sales", "ship_date", "order_date"] := by
    decide +kernel
  obtain ⟨plan, planned, names⟩ := map_ok run
  obtain ⟨table, found, -, denotes⟩ := planOf_denotes_iff planned
  exact ⟨plan, planned, names, table, found,
    denotes Schema.shipments_built Schema.shipments_apart⟩

def storeByDate : Schema :=
  let date := Dimension.define "date" [.column (.ofType "year" .year)]
  let store := Dimension.define "store" [.column (.ofType "name" .string)]
  let sales := Fact.define "sales" [
    .role { dimension := date, name := "store" }, .measure (.ofType "total" .money)]
  let returns := Fact.define "returns" [
    .role (.ofDimension store), .measure (.ofType "amount" .money)]
  { facts := [sales, returns], dimensions := [date, store] }

theorem storeByDate_built : storeByDate.Built :=
  Schema.built_register storeByDate.dimensions storeByDate.facts rfl

/-- Once a date is joined under the name of the store, the store itself is not joined. -/
theorem not_all_plans_denote :
    ¬ ∀ s base settings calls plan table, Schema.Built s → s.table? base = some table →
      planOf s base settings calls = .ok plan →
      plan.Denotes (tablesInUse (scopeOf s table settings) calls) := by
  intro all
  let calls : List Call := [.select ["store.year"], .select ["returns.store.name"]]
  have run : (planOf storeByDate "sales" {} calls).map (fun plan => plan.statement.sources) =
      .ok [⟨"sales", none⟩, ⟨"date", some "store"⟩] := by decide +kernel
  obtain ⟨plan, planned, sources⟩ := map_ok run
  obtain ⟨table, found, inUse⟩ : ∃ table, storeByDate.table? "sales" = some table ∧
      ∃ t ∈ tablesInUse (scopeOf storeByDate table {}) calls,
        t.name = "store" ∧ t.physicalName = "store" :=
    ⟨.fact (storeByDate.facts.head (by decide)), rfl, by decide +kernel⟩
  obtain ⟨t, ht, named, physical⟩ := inUse
  have denotes := all storeByDate "sales" {} calls plan table storeByDate_built found planned
  obtain ⟨source, only, right⟩ := denotes.owners t ht
  rw [sources, named] at only
  cases only
  rw [physical] at right
  exact absurd right (by decide)

end StarQuery.Query
