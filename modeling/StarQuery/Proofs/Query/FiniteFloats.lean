import StarQuery.Proofs.Model.MemberColumns
import StarQuery.Proofs.Query.FilterValues
import StarQuery.Proofs.Query.LiveCells
import StarQuery.Proofs.Query.Names
import StarQuery.Proofs.Sql.Floats

/-!
Where the floats of a plan come from. Main statement: each is a float of the schema, declared in a
calculation or among the elements of a column, or a finite number that a filter asks for; so if the
floats of the schema are finite, then every plan can be written for every database.
-/
namespace StarQuery.Model

open Sql (Expr)

def Column.floats (c : Column) : List Double :=
  c.calculation.elim [] Expr.floats ++
    (c.elements.getD []).flatMap fun v => (Sql.Literal.ofValue v).floats

def Schema.floats (s : Schema) : List Double := s.columns.flatMap Column.floats

variable {c : Column} {x : Double}

theorem Column.mem_floats :
    x ∈ c.floats ↔
      (∃ e ∈ c.calculation, x ∈ e.floats) ∨ ∃ elements ∈ c.elements, .float x ∈ elements := by
  rw [floats, List.mem_append]
  refine or_congr ?_ ?_
  · cases c.calculation <;> simp
  · cases c.elements <;> simp [Sql.Literal.mem_floats_ofValue]

end StarQuery.Model

namespace StarQuery.Query

open Model (Column Fact Schema Table)
open Settings (CompilerSettings)
open Sql (Dialect Expr Literal Statement Token)

/-- What shows the column, and what it is counted by, has no floats but those of a list. -/
structure Projection.DrawsOn (xs : List Double) (p : Projection) : Prop where
  shown : p.expr.floats ⊆ xs
  counted : p.countExpr.floats ⊆ xs

/-- A filter of the request has the number among its values, as they are read for its column. -/
def Request.FiltersBy (r : Request) (s : Schema) (settings : CompilerSettings) (x : Double) :
    Prop :=
  ∃ base, s.table? r.base = some base ∧ ∃ predicate ∈ r.filter, ∃ f,
    (scopeOf s base settings).readFilter predicate = .ok f ∧ .float x ∈ f.values

variable {s : Scope} {p : Projection} {base : Table} {x : Double} {xs : List Double}

namespace Projection.DrawsOn

theorem aggregate (op : Aggregate) (draws : p.DrawsOn xs) : (aggregate p op).DrawsOn xs := by
  have both : (Projection.aggregate p op).expr.floats ⊆ xs := by
    rw [expr]
    split
    · exact draws.counted
    · exact draws.shown
  exact ⟨both, both⟩

theorem cell {value pivot : Projection} (index : Nat) {key : Value} (ofValue : value.DrawsOn xs)
    (ofPivot : pivot.DrawsOn xs) (ofKey : ∀ x, key = .float x → x ∈ xs) :
    (pivoted value pivot index key).DrawsOn xs := by
  have keyed : (Expr.ofValue key).floats ⊆ xs := fun x member =>
    ofKey x (Literal.mem_floats_ofValue.mp member)
  have compared : (pivot.expr.equals (.ofValue key)).floats ⊆ xs :=
    List.append_subset.mpr ⟨ofPivot.shown, keyed⟩
  exact ⟨List.append_subset.mpr ⟨compared, ofValue.shown⟩,
    List.append_subset.mpr ⟨compared, ofValue.counted⟩⟩

end Projection.DrawsOn

theorem mem_floats_of_domain {limit : UInt64} {c : Column} {keys : List Value}
    (found : domain limit c = .ok keys) (member : .float x ∈ keys) : x ∈ c.floats := by
  cases declared : c.elements with
  | some elements =>
    rw [domain, declared] at found
    cases found
    exact Column.mem_floats.mpr (Or.inr ⟨keys, declared, member⟩)
  | none =>
    have exact := (domain_ok found (by simp [declared])).2 declared _ member
    cases exact.2

namespace Scope

theorem Plain.drawsOn (plain : s.Plain p) (isBase : s.base = some base)
    (held : s.schema.Holds base) : p.DrawsOn s.schema.floats := by
  have both : p.expr.floats ⊆ s.schema.floats ∧ p.countExpr.floats ⊆ s.schema.floats := by
    refine plain.expr_induct (P := fun e => e.floats ⊆ s.schema.floats) isBase held
      (fun t x => List.nil_subset _) fun c declared e calculation x member => ?_
    exact List.mem_flatMap.mpr
      ⟨c, declared, Column.mem_floats.mpr (Or.inl ⟨e, calculation, member⟩)⟩
  exact ⟨both.1, both.2⟩

theorem Plain.pivotColumn_mem (plain : s.Plain p) (isBase : s.base = some base)
    (held : s.schema.Holds base) {c : Column} (found : pivotColumn? p = some c) :
    c ∈ s.schema.columns := by
  cases plain with
  | @whole owner d sees isDimension =>
    obtain ⟨d', isDimension', found⟩ := Option.bind_eq_some_iff.mp found
    obtain ⟨name, -, found⟩ := Option.bind_eq_some_iff.mp found
    rw [← Table.column?_of_dimension isDimension'] at found
    exact (sees.holds isBase held).mem_columns found
  | @column owner c' sees declared =>
    have behind : pivotColumn? (s.columnOf owner c') = some c' := by
      rcases s.columnOf_cases owner c' with ⟨d, -, hp⟩ | ⟨-, hp⟩ | ⟨-, hp⟩ <;> rw [hp] <;> rfl
    obtain rfl := Option.some.inj (behind.symm.trans found)
    exact (sees.holds isBase held).mem_columns declared

theorem Yields.drawsOn (yields : s.Yields p) (isBase : s.base = some base)
    (held : s.schema.Holds base) : p.DrawsOn s.schema.floats := by
  have operated {q : Projection} (operator : Option Aggregate)
      (draws : q.DrawsOn s.schema.floats) :
      (operator.elim q (.aggregate q)).DrawsOn s.schema.floats := by
    cases operator with
    | none => exact draws
    | some op => exact draws.aggregate op
  obtain ⟨reference, columns, found, member⟩ := yields
  rcases parse_ok found member with ⟨path, target, resolved, applied⟩ | ⟨value, pivot, crossed⟩
  · rw [applyOperator_eq applied]
    exact operated _ ((plain_of_resolve resolved).drawsOn isBase held)
  · obtain ⟨v, k, c, keys, hv, hk, behind, keysOf, rfl⟩ := crosstab_cells crossed
    obtain ⟨cell, inside, rfl⟩ := List.mem_map.mp member
    obtain ⟨index, placed⟩ := List.mem_iff_getElem?.mp inside
    obtain ⟨key, found, rfl⟩ := exists_key_of_cell placed
    have declared := (plain_of_resolve hk).pivotColumn_mem isBase held behind
    refine operated _ (.cell index ((plain_of_resolve hv).drawsOn isBase held)
      ((plain_of_resolve hk).drawsOn isBase held) ?_)
    rintro x rfl
    exact List.mem_flatMap.mpr
      ⟨c, declared, mem_floats_of_domain keysOf (List.mem_of_getElem? found)⟩

end Scope

theorem Offers.drawsOn {s : Schema} (offers : Offers s base p) (held : s.Holds base) :
    p.DrawsOn s.floats := by
  obtain ⟨settings, yields⟩ := offers
  exact yields.drawsOn rfl held

theorem Filter.mem_floats_condition {f : Filter} (member : x ∈ f.condition.floats) :
    x ∈ f.column.expr.floats ∨ .float x ∈ f.values := by
  obtain ⟨column, values⟩ := f
  unfold Filter.condition at member
  split at member
  · next value only =>
    dsimp only at only ⊢
    rcases List.mem_append.mp member with shown | compared
    · exact Or.inl shown
    · rw [only, Literal.mem_floats_ofValue.mp compared]
      exact Or.inr (List.mem_singleton_self _)
  · rcases List.mem_append.mp member with shown | compared
    · exact Or.inl shown
    · rw [Expr.allFloats_eq, List.flatMap_map] at compared
      obtain ⟨v, listed, inside⟩ := List.mem_flatMap.mp compared
      rw [Literal.mem_floats_ofValue.mp inside] at listed
      exact Or.inr listed

theorem readValue?_finite {dataType : Model.DataType} {raw : String}
    (read : readValue? dataType raw = some (.float x)) : x.isFinite = true := by
  unfold readValue? at read
  split at read
  · cases read
  · cases dataType
    case decimal | float | money | percent =>
      obtain ⟨y, found, same⟩ := Option.map_eq_some_iff.mp read
      cases same
      exact Option.mem_filter_iff.mp found |>.2
    case integer | year =>
      obtain ⟨n, -, same⟩ := Option.map_eq_some_iff.mp read
      cases same
    case boolean =>
      obtain ⟨b, -, same⟩ := Option.map_eq_some_iff.mp read
      cases same
    case string | text | date | dateTime | timestamp | time | binary => cases read

theorem Scope.finite_of_readFilter {predicate : String} {f : Filter}
    (read : s.readFilter predicate = .ok f) (member : .float x ∈ f.values) :
    x.isFinite = true := by
  obtain ⟨_, _, -, -, readEach⟩ := Scope.readFilter_parts read
  obtain ⟨raw, -, readOne⟩ := exists_left_of_forall₂ readEach member
  exact readValue?_finite readOne

theorem Draft.Built.mem_floats {s : Schema} {fs : List Filter} {d : Draft} {plan : Plan}
    (built : d.Built s base fs) (held : s.Holds base) (planned : d.Planned plan)
    (member : x ∈ plan.statement.floats) : x ∈ s.floats ∨ ∃ f ∈ fs, .float x ∈ f.values := by
  let Drawn (e : Expr) : Prop := x ∈ e.floats → x ∈ s.floats ∨ ∃ f ∈ fs, .float x ∈ f.values
  have onSome (keep : Filter → Bool) : ∀ e ∈ (fs.filter keep).map Filter.condition, Drawn e := by
    intro e member inside
    obtain ⟨f, hf, rfl⟩ := List.mem_map.mp member
    have hf := List.mem_of_mem_filter hf
    rcases Filter.mem_floats_condition inside with shown | asked
    · exact Or.inl (((built.readable f hf).offers.drawsOn held).shown shown)
    · exact Or.inr ⟨f, hf, asked⟩
  obtain ⟨e, place, inside⟩ := List.mem_flatMap.mp member
  rcases List.mem_append.mp place with clause | joined
  · refine planned.clause_induct (P := Drawn) (fun p hp => ?_) (built.conditions ▸ onSome _)
      (built.groupConditions ▸ onSome _) (fun term hterm shown => ?_) (fun e e' left right => ?_)
      (fun _ whole => whole) clause inside
    · have draws := (built.selected p hp).drawsOn held
      exact ⟨fun shown => Or.inl (draws.shown shown), fun counted => Or.inl (draws.counted counted)⟩
    · exact Or.inl (((built.ordering term hterm).drawsOn held).shown shown)
    · exact fun both => (List.mem_append.mp both).elim left right
  · obtain ⟨join, hjoin, rfl⟩ := List.mem_map.mp joined
    rw [planned.joins] at hjoin
    obtain ⟨t, x', u, y', on⟩ := built.joins join hjoin
    rw [on] at inside
    cases inside

theorem Request.mem_floats {s : Schema} {r : Request} {settings : CompilerSettings} {plan : Plan}
    (compiled : r.compile s settings = .ok plan) (member : x ∈ plan.statement.floats) :
    x ∈ s.floats ∨ r.FiltersBy s settings x ∧ x.isFinite = true := by
  obtain ⟨d, drafted, planned⟩ := bind_ok compiled
  obtain ⟨table, fs, d₀, found, read, -, built, rfl⟩ := draft_ok drafted
  have built : Draft.Built s table fs { d₀ with limit := r.limit } := { built with }
  have held := Schema.holds_of_table? found
  refine (built.mem_floats held (Draft.plan_ok planned) member).imp_right ?_
  rintro ⟨f, hf, asked⟩
  obtain ⟨predicate, listed, readOne⟩ := exists_left_of_forall₂ (mapM_eq_ok_iff.mp read) hf
  exact ⟨⟨table, found, predicate, listed, f, readOne, asked⟩,
    Scope.finite_of_readFilter readOne asked⟩

/-- No path lacks the name of a table, and a statement cannot be written for a database exactly if
one of its tokens is a float that is not finite. The floats of a plan are those of the schema and
the finite numbers that filters ask for, so that a request to a schema with finite floats is refused
or can be written for every database. -/
theorem compile_writable (s : Schema) (r : Request) (settings : CompilerSettings) (d : Dialect) :
    (∀ (scope : Scope) (path : String), (scope.leadingOperator (segments path)).2 ≠ []) ∧
    (∀ statement : Statement, (∃ e, statement.sql d = .error e) ↔
      ∃ x, .literal (.float x) ∈ statement.tokens ∧ x.isFinite = false) ∧
    (∀ plan, r.compile s settings = .ok plan →
      (∀ x, .literal (.float x) ∈ plan.statement.tokens → x ∈ plan.statement.floats) ∧
      ∀ x ∈ plan.statement.floats,
        x ∈ s.floats ∨ r.FiltersBy s settings x ∧ x.isFinite = true) ∧
    ((∀ x ∈ s.floats, x.isFinite = true) →
      (∃ e, r.compile s settings = .error e) ∨
        ∃ plan sql, r.compile s settings = .ok plan ∧ plan.statement.sql d = .ok sql) := by
  have written (plan : Plan) (x : Double) (token : .literal (.float x) ∈ plan.statement.tokens) :
      x ∈ plan.statement.floats :=
    plan.statement.floatsIn_tokens (Sql.mem_floatsIn.mpr token)
  refine ⟨fun scope path => (scope.leadingOperator_names _).2 (Scope.segments_ne_nil path),
    fun statement => Sql.exists_toSql_error_iff,
    fun plan compiled => ⟨written plan, fun x => Request.mem_floats compiled⟩, fun finite => ?_⟩
  cases compiled : r.compile s settings with
  | error e => exact Or.inl ⟨e, rfl⟩
  | ok plan =>
    refine Or.inr ⟨plan, ?_⟩
    cases rendered : plan.statement.sql d with
    | ok sql => exact ⟨sql, rfl, rfl⟩
    | error e =>
      obtain ⟨x, token, infinite⟩ := Sql.exists_toSql_error_iff.mp ⟨e, rendered⟩
      rcases Request.mem_floats compiled (written plan x token) with declared | ⟨-, read⟩
      · rw [finite x declared] at infinite
        cases infinite
      · rw [read] at infinite
        cases infinite

def netSales : Schema where
  facts := [
    Fact.define "sales" [
      .degenerate ((Column.ofType "rate" .float).withElements
        [.float ⟨0x3FE0000000000000⟩, .float ⟨0x3FF8000000000000⟩]),
      .measure (.ofType "total" .money),
      .measure ((Column.ofType "net" .money).calculated
        (.binary .mul (.ofTable "sales" "total") (.literal (.float ⟨0x3FE8000000000000⟩))))]]

def netRequest : Request :=
  { base := "sales"
    select := ["sum.sales.total ~ sales.rate", "sum.sales.net"]
    filter := ["sales.total:2.5"] }

theorem compile_writable_netSales :
    (∀ x ∈ netSales.floats, x.isFinite = true) ∧
      ∃ plan sql, netRequest.compile netSales {} = .ok plan ∧
        plan.statement.sql .mySql = .ok sql ∧
        plan.statement.floats.map Double.bits =
          [0x3FE0000000000000, 0x3FF8000000000000, 0x3FE8000000000000, 0x4004000000000000] ∧
        ∀ x ∈ plan.statement.floats,
          x ∈ netSales.floats ∨ netRequest.FiltersBy netSales {} x ∧ x.isFinite = true := by
  have finite : ∀ x ∈ netSales.floats, x.isFinite = true := by decide +kernel
  have run : (netRequest.compile netSales {}).map (·.statement.floats.map Double.bits) =
      .ok [0x3FE0000000000000, 0x3FF8000000000000, 0x3FE8000000000000, 0x4004000000000000] := by
    decide +kernel
  obtain ⟨plan, compiled, floats⟩ := map_ok run
  obtain ⟨-, -, drawn, writable⟩ := compile_writable netSales netRequest {} .mySql
  rcases writable finite with ⟨e, refused⟩ | ⟨plan', sql, compiled', written⟩
  · rw [compiled] at refused
    cases refused
  · obtain rfl := Except.ok.inj (compiled.symm.trans compiled')
    exact ⟨finite, plan, sql, compiled, written, floats, (drawn plan compiled).2⟩

end StarQuery.Query
