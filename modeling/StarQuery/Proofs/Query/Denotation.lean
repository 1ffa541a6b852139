import StarQuery.Proofs.Model.Holding
import StarQuery.Proofs.Query.Run

/-!
The columns that references denote. Main statement: a reference that denotes something denotes plain
columns, cells of plain columns, or an operator that suits over one of these; a plain column is a
dimension as a whole or declared in a table that the scope sees.
-/
namespace StarQuery.Query

open Model (Column Dimension Fact Role Schema Table)
open Sql (Expr)

theorem isAggregateName_functionName (op : Aggregate) :
    Expr.isAggregateName op.functionName = true := by
  cases op <;> decide +kernel

theorem Projection.aggregate_isCall (p : Projection) (op : Aggregate) :
    ∃ distinct argument,
      (Projection.aggregate p op).expr = .call op.functionName distinct argument := by
  rw [expr]
  split
  · next isCount =>
    subst isCount
    exact ⟨p.countsDistinct, p.countExpr, rfl⟩
  · exact ⟨false, p.expr, rfl⟩

namespace Scope

/-- The tables that paths can name: the base, the registered tables, and the roles of either. -/
inductive Sees (s : Scope) : Table → Prop where
  | base {t : Table} (held : s.base = some t) : Sees s t
  | registered {name : String} {t : Table} (held : s.schema.table? name = some t) : Sees s t
  | role {f : Fact} {name : String} {r : Role} (holder : Sees s (.fact f))
      (held : f.role? name = some r) : Sees s (.role r)

/-- What a path denotes without an operator. -/
inductive Plain (s : Scope) : Projection → Prop where
  | whole {owner : Table} {d : Dimension} (sees : s.Sees owner)
      (isDimension : owner.dimension? = some d) :
      Plain s (.dimension owner d.mainIdentifier (s.keyOf d))
  | column {owner : Table} {c : Column} (sees : s.Sees owner)
      (declared : owner.column? c.name = some c) : Plain s (s.columnOf owner c)

/-- What a reference denotes. Nothing is aggregated twice, and no cell holds an aggregate. -/
inductive Parsed (s : Scope) : Projection → Prop where
  | plain {p : Projection} (plain : s.Plain p) : Parsed s p
  | cell {value pivot : Projection} (index : Nat) (key : Value) (plainValue : s.Plain value)
      (plainPivot : s.Plain pivot) (rowValue : value.isAggregate = false)
      (rowPivot : pivot.isAggregate = false) : Parsed s (.pivoted value pivot index key)
  | aggregate {p : Projection} {op : Aggregate} (parsed : Parsed s p)
      (rowValue : p.isAggregate = false) (suits : op.rejection? p.profile = none) :
      Parsed s (.aggregate p op)

variable {s : Scope}

theorem sees_of_table {name : String} {t : Table} (found : s.table name = .ok t) : s.Sees t := by
  unfold table at found
  split at found
  · next table found' =>
    cases found
    unfold table? at found'
    split at found'
    · exact Sees.registered found'
    · next base held =>
      split at found'
      · cases found'
        exact Sees.base held
      · split at found'
        · next r hr =>
          cases found'
          obtain ⟨f, hf, hrole⟩ := Option.bind_eq_some_iff.mp hr
          cases base with
          | fact g =>
            cases hf
            exact Sees.role (Sees.base held) hrole
          | dimension d => cases hf
          | role r' => cases hf
        · exact Sees.registered found'
  · cases found

theorem Sees.held {t : Table} (sees : s.Sees t)
    (heldBase : ∀ base ∈ s.base, s.schema.Holds base) : s.schema.Holds t := by
  induction sees with
  | base isBase => exact heldBase _ isBase
  | registered found => exact Schema.holds_of_table? found
  | role _ found ih => exact ⟨_, ih, List.mem_of_find?_eq_some found⟩

theorem Sees.holds {t base : Table} (sees : s.Sees t) (isBase : s.base = some base)
    (held : s.schema.Holds base) : s.schema.Holds t :=
  sees.held fun _ isBase' => Option.some.inj (isBase.symm.trans isBase') ▸ held

theorem sees_enterRole {owner : Table} (names : List String) (sees : s.Sees owner) :
    s.Sees (enterRole owner names).1 := by
  unfold enterRole
  split
  · next f name rest =>
    split
    · next r held => exact Sees.role sees held
    · exact sees
  · exact sees

theorem wholeTable_ok {owner : Table} {p : Projection} (found : s.wholeTable owner = .ok p) :
    ∃ d, owner.dimension? = some d ∧ p = .dimension owner d.mainIdentifier (s.keyOf d) := by
  unfold wholeTable at found
  split at found
  · next d isDimension =>
    cases found
    exact ⟨d, isDimension, rfl⟩
  · cases found

theorem columnOf_cases (s : Scope) (owner : Table) (c : Column) :
    (∃ d, identified? owner c = some d ∧ s.columnOf owner c = .identifier owner c (s.keyOf d)) ∨
      (c.isVirtual = true ∧ s.columnOf owner c = .calculated owner c) ∨
      (c.isVirtual = false ∧ s.columnOf owner c = .attribute owner c) := by
  unfold columnOf
  split
  · next d identified => exact Or.inl ⟨d, identified, rfl⟩
  · split
    · next virtual => exact Or.inr (Or.inl ⟨virtual, rfl⟩)
    · next physical => exact Or.inr (Or.inr ⟨by simpa using physical, rfl⟩)

theorem name_of_column? {owner : Table} {name : String} {c : Column}
    (found : owner.column? name = some c) : c.name = name := by
  cases owner with
  | fact f =>
    obtain ⟨entry, hentry, hc⟩ := Option.bind_eq_some_iff.mp found
    have named : entry.name = name := by simpa using List.find?_some hentry
    cases entry with
    | dimension r => cases hc
    | degenerate c' => cases hc; exact named
    | measure c' => cases hc; exact named
  | dimension d => simpa using List.find?_some found
  | role r => simpa using List.find?_some found

theorem denote_ok {path : String} {leading : Option Aggregate} {owner : Table}
    {names : List String} {target : Target}
    (found : s.denote path leading owner names = .ok target) :
    (∃ d, owner.dimension? = some d ∧
        target.projection = .dimension owner d.mainIdentifier (s.keyOf d)) ∨
      ∃ c, owner.column? c.name = some c ∧ c.name ∈ names ∧
        target.projection = s.columnOf owner c := by
  unfold denote at found
  split at found
  · obtain ⟨p, whole, made⟩ := bind_ok found
    cases made
    exact Or.inl (wholeTable_ok whole)
  · next name rest =>
    split at found
    · next c declared =>
      obtain rfl := name_of_column? declared
      refine Or.inr ⟨c, declared, List.mem_cons_self, ?_⟩
      split at found
      · cases found
        rfl
      · split at found
        · obtain ⟨op, _, made⟩ := bind_ok found
          cases made
          rfl
        · cases found
      · cases found
    · split at found
      · obtain ⟨op, _, more⟩ := bind_ok found
        obtain ⟨p, whole, made⟩ := bind_ok more
        cases made
        exact Or.inl (wholeTable_ok whole)
      · cases found

theorem resolve_ok {path : String} {target : Target} (found : s.resolve path = .ok target) :
    (∀ name ∈ segments path, isName name.toList = true) ∧
      ∃ leading first, s.table ((s.leadingOperator (segments path)).2.headD "") = .ok first ∧
        s.denote path leading (enterRole first (s.leadingOperator (segments path)).2.tail).1
          (enterRole first (s.leadingOperator (segments path)).2.tail).2 = .ok target := by
  unfold resolve at found
  split at found
  · cases found
  · next wellFormed =>
    obtain ⟨first, hfirst, more⟩ := bind_ok found
    exact ⟨by simpa using wellFormed, _, first, hfirst, more⟩

theorem plain_of_resolve {path : String} {target : Target}
    (found : s.resolve path = .ok target) : s.Plain target.projection := by
  obtain ⟨-, leading, first, hfirst, more⟩ := resolve_ok found
  have sees := sees_enterRole (s.leadingOperator (segments path)).2.tail (sees_of_table hfirst)
  rcases denote_ok more with ⟨d, isDimension, hp⟩ | ⟨c, declared, -, hp⟩
  · rw [hp]
    exact Plain.whole sees isDimension
  · rw [hp]
    exact Plain.column sees declared

theorem applyOperator_ok {p q : Projection} {operator : Option Aggregate}
    (applied : applyOperator p operator = .ok q) :
    q = p ∨ ∃ op, p.isAggregate = false ∧ op.rejection? p.profile = none ∧
      q = .aggregate p op := by
  unfold applyOperator at applied
  split at applied
  · cases applied
    exact Or.inl rfl
  · next op =>
    split at applied
    · cases applied
    · next rowValue =>
      split at applied
      · cases applied
      · next suits =>
        cases applied
        exact Or.inr ⟨op, by simpa using rowValue, suits, rfl⟩

theorem Parsed.applyOperator {p q : Projection} {operator : Option Aggregate}
    (parsed : s.Parsed p) (applied : applyOperator p operator = .ok q) : s.Parsed q := by
  rcases applyOperator_ok applied with rfl | ⟨op, rowValue, suits, rfl⟩
  · exact parsed
  · exact Parsed.aggregate parsed rowValue suits

theorem crosstab_ok {value pivot : String} {columns : List Projection}
    (found : s.crosstab value pivot = .ok columns) :
    ∃ v k keys, s.resolve value = .ok v ∧ s.resolve pivot = .ok k ∧
      v.projection.isAggregate = false ∧ k.projection.isAggregate = false ∧
      s.pivotDomain k.projection = .ok keys ∧
      ∀ p ∈ columns, ∃ (index : Nat) (key : Value), keys[index]? = some key ∧
        applyOperator (.pivoted v.projection k.projection index key) v.operator = .ok p := by
  obtain ⟨v, hv, found⟩ := bind_ok found
  obtain ⟨k, hk, found⟩ := bind_ok found
  dsimp only at found
  split at found
  · cases found
  · next rowPivot =>
    split at found
    · cases found
    · next rowValue =>
      obtain ⟨keys, domain, found⟩ := bind_ok found
      rw [Bool.not_eq_true, Bool.or_eq_false_iff] at rowPivot
      rw [Bool.not_eq_true] at rowValue
      refine ⟨v, k, keys, hv, hk, rowValue, rowPivot.2, domain, fun p member => ?_⟩
      obtain ⟨⟨key, index⟩, hkey, applied⟩ :=
        exists_left_of_forall₂ (mapM_eq_ok_iff.mp found) member
      exact ⟨index, key, List.mem_zipIdx_iff_getElem?.mp hkey, applied⟩

theorem parse_ok {reference : String} {columns : List Projection}
    (found : s.parse reference = .ok columns) {p : Projection} (member : p ∈ columns) :
    (∃ path target, s.resolve path = .ok target ∧
        applyOperator target.projection target.operator = .ok p) ∨
      ∃ value pivot, s.crosstab value pivot = .ok columns := by
  unfold parse at found
  split at found
  · obtain ⟨target, resolved, found⟩ := bind_ok found
    obtain ⟨q, applied, made⟩ := bind_ok found
    cases made
    obtain rfl := List.mem_singleton.mp member
    exact Or.inl ⟨_, target, resolved, applied⟩
  · exact Or.inr ⟨_, _, found⟩
  · cases found

def Yields (s : Scope) (p : Projection) : Prop :=
  ∃ reference columns, s.parse reference = .ok columns ∧ p ∈ columns

theorem Yields.parsed {p : Projection} (yields : s.Yields p) : s.Parsed p := by
  obtain ⟨reference, columns, found, member⟩ := yields
  rcases parse_ok found member with ⟨path, target, resolved, applied⟩ | ⟨value, pivot, crossed⟩
  · exact (Parsed.plain (plain_of_resolve resolved)).applyOperator applied
  · obtain ⟨v, k, keys, hv, hk, rowValue, rowPivot, -, cells⟩ := crosstab_ok crossed
    obtain ⟨index, key, -, applied⟩ := cells p member
    exact (Parsed.cell index key (plain_of_resolve hv) (plain_of_resolve hk) rowValue
      rowPivot).applyOperator applied

theorem readValue_ok {dataType : Model.DataType} {predicate raw : String} {v : Value}
    (read : readValue dataType predicate raw = .ok v) : readValue? dataType raw = some v := by
  unfold readValue at read
  split at read
  · next found =>
    cases read
    exact found
  · cases read

theorem readFilter_parts {predicate : String} {f : Filter}
    (read : s.readFilter predicate = .ok f) :
    ∃ reference values, Text.cut ':' predicate = some (reference, values) ∧
      s.single reference = .ok f.column ∧
      List.Forall₂ (fun raw v => readValue? f.column.dataType raw = some v)
        ((Text.split ',' values).map Text.trim) f.values := by
  unfold readFilter at read
  split at read
  · cases read
  · next reference raw cut =>
    obtain ⟨column, single, read⟩ := bind_ok read
    obtain ⟨values, readAll, made⟩ := bind_ok read
    cases made
    exact ⟨reference, raw, cut, single,
      (mapM_eq_ok_iff.mp readAll).imp fun _ _ readOne => readValue_ok readOne⟩

theorem readFilter_ok {predicate : String} {f : Filter} (read : s.readFilter predicate = .ok f) :
    s.Yields f.column := by
  obtain ⟨reference, _, -, single, -⟩ := readFilter_parts read
  obtain ⟨columns, parsed, only⟩ := bind_ok single
  split at only
  · cases only
    exact ⟨_, _, parsed, List.mem_singleton_self f.column⟩
  · cases only

theorem Plain.hasAggregate (plain : s.Plain p) : p.expr.hasAggregate = p.isAggregate := by
  cases plain with
  | whole sees isDimension => rfl
  | @column owner c sees declared =>
    rcases s.columnOf_cases owner c with ⟨d, -, hp⟩ | ⟨-, hp⟩ | ⟨-, hp⟩
    · rw [hp]
      rfl
    · rw [hp, Projection.expr, Projection.isAggregate]
      cases c.calculation <;> rfl
    · rw [hp]
      rfl

theorem Parsed.hasAggregate (parsed : s.Parsed p) : p.expr.hasAggregate = p.isAggregate := by
  cases parsed with
  | plain plain => exact plain.hasAggregate
  | cell index key plainValue plainPivot rowValue rowPivot =>
    rw [Projection.expr, Projection.isAggregate, Projection.cellExpr, Expr.hasAggregate,
      Expr.equals, Expr.hasAggregate, plainValue.hasAggregate, plainPivot.hasAggregate, rowPivot]
    rfl
  | @aggregate p op parsed rowValue suits =>
    obtain ⟨distinct, argument, hexpr⟩ := Projection.aggregate_isCall p op
    rw [hexpr, Expr.hasAggregate, isAggregateName_functionName, Bool.true_or]
    rfl

theorem Plain.countExpr_cases (plain : s.Plain p) :
    p.countExpr = p.expr ∨ ∃ t x, p.countExpr = .ofTable t x := by
  cases plain with
  | @whole owner d sees isDimension => exact Or.inr ⟨owner.name, s.keyOf d, rfl⟩
  | @column owner c sees declared =>
    rcases s.columnOf_cases owner c with ⟨d, -, hp⟩ | ⟨-, hp⟩ | ⟨-, hp⟩
    · rw [hp]
      exact Or.inr ⟨owner.name, s.keyOf d, rfl⟩
    · rw [hp]
      exact Or.inl rfl
    · rw [hp]
      exact Or.inl rfl

theorem Plain.countExpr_hasAggregate (plain : s.Plain p) (rowValue : p.isAggregate = false) :
    p.countExpr.hasAggregate = false := by
  rcases plain.countExpr_cases with same | ⟨t, x, key⟩
  · rw [same, plain.hasAggregate, rowValue]
  · rw [key]
    rfl

theorem Parsed.countExpr_hasAggregate (parsed : s.Parsed p) (rowValue : p.isAggregate = false) :
    p.countExpr.hasAggregate = false := by
  cases parsed with
  | plain plain => exact plain.countExpr_hasAggregate rowValue
  | cell index key plainValue plainPivot rowCell rowPivot =>
    rw [Projection.countExpr, Projection.cellExpr, Expr.hasAggregate, Expr.equals,
      Expr.hasAggregate, plainPivot.hasAggregate, rowPivot,
      plainValue.countExpr_hasAggregate rowCell]
    rfl
  | aggregate parsed rowCell suits => cases rowValue

section

variable {P : Expr → Prop} {base : Table}

theorem Plain.expr_induct (plain : s.Plain p) (isBase : s.base = some base)
    (held : s.schema.Holds base) (column : ∀ t x, P (.ofTable t x))
    (calculation : ∀ c ∈ s.schema.columns, ∀ e ∈ c.calculation, P e) :
    P p.expr ∧ P p.countExpr := by
  have shown : P p.expr := by
    cases plain with
    | whole sees isDimension => exact column _ _
    | @column owner c sees declared =>
      rcases s.columnOf_cases owner c with ⟨d, -, hp⟩ | ⟨-, hp⟩ | ⟨-, hp⟩
      · rw [hp]
        exact column _ _
      · rw [hp, Projection.expr]
        cases declaration : c.calculation with
        | none => exact column _ _
        | some e =>
          have member : c ∈ s.schema.columns := (sees.holds isBase held).mem_columns declared
          exact calculation c member e declaration
      · rw [hp]
        exact column _ _
  rcases plain.countExpr_cases with same | ⟨t, x, key⟩
  · rw [same]
    exact ⟨shown, shown⟩
  · rw [key]
    exact ⟨shown, column t x⟩

/-- What shows a column, and what it is counted by, is made of columns of tables and of calculations
by cells and by calls; no call has an aggregate in its argument. -/
theorem Parsed.expr_induct (parsed : s.Parsed p) (isBase : s.base = some base)
    (held : s.schema.Holds base) (column : ∀ t x, P (.ofTable t x))
    (calculation : ∀ c ∈ s.schema.columns, ∀ e ∈ c.calculation, P e)
    (cell : ∀ pivot key result, P pivot → P result → P (Projection.cellExpr pivot key result))
    (call : ∀ name distinct e, e.hasAggregate = false → P e → P (.call name distinct e)) :
    P p.expr ∧ P p.countExpr := by
  induction parsed with
  | plain plain => exact plain.expr_induct isBase held column calculation
  | cell index key plainValue plainPivot rowValue rowPivot =>
    have value := plainValue.expr_induct isBase held column calculation
    have pivot := plainPivot.expr_induct isBase held column calculation
    exact ⟨cell _ key _ pivot.1 value.1, cell _ key _ pivot.1 value.2⟩
  | @aggregate p op parsed rowValue suits ih =>
    have free : p.expr.hasAggregate = false := by rw [parsed.hasAggregate, rowValue]
    have counted (distinct : Bool) : P (.call "COUNT" distinct p.countExpr) :=
      call "COUNT" distinct _ (parsed.countExpr_hasAggregate rowValue) ih.2
    have applied : P (op.apply p.expr) := call op.functionName false _ free ih.1
    rw [Projection.expr, Projection.countExpr]
    split
    · exact ⟨counted _, counted _⟩
    · exact ⟨applied, applied⟩

end

theorem Plain.sees_owner (plain : s.Plain p) {t : Table} (member : t ∈ p.owners) : s.Sees t := by
  cases plain with
  | whole sees isDimension =>
    obtain rfl := List.mem_singleton.mp member
    exact sees
  | @column owner c sees declared =>
    have only : (s.columnOf owner c).owners = [owner] := by
      rcases s.columnOf_cases owner c with ⟨d, -, hp⟩ | ⟨-, hp⟩ | ⟨-, hp⟩ <;> rw [hp] <;> rfl
    rw [only] at member
    obtain rfl := List.mem_singleton.mp member
    exact sees

theorem Parsed.sees_owner (parsed : s.Parsed p) {t : Table} (member : t ∈ p.owners) :
    s.Sees t := by
  induction parsed with
  | plain plain => exact plain.sees_owner member
  | cell index key plainValue plainPivot rowValue rowPivot =>
    rcases List.mem_append.mp member with ofValue | ofPivot
    · exact plainValue.sees_owner ofValue
    · exact plainPivot.sees_owner ofPivot
  | aggregate parsed rowValue suits ih => exact ih member

theorem mem_columns {reference : String} {p : Projection} (member : p ∈ s.columns reference) :
    s.Yields p := by
  unfold columns at member
  cases found : s.parse reference with
  | error e =>
    rw [found] at member
    cases member
  | ok columns =>
    rw [found] at member
    exact ⟨reference, columns, found, member⟩

end Scope

theorem Call.uses_yield {s : Scope} {c : Call} {u : Use} {p : Projection} (member : u ∈ c.uses s)
    (column : u.column? = some p) : s.Yields p := by
  cases c with
  | select references =>
    obtain ⟨reference, _, member⟩ := List.mem_flatMap.mp member
    obtain ⟨q, hq, rfl⟩ := List.mem_map.mp member
    cases column
    exact Scope.mem_columns hq
  | filter predicates =>
    obtain ⟨predicate, _, member⟩ := List.mem_flatMap.mp member
    obtain ⟨f, hf, rfl⟩ := List.mem_map.mp member
    cases column
    cases read : s.readFilter predicate with
    | error e =>
      rw [read] at hf
      cases hf
    | ok f' =>
      rw [read] at hf
      obtain rfl := List.mem_singleton.mp hf
      exact Scope.readFilter_ok read
  | order references =>
    obtain ⟨reference, _, member⟩ := List.mem_flatMap.mp member
    obtain ⟨q, hq, rfl⟩ := List.mem_map.mp member
    cases column
    exact Scope.mem_columns hq
  | limit rows =>
    obtain rfl := List.mem_singleton.mp member
    cases column

theorem accepted_yield {s : Scope} {calls : List Call} {u : Use} {p : Projection}
    (member : u ∈ accepted s calls) (column : u.column? = some p) : s.Yields p := by
  obtain ⟨c, _, asked⟩ := List.mem_flatMap.mp (eraseDupsBy_subset _ _ member)
  exact Call.uses_yield asked column

theorem accepted_parsed {s : Scope} {calls : List Call} {u : Use} {p : Projection}
    (member : u ∈ accepted s calls) (column : u.column? = some p) : s.Parsed p :=
  (accepted_yield member column).parsed

end StarQuery.Query
