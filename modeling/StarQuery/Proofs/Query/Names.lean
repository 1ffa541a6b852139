import StarQuery.Proofs.Model.Namesakes
import StarQuery.Proofs.Query.Denotation
import StarQuery.Proofs.Query.Joins

/-!
The names of columns. A name is put together from the names of tables, columns and operators, with
dots and a tilde between them. Main statement: where tables of one name are alike and no dimension
has a column that is named as an operator, columns of one name have one expression.
-/
namespace StarQuery.Query

open Model (Column Dimension Fact Role Schema Table)
open Settings (CompilerSettings)
open Sql (Expr)

/-- A part of a name contains none of the characters that stand between parts. -/
structure Part (name : String) : Prop where
  dot : '.' ∉ name.toList
  tilde : '~' ∉ name.toList

theorem isNamePart_of_isName {cs : List Char} (named : isName cs = true) {c : Char}
    (member : c ∈ cs) : isNamePart c = true := by
  cases cs with
  | nil => cases member
  | cons start rest =>
    obtain ⟨starts, continues⟩ := Bool.and_eq_true_iff.mp named
    rcases List.mem_cons.mp member with rfl | member
    · refine Bool.or_eq_true_iff.mpr ((Bool.or_eq_true_iff.mp starts).imp_left fun letter => ?_)
      exact Bool.or_eq_true_iff.mpr (Or.inl letter)
    · exact List.all_eq_true.mp continues c member

theorem part_of_isName {name : String} (named : isName name.toList = true) : Part name where
  dot := fun member => absurd (isNamePart_of_isName named member) (by decide)
  tilde := fun member => absurd (isNamePart_of_isName named member) (by decide)

theorem isName_keyword (op : Aggregate) : isName op.keyword.toList = true := by
  cases op <;> rfl

theorem part_keyword (op : Aggregate) : Part op.keyword := part_of_isName (isName_keyword op)

theorem keyword_injective {op op' : Aggregate} (same : op.keyword = op'.keyword) : op = op' := by
  cases op <;> cases op' <;> first | rfl | exact absurd same (by decide)

theorem part_natDigits (n : Nat) : Part (String.ofList (natDigits n)) where
  dot := fun member => absurd (isDigit_of_mem_natDigits (String.toList_ofList ▸ member)) (by decide)
  tilde := fun member =>
    absurd (isDigit_of_mem_natDigits (String.toList_ofList ▸ member)) (by decide)

theorem keyword_ne_natDigits (op : Aggregate) (n : Nat) :
    op.keyword ≠ String.ofList (natDigits n) := by
  intro same
  have letters : op.keyword.toList.any (!·.isDigit) = true := by cases op <;> rfl
  obtain ⟨c, member, letter⟩ := List.any_eq_true.mp letters
  rw [same, String.toList_ofList] at member
  rw [isDigit_of_mem_natDigits member] at letter
  cases letter

theorem last_part {x y a b : String} (ha : Part a) (hb : Part b)
    (same : x ++ "." ++ a = y ++ "." ++ b) : x = y ∧ a = b := by
  have chars : x.toList ++ '.' :: a.toList = y.toList ++ '.' :: b.toList := by
    simpa using congrArg String.toList same
  obtain ⟨before, after⟩ := Text.parts_of_last ha.dot hb.dot chars
  exact ⟨String.toList_inj.mp before, String.toList_inj.mp after⟩

theorem value_part {x y a b : String} (hx : '~' ∉ x.toList) (hy : '~' ∉ y.toList)
    (same : x ++ "~" ++ a = y ++ "~" ++ b) : x = y ∧ a = b := by
  have chars : x.toList ++ '~' :: a.toList = y.toList ++ '~' :: b.toList := by
    simpa using congrArg String.toList same
  obtain ⟨before, after⟩ := Text.parts_of_first hx hy chars
  exact ⟨String.toList_inj.mp before, String.toList_inj.mp after⟩

/-- Two columns that contribute the same to a query, operators and crosstabs over them included. -/
structure Projection.Twins (p q : Projection) : Prop where
  expr : p.expr = q.expr
  countExpr : p.countExpr = q.countExpr
  countsDistinct : p.countsDistinct = q.countsDistinct
  pivotColumn : pivotColumn? p = pivotColumn? q

theorem Projection.Twins.aggregate {p q : Projection} (twins : p.Twins q) (op : Aggregate) :
    (Projection.aggregate p op).Twins (.aggregate q op) where
  expr := by
    rw [Projection.expr, Projection.expr, twins.expr, twins.countExpr, twins.countsDistinct]
  countExpr := by
    rw [Projection.countExpr, Projection.countExpr, twins.expr, twins.countExpr,
      twins.countsDistinct]
  countsDistinct := rfl
  pivotColumn := rfl

theorem Projection.Twins.pivoted {p q k l : Projection} (value : p.Twins q) (pivot : k.Twins l)
    (index : Nat) (key : Value) :
    (Projection.pivoted p k index key).Twins (.pivoted q l index key) where
  expr := by rw [Projection.expr, Projection.expr, value.expr, pivot.expr]
  countExpr := by rw [Projection.countExpr, Projection.countExpr, value.countExpr, pivot.expr]
  countsDistinct := value.countsDistinct
  pivotColumn := rfl

namespace Scope

variable {s : Scope}

inductive Spelled (s : Scope) : Projection → Prop where
  | whole {owner : Table} {d : Dimension} (sees : s.Sees owner)
      (isDimension : owner.dimension? = some d) (part : Part owner.name) :
      Spelled s (.dimension owner d.mainIdentifier (s.keyOf d))
  | column {owner : Table} {c : Column} (sees : s.Sees owner)
      (declared : owner.column? c.name = some c) (part : Part owner.name) (last : Part c.name) :
      Spelled s (s.columnOf owner c)

/-- What a reference denotes before an operator is applied. The place of a cell gives its key. -/
inductive Core (s : Scope) : Projection → Prop where
  | plain {p : Projection} (spelled : s.Spelled p) : Core s p
  | cell {value pivot : Projection} {keys : List Value} {index : Nat} {key : Value}
      (spelledValue : s.Spelled value) (spelledPivot : s.Spelled pivot)
      (domain : s.pivotDomain pivot = .ok keys) (placed : keys[index]? = some key) :
      Core s (.pivoted value pivot index key)

theorem name_columnOf (s : Scope) (owner : Table) (c : Column) :
    (s.columnOf owner c).name = owner.name ++ "." ++ c.name := by
  rcases s.columnOf_cases owner c with ⟨d, -, h⟩ | ⟨-, h⟩ | ⟨-, h⟩ <;> rw [h] <;> rfl

theorem name_of_table {name : String} {t : Table} (found : s.table name = .ok t) :
    t.name = name := by
  unfold table at found
  split at found
  · next table found' =>
    cases found
    unfold table? at found'
    split at found'
    · exact Schema.name_of_table? found'
    · split at found'
      · next same =>
        cases found'
        exact same
      · split at found'
        · next r hr =>
          cases found'
          obtain ⟨f, -, hrole⟩ := Option.bind_eq_some_iff.mp hr
          exact Model.Fact.name_of_role? hrole
        · exact Schema.name_of_table? found'
  · cases found

theorem enterRole_names (owner : Table) (names : List String) :
    (enterRole owner names).1.name ∈ owner.name :: names ∧ (enterRole owner names).2 ⊆ names := by
  unfold enterRole
  split
  · next f name rest =>
    split
    · next r held =>
      refine ⟨List.mem_cons_of_mem _ ?_, List.subset_cons_self name rest⟩
      rw [← Model.Fact.name_of_role? held]
      exact List.mem_cons_self
    · exact ⟨List.mem_cons_self, List.Subset.refl _⟩
  · exact ⟨List.mem_cons_self, List.Subset.refl _⟩

theorem leadingOperator_names (s : Scope) (names : List String) :
    (s.leadingOperator names).2 ⊆ names ∧
      (names ≠ [] → (s.leadingOperator names).2 ≠ []) := by
  unfold leadingOperator
  split
  · next first second rest =>
    split
    · exact ⟨List.subset_cons_self _ _, fun _ => List.cons_ne_nil _ _⟩
    · exact ⟨List.Subset.refl _, fun _ => List.cons_ne_nil _ _⟩
  · exact ⟨List.Subset.refl _, id⟩

theorem segments_ne_nil (path : String) : segments path ≠ [] := by
  simp [segments, Text.split, Text.splitChars_ne_nil]

theorem spelled_of_resolve {path : String} {target : Target}
    (found : s.resolve path = .ok target) : s.Spelled target.projection := by
  obtain ⟨named, leading, first, hfirst, more⟩ := resolve_ok found
  obtain ⟨inside, nonempty⟩ := s.leadingOperator_names (segments path)
  generalize (s.leadingOperator (segments path)).2 = names at *
  obtain ⟨name, rest, rfl⟩ := List.exists_cons_of_ne_nil (nonempty (segments_ne_nil path))
  have part : ∀ x ∈ name :: rest, Part x := fun x hx => part_of_isName (named x (inside hx))
  obtain ⟨ownerName, restNames⟩ := enterRole_names first rest
  rw [show first.name = name from name_of_table hfirst] at ownerName
  have sees := sees_enterRole rest (sees_of_table hfirst)
  rcases denote_ok more with ⟨d, isDimension, hp⟩ | ⟨c, declared, member, hp⟩
  · rw [hp]
    exact Spelled.whole sees isDimension (part _ ownerName)
  · rw [hp]
    exact Spelled.column sees declared (part _ ownerName)
      (part _ (List.mem_cons_of_mem _ (restNames member)))

theorem Yields.core {p : Projection} (yields : s.Yields p) :
    s.Core p ∨ ∃ inner op, p = .aggregate inner op ∧ s.Core inner := by
  obtain ⟨reference, columns, found, member⟩ := yields
  have operated : ∀ {q operator}, s.Core q → applyOperator q operator = .ok p →
      s.Core p ∨ ∃ inner op, p = .aggregate inner op ∧ s.Core inner := by
    intro q operator core applied
    rcases applyOperator_ok applied with rfl | ⟨op, -, -, rfl⟩
    · exact Or.inl core
    · exact Or.inr ⟨q, op, rfl, core⟩
  rcases parse_ok found member with ⟨path, target, resolved, applied⟩ | ⟨value, pivot, crossed⟩
  · exact operated (Core.plain (spelled_of_resolve resolved)) applied
  · obtain ⟨v, k, keys, hv, hk, -, -, domain, cells⟩ := crosstab_ok crossed
    obtain ⟨index, key, placed, applied⟩ := cells p member
    exact operated (Core.cell (spelled_of_resolve hv) (spelled_of_resolve hk) domain placed) applied

def OneMake (s : Scope) : Prop := ∀ t u, s.Sees t → s.Sees u → t.name = u.name → t.Alike u

def OperatorsApart (s : Scope) : Prop :=
  ∀ t, s.Sees t → t.dimension?.isSome = true → ∀ op : Aggregate, t.column? op.keyword = none

variable {p q : Projection}

theorem twins_columnOf {t u : Table} (alike : t.Alike u) (sameName : t.name = u.name)
    (c : Column) : (s.columnOf t c).Twins (s.columnOf u c) := by
  have identified : identified? t c = identified? u c := by
    rw [identified?, identified?, alike.dimension]
  unfold columnOf
  rw [identified]
  -- in all three shapes the owner counts by its name only
  split
  on_goal 2 => split
  all_goals exact ⟨by rw [Projection.expr, Projection.expr, sameName],
    by rw [Projection.countExpr, Projection.countExpr, sameName], rfl, rfl⟩

theorem dot_mem_columnOf (s : Scope) (owner : Table) (c : Column) :
    '.' ∈ (s.columnOf owner c).name.toList := by
  simp [name_columnOf]

theorem Spelled.tilde (spelled : s.Spelled p) : '~' ∉ p.name.toList := by
  cases spelled with
  | whole sees isDimension part => exact part.tilde
  | column sees declared part last => simp [name_columnOf, part.tilde, last.tilde]

theorem Spelled.twins (one : s.OneMake) (hp : s.Spelled p) (hq : s.Spelled q)
    (same : p.name = q.name) : p.Twins q := by
  cases hp with
  | @whole t d seesT isDimensionT partT =>
    cases hq with
    | @whole u e seesU isDimensionU partU =>
      have sameName : t.name = u.name := same
      have alike := one t u seesT seesU sameName
      obtain rfl : d = e :=
        Option.some.inj (isDimensionT.symm.trans (alike.dimension.trans isDimensionU))
      exact ⟨by rw [Projection.expr, Projection.expr, sameName],
        by rw [Projection.countExpr, Projection.countExpr, sameName], rfl,
        by rw [pivotColumn?, pivotColumn?, alike.dimension]⟩
    | @column u c seesU declared partU last =>
      have dotted := s.dot_mem_columnOf u c
      rw [← same] at dotted
      exact absurd dotted partT.dot
  | @column t c seesT declaredT partT lastT =>
    cases hq with
    | @whole u e seesU isDimensionU partU =>
      have dotted := s.dot_mem_columnOf t c
      rw [same] at dotted
      exact absurd dotted partU.dot
    | @column u c' seesU declaredU partU lastU =>
      rw [name_columnOf, name_columnOf] at same
      obtain ⟨sameName, sameColumn⟩ := last_part lastT lastU same
      have alike := one t u seesT seesU sameName
      obtain rfl : c = c' := by
        rw [sameColumn, alike.column?] at declaredT
        exact Option.some.inj (declaredT.symm.trans declaredU)
      exact twins_columnOf alike sameName c

theorem Core.twins (one : s.OneMake) (hp : s.Core p) (hq : s.Core q)
    (same : p.name = q.name) : p.Twins q := by
  cases hp with
  | plain spelledP =>
    cases hq with
    | plain spelledQ => exact spelledP.twins one spelledQ same
    | cell _ _ _ _ =>
      refine absurd ?_ spelledP.tilde
      rw [same]
      simp [Projection.name]
  | @cell v k keys i key spelledV spelledK domain placed =>
    cases hq with
    | plain spelledQ =>
      refine absurd ?_ spelledQ.tilde
      rw [← same]
      simp [Projection.name]
    | @cell w l keys' j key' spelledW spelledL domain' placed' =>
      obtain ⟨before, digits⟩ := last_part (part_natDigits i) (part_natDigits j) same
      obtain ⟨sameValue, samePivot⟩ := value_part spelledV.tilde spelledW.tilde before
      obtain rfl := natDigits_injective (String.ofList_injective digits)
      have value := spelledV.twins one spelledW sameValue
      have pivot := spelledK.twins one spelledL samePivot
      have sameDomain : s.pivotDomain k = s.pivotDomain l := by
        rw [pivotDomain, pivotDomain, pivot.pivotColumn, samePivot]
      obtain rfl : keys = keys' := Except.ok.inj (domain.symm.trans (sameDomain.trans domain'))
      obtain rfl : key = key' := Option.some.inj (placed.symm.trans placed')
      exact value.pivoted pivot i key

theorem Core.name_ne_aggregate (one : s.OneMake) (clear : s.OperatorsApart) (hp : s.Core p)
    (hq : s.Core q) (op : Aggregate) : p.name ≠ (Projection.aggregate q op).name := by
  intro same
  rw [Projection.name] at same
  cases hp with
  | cell _ _ _ _ =>
    exact keyword_ne_natDigits op _ (last_part (part_natDigits _) (part_keyword op) same).2.symm
  | plain spelledP =>
    cases spelledP with
    | @whole t d sees isDimension part =>
      have named : t.name = q.name ++ "." ++ op.keyword := same
      refine part.dot ?_
      rw [named]
      simp
    | @column t c sees declared part last =>
      rw [name_columnOf] at same
      obtain ⟨sameName, sameColumn⟩ := last_part last (part_keyword op) same
      cases hq with
      | cell _ _ _ _ =>
        refine part.dot ?_
        rw [sameName]
        simp [Projection.name]
      | plain spelledQ =>
        cases spelledQ with
        | @whole u d seesU isDimension _ =>
          have alike := one t u sees seesU sameName
          have isDimension : t.dimension?.isSome = true := by rw [alike.dimension, isDimension]; rfl
          rw [sameColumn, clear t sees isDimension op] at declared
          cases declared
        | @column u c' _ _ _ _ =>
          have dotted := s.dot_mem_columnOf u c'
          rw [← sameName] at dotted
          exact part.dot dotted

theorem Yields.expr_of_name (one : s.OneMake) (clear : s.OperatorsApart) (hp : s.Yields p)
    (hq : s.Yields q) (same : p.name = q.name) : p.expr = q.expr := by
  rcases hp.core with coreP | ⟨inner, op, rfl, coreP⟩
  · rcases hq.core with coreQ | ⟨inner, op, rfl, coreQ⟩
    · exact (coreP.twins one coreQ same).expr
    · exact absurd same (coreP.name_ne_aggregate one clear coreQ op)
  · rcases hq.core with coreQ | ⟨inner', op', rfl, coreQ⟩
    · exact absurd same.symm (coreQ.name_ne_aggregate one clear coreP op)
    · obtain ⟨sameInner, sameOperator⟩ := last_part (part_keyword op) (part_keyword op') same
      obtain rfl := keyword_injective sameOperator
      exact ((coreP.twins one coreQ sameInner).aggregate op).expr

end Scope

end StarQuery.Query

namespace StarQuery.Model

def Schema.OperatorsApart (s : Schema) : Prop :=
  ∀ t ∈ s.tables, t.dimension?.isSome = true → ∀ op ∈ Query.Aggregate.all,
    t.column? op.keyword = none

instance (s : Schema) : Decidable s.OperatorsApart :=
  inferInstanceAs (Decidable (∀ t ∈ s.tables, t.dimension?.isSome = true →
    ∀ op ∈ Query.Aggregate.all, t.column? op.keyword = none))

end StarQuery.Model

namespace StarQuery.Query

open Model (Dimension Schema Table)

/-- The columns that calls ask for are shown and ordered by, each with its own expression. -/
structure Plan.Answers (s : Scope) (calls : List Call) (plan : Plan) : Prop where
  shown : ∀ p ∈ requested s calls, ∃ q ∈ plan.columns, q.name = p.name ∧ q.expr = p.expr
  ordered : List.Forall₂ (fun asked term => term.direction = asked.2 ∧
      (term.expr = asked.1.expr ∨ term.expr = Aggregate.max.apply asked.1.expr))
    ((accepted s calls).filterMap Use.orderTerm?) plan.statement.orderBy

section

variable {s : Scope} {calls : List Call}

theorem Scope.oneMake (built : s.schema.Built) (apart : s.schema.RolesApart)
    (heldBase : ∀ base ∈ s.base, s.schema.Holds base) : s.OneMake :=
  fun _ _ seesT seesU sameName =>
    apart.alike built (seesT.held heldBase) (seesU.held heldBase) sameName

theorem Scope.operatorsApart (clear : s.schema.OperatorsApart)
    (heldBase : ∀ base ∈ s.base, s.schema.Holds base) : s.OperatorsApart :=
  fun t sees isDimension op =>
    clear t (Schema.mem_tables (sees.held heldBase)) isDimension op (by cases op <;> decide)

theorem requested_yield {p : Projection} (member : p ∈ requested s calls) : s.Yields p := by
  obtain ⟨u, hu, selected⟩ := List.mem_filterMap.mp member
  obtain ⟨c, _, asked⟩ := List.mem_flatMap.mp hu
  cases u with
  | select q =>
    cases selected
    exact Call.uses_yield asked rfl
  | _ => cases selected

theorem answers_of_names {start d : Draft} {plan : Plan}
    (records : Draft.Records start (accepted s calls) d) (planned : d.Planned plan)
    (identify : ∀ p q, s.Yields p → s.Yields q → p.name = q.name → p.expr = q.expr) :
    plan.Answers s calls where
  shown := by
    intro p member
    have columns : plan.columns = (requested s calls).eraseDupsBy (fun p q => p.name == q.name) := by
      rw [planned.columns, records.selected]
      exact selected_eraseDupsBy _
    have named : p.name ∈ plan.columns.map Projection.name := by
      rw [columns, map_eraseDupsBy, List.mem_eraseDups]
      exact List.mem_map_of_mem member
    obtain ⟨q, hq, sameName⟩ := List.mem_map.mp named
    have yields : s.Yields q := by
      rw [columns] at hq
      exact requested_yield (eraseDupsBy_subset _ _ hq)
    exact ⟨q, hq, sameName, identify q p yields (requested_yield member) sameName⟩
  ordered := by
    rw [← records.ordering]
    have yields : ∀ term ∈ d.ordering, s.Yields term.1 := fun term member =>
      accepted_yield (records.mem_ordering member) rfl
    refine ((List.forall₂_and_left _ _).mpr ⟨yields, planned.orderBy⟩).imp ?_
    rintro ⟨p, direction⟩ term ⟨yieldsP, placed⟩
    rcases orderTermOf_ok placed with ⟨item, hitem, sameName, rfl⟩ | ⟨rfl, -⟩
    · rw [planned.items] at hitem
      obtain ⟨q, hq, rfl⟩ := List.mem_map.mp hitem
      have yieldsQ : s.Yields q := accepted_yield (records.mem_selected hq) rfl
      rw [← identify q p yieldsQ yieldsP sameName]
      exact ⟨rfl, (itemOf_cases d.isGrouped d.keptColumns q).imp And.left And.left⟩
    · exact ⟨rfl, Or.inl rfl⟩

end

/-- Where tables of one name are alike and no dimension has a column that is named as an operator, a
name identifies its column: columns of one name have one expression, and a plan shows and orders by
what was asked for. -/
theorem names_identify {s : Schema} (built : s.Built) (apart : s.RolesApart)
    (clear : s.OperatorsApart) :
    (∀ scope : Scope, scope.schema = s → (∀ base ∈ scope.base, s.Holds base) →
      ∀ p q, scope.Yields p → scope.Yields q → p.name = q.name → p.expr = q.expr) ∧
    ∀ base settings calls plan, planOf s base settings calls = .ok plan →
      ∃ table, s.table? base = some table ∧ plan.Answers (scopeOf s table settings) calls := by
  have identify : ∀ scope : Scope, scope.schema = s → (∀ base ∈ scope.base, s.Holds base) →
      ∀ p q, scope.Yields p → scope.Yields q → p.name = q.name → p.expr = q.expr := by
    rintro scope rfl heldBase p q yieldsP yieldsQ
    exact yieldsP.expr_of_name (Scope.oneMake built apart heldBase)
      (Scope.operatorsApart clear heldBase) yieldsQ
  refine ⟨identify, fun base settings calls plan planned => ?_⟩
  obtain ⟨d, made, hplan⟩ := planOf_ok planned
  obtain ⟨table, found, records⟩ := draftOf_ok made
  have heldBase : ∀ base ∈ (scopeOf s table settings).base, s.Holds base := by
    rintro _ ⟨⟩
    exact Schema.holds_of_table? found
  exact ⟨table, found, answers_of_names records (Draft.plan_ok hplan)
    (identify (scopeOf s table settings) rfl heldBase)⟩

theorem names_identify_shipments :
    ∃ plan, planOf Schema.shipments "sales" {}
        [.order ["-sales.total.sum"], .select ["ship_date.year", "sum.sales.total"]] = .ok plan ∧
      plan.names = ["ship_date.year", "sales.total.sum"] ∧
      ∃ table, Schema.shipments.table? "sales" = some table ∧
        plan.Answers (scopeOf Schema.shipments table {})
          [.order ["-sales.total.sum"], .select ["ship_date.year", "sum.sales.total"]] := by
  have run : (planOf Schema.shipments "sales" {}
      [.order ["-sales.total.sum"], .select ["ship_date.year", "sum.sales.total"]]).map
      Plan.names = .ok ["ship_date.year", "sales.total.sum"] := by decide +kernel
  obtain ⟨plan, planned, names⟩ := map_ok run
  obtain ⟨-, answers⟩ :=
    names_identify Schema.shipments_built Schema.shipments_apart (by decide +kernel)
  exact ⟨plan, planned, names, answers "sales" {} _ plan planned⟩

def stocked : Dimension := Dimension.define "product" [
  .column (.ofType "name" .string), .column (.ofType "count" .integer), .identifier "name",
  .identifiable]

def stock : Schema := { dimensions := [stocked] }

theorem stock_built : stock.Built :=
  Schema.built_register stock.dimensions [] rfl

/-- A column named as an operator has the name of the aggregate. -/
theorem not_all_names_identify :
    ¬ ∀ (s : Scope) p q, s.schema.Built → s.schema.RolesApart →
      (∀ base ∈ s.base, s.schema.Holds base) → s.Yields p → s.Yields q → p.name = q.name →
      p.expr = q.expr := by
  intro all
  have column : (scopeOf stock (.dimension stocked) {}).parse "product.count" =
      .ok [.attribute (.dimension stocked) (.ofType "count" .integer)] := by decide +kernel
  have operated : (scopeOf stock (.dimension stocked) {}).parse "count.product" =
      .ok [.aggregate (.dimension (.dimension stocked) (some "name") "original_id") .count] := by
    decide +kernel
  have same := all (scopeOf stock (.dimension stocked) {}) _ _ stock_built
    ⟨by decide, by decide⟩ (by rintro _ ⟨⟩; exact List.mem_singleton_self stocked)
    ⟨_, _, column, List.mem_singleton_self _⟩ ⟨_, _, operated, List.mem_singleton_self _⟩
    (by decide +kernel)
  exact absurd same (by decide +kernel)

end StarQuery.Query
