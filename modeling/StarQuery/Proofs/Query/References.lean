import StarQuery.Proofs.Model.MemberColumns
import StarQuery.Proofs.Query.InForce
import StarQuery.Proofs.Query.Paths
import StarQuery.Proofs.Query.Planned
import StarQuery.Proofs.Query.Shapes

/-!
What a plan refers to. A calculated column stands for an expression and has no place in the database.
Main statement: the clauses of a plan are put together from keys, physical columns and calculations
as they were declared, unless a dimension is shown or told apart by a column that is calculated or
not declared; such a column is referred to by its name.
-/
namespace StarQuery.Sql.Expr

/-- The expression is put together from parts and literals, and has no columns but in its parts. -/
inductive MadeOf (Part : Expr → Prop) : Expr → Prop where
  | part {e : Expr} (part : Part e) : MadeOf Part e
  | literal (l : Literal) : MadeOf Part (.literal l)
  | binary (op : Operator) {left right : Expr} (onLeft : MadeOf Part left)
      (onRight : MadeOf Part right) : MadeOf Part (.binary op left right)
  | call (name : String) (distinct : Bool) {argument : Expr} (inside : MadeOf Part argument) :
      MadeOf Part (.call name distinct argument)
  | caseWhen {condition result : Expr} (asked : MadeOf Part condition)
      (shown : MadeOf Part result) : MadeOf Part (.caseWhen condition result)
  | isIn {subject : Expr} {choices : List Expr} (asked : MadeOf Part subject)
      (listed : ∀ choice ∈ choices, MadeOf Part choice) : MadeOf Part (.isIn subject choices)

variable {Part Part' : Expr → Prop} {e : Expr}

theorem MadeOf.mono (imp : ∀ e, Part e → Part' e) (made : MadeOf Part e) : MadeOf Part' e := by
  induction made with
  | part part => exact .part (imp _ part)
  | literal l => exact .literal l
  | binary op _ _ onLeft onRight => exact .binary op onLeft onRight
  | call name distinct _ inside => exact .call name distinct inside
  | caseWhen _ _ asked shown => exact .caseWhen asked shown
  | isIn _ _ asked listed => exact .isIn asked listed

theorem mem_allMentions {es : List Expr} {m : Option String × String}
    (occurs : m ∈ allColumnsOutside (fun _ => false) es) : ∃ e ∈ es, m ∈ e.mentions := by
  induction es with
  | nil => cases occurs
  | cons e es ih =>
    rw [allColumnsOutside] at occurs
    rcases List.mem_append.mp occurs with first | rest
    · exact ⟨e, List.mem_cons_self, first⟩
    · obtain ⟨e', member, inside⟩ := ih rest
      exact ⟨e', List.mem_cons_of_mem e member, inside⟩

theorem MadeOf.exists_part (made : MadeOf Part e) {m : Option String × String}
    (occurs : m ∈ e.mentions) : ∃ part, Part part ∧ m ∈ part.mentions := by
  induction made with
  | part part => exact ⟨_, part, occurs⟩
  | literal l =>
    rw [mentions, columnsOutside_literal] at occurs
    cases occurs
  | binary op _ _ onLeft onRight =>
    rw [mentions_binary] at occurs
    exact (List.mem_append.mp occurs).elim onLeft onRight
  | call name distinct _ inside => exact inside occurs
  | caseWhen _ _ asked shown =>
    rw [mentions_caseWhen] at occurs
    exact (List.mem_append.mp occurs).elim asked shown
  | isIn _ _ asked listed =>
    rw [mentions_isIn] at occurs
    rcases List.mem_append.mp occurs with first | rest
    · exact asked first
    · obtain ⟨choice, member, inside⟩ := mem_allMentions rest
      exact listed choice member inside

end StarQuery.Sql.Expr

namespace StarQuery.Query

open Model (Column Dimension Fact Schema Table)
open Sql (Expr)

/-- What an expression may refer to a table by: a key of the given names, a physical column, or a
calculation as it was declared. -/
inductive RefersTo (keys : List String) (t : Table) : Expr → Prop where
  | key {name : String} (key : name ∈ keys) : RefersTo keys t (.ofTable t.name name)
  | physical {name : String} (physical : t.hasPhysical name = true) :
      RefersTo keys t (.ofTable t.name name)
  | calculation {c : Column} {e : Expr} (declared : t.column? c.name = some c)
      (calculation : c.calculation = some e) : RefersTo keys t e

namespace Projection

def plainColumns : Projection → List Projection
  | .aggregate inner _ => inner.plainColumns
  | .pivoted value pivot _ _ => value.plainColumns ++ pivot.plainColumns
  | .attribute owner column => [.attribute owner column]
  | .dimension owner main key => [.dimension owner main key]
  | .identifier owner column key => [.identifier owner column key]
  | .calculated owner column => [.calculated owner column]

/-- What shows a plain column or what it is counted by. -/
def Writes (p : Projection) (e : Expr) : Prop := e = p.expr ∨ e = p.countExpr

structure Faithful (keys : List String) (p : Projection) : Prop where
  refers : ∀ e, p.Writes e → ∃ t ∈ p.owners, RefersTo keys t e
  calculation : ∀ c ∈ pivotColumn? p, ∀ e ∈ c.calculation, p.expr = e

/-- A column that tells members apart is written by its name, but is not there to be referred to. -/
def Misnames (p : Projection) : Prop :=
  ∃ t ∈ p.owners, ∃ name ∈ t.memberColumns, t.hasPhysical name = false ∧
    p.Writes (.ofTable t.name name)

variable {p q : Projection}

theorem owners_of_plainColumns (member : q ∈ p.plainColumns) : q.owners ⊆ p.owners := by
  induction p with
  | aggregate inner op ih => exact ih member
  | pivoted value pivot index key ofValue ofPivot =>
    rcases List.mem_append.mp member with inside | inside
    · exact List.subset_append_of_subset_left _ (ofValue inside)
    · exact List.subset_append_of_subset_right _ (ofPivot inside)
  | _ =>
    obtain rfl := List.mem_singleton.mp member
    exact List.Subset.refl _

theorem IsPlain.plainColumns (plain : p.IsPlain) : p.plainColumns = [p] := by
  cases plain <;> rfl

theorem madeOf_cellExpr {Part : Expr → Prop} {pivot result : Expr} (key : Value)
    (madePivot : pivot.MadeOf Part) (madeResult : result.MadeOf Part) :
    (cellExpr pivot key result).MadeOf Part :=
  .caseWhen (.binary .eq madePivot (.literal _)) madeResult

theorem madeOf_plainColumns {Part : Expr → Prop}
    (parts : ∀ q ∈ p.plainColumns, ∀ e, q.Writes e → Part e) :
    p.expr.MadeOf Part ∧ p.countExpr.MadeOf Part := by
  induction p with
  | aggregate inner op ih =>
    obtain ⟨shown, counted⟩ := ih parts
    rw [expr, countExpr]
    split
    · exact ⟨.call _ _ counted, .call _ _ counted⟩
    · exact ⟨.call _ _ shown, .call _ _ shown⟩
  | pivoted value pivot index key ofValue ofPivot =>
    obtain ⟨shown, counted⟩ := ofValue fun q inside => parts q (List.mem_append_left _ inside)
    obtain ⟨compared, -⟩ := ofPivot fun q inside => parts q (List.mem_append_right _ inside)
    exact ⟨madeOf_cellExpr key compared shown, madeOf_cellExpr key compared counted⟩
  | _ =>
    have own := parts _ (List.mem_singleton_self _)
    exact ⟨.part (own _ (Or.inl rfl)), .part (own _ (Or.inr rfl))⟩

end Projection

section

variable {s : Scope} {q : Projection} {keys : List String} {t : Table} {d : Dimension}

theorem faithful_of_names {name key : String} (owners : q.owners = [t])
    (shown : q.expr = .ofTable t.name name) (counted : q.countExpr = .ofTable t.name key)
    (refersName : RefersTo keys t (.ofTable t.name name))
    (refersKey : RefersTo keys t (.ofTable t.name key))
    (physical : ∀ c ∈ pivotColumn? q, c.calculation = none) : q.Faithful keys where
  refers := by
    rw [owners]
    rintro e (rfl | rfl)
    · exact ⟨t, List.mem_singleton_self t, shown ▸ refersName⟩
    · exact ⟨t, List.mem_singleton_self t, counted ▸ refersKey⟩
  calculation := by
    intro c behind e declared
    rw [physical c behind] at declared
    cases declared

theorem physical_of_not_misnames (misnames : ¬q.Misnames) (isDimension : t.dimension? = some d)
    (owners : q.owners = [t]) {name : String} (member : name ∈ d.memberColumns)
    (written : q.Writes (.ofTable t.name name)) : t.hasPhysical name = true := by
  by_contra missing
  refine misnames ⟨t, by rw [owners]; exact List.mem_singleton_self t, name, ?_,
    Bool.eq_false_iff.mpr missing, written⟩
  rw [Table.memberColumns_of_dimension isDimension]
  exact member

theorem refersTo_keyOf (inForce : s.settings.surrogateKey ∈ keys)
    (physical : ∀ name ∈ d.naturalKey, t.hasPhysical name = true) :
    RefersTo keys t (.ofTable t.name (s.keyOf d)) := by
  rw [Scope.keyOf]
  cases natural : d.naturalKey with
  | none => exact .key inForce
  | some name => exact .physical (physical name natural)

theorem refersTo_counted (inForce : s.settings.surrogateKey ∈ keys) (misnames : ¬q.Misnames)
    (isDimension : t.dimension? = some d) (owners : q.owners = [t])
    (counted : q.countExpr = .ofTable t.name (s.keyOf d)) :
    RefersTo keys t (.ofTable t.name (s.keyOf d)) := by
  refine refersTo_keyOf inForce fun name natural => ?_
  have member : name ∈ d.memberColumns :=
    List.mem_append_right _ (Option.mem_toList.mpr natural)
  refine physical_of_not_misnames misnames isDimension owners member (Or.inr ?_)
  rw [counted, Scope.keyOf, natural, Option.getD_some]

theorem faithful_whole (inForce : s.settings.surrogateKey ∈ keys)
    (isDimension : t.dimension? = some d)
    (misnames : ¬(Projection.dimension t d.mainIdentifier (s.keyOf d)).Misnames) :
    (Projection.dimension t d.mainIdentifier (s.keyOf d)).Faithful keys := by
  have refersKey : RefersTo keys t (.ofTable t.name (s.keyOf d)) :=
    refersTo_counted inForce misnames isDimension rfl rfl
  cases main : d.mainIdentifier with
  | none =>
    refine faithful_of_names rfl rfl rfl refersKey refersKey fun c behind => ?_
    simp [pivotColumn?, isDimension] at behind
  | some name =>
    rw [main] at misnames
    have member : name ∈ d.memberColumns :=
      List.mem_append_left _ (List.mem_of_mem_head? main)
    have physical : t.hasPhysical name = true :=
      physical_of_not_misnames misnames isDimension rfl member (Or.inl rfl)
    refine faithful_of_names rfl rfl rfl (.physical physical) refersKey fun c behind => ?_
    have declared : t.column? name = some c := by
      rw [Table.column?_of_dimension isDimension]
      simpa [pivotColumn?, isDimension] using behind
    exact Table.calculation_of_physical physical declared

theorem faithful_identifier {c : Column} (inForce : s.settings.surrogateKey ∈ keys)
    (identified : Scope.identified? t c = some d) (declared : t.column? c.name = some c)
    (misnames : ¬(Projection.identifier t c (s.keyOf d)).Misnames) :
    (Projection.identifier t c (s.keyOf d)).Faithful keys := by
  obtain ⟨isDimension, -, listed⟩ := Scope.identified?_iff.mp identified
  have member : c.name ∈ d.memberColumns := List.mem_append_left _ listed
  have physical : t.hasPhysical c.name = true :=
    physical_of_not_misnames misnames isDimension rfl member (Or.inl rfl)
  have refersKey : RefersTo keys t (.ofTable t.name (s.keyOf d)) :=
    refersTo_counted inForce misnames isDimension rfl rfl
  refine faithful_of_names rfl rfl rfl (.physical physical) refersKey fun c' behind => ?_
  cases behind
  exact Table.calculation_of_physical physical declared

theorem Scope.Plain.faithful_or_misnames (plain : s.Plain q)
    (inForce : s.settings.surrogateKey ∈ keys) : q.Faithful keys ∨ q.Misnames := by
  by_cases misnames : q.Misnames
  · exact Or.inr misnames
  refine Or.inl ?_
  cases plain with
  | whole sees isDimension => exact faithful_whole inForce isDimension misnames
  | @column owner c sees declared =>
    rcases s.columnOf_cases owner c with ⟨d, identified, hp⟩ | ⟨virtual, hp⟩ | ⟨physical, hp⟩
    · rw [hp] at misnames ⊢
      exact faithful_identifier inForce identified declared misnames
    · obtain ⟨e, calculation⟩ := Option.isSome_iff_exists.mp virtual
      have shown : (Projection.calculated owner c).expr = e := by
        rw [Projection.expr, calculation, Option.getD_some]
      have counted : (Projection.calculated owner c).countExpr = e := by
        rw [Projection.countExpr, calculation, Option.getD_some]
      rw [hp]
      refine ⟨fun e' written => ?_, fun c' behind e' declaration => ?_⟩
      · have same : e' = e := by
          rcases written with rfl | rfl
          · exact shown
          · exact counted
        rw [same]
        exact ⟨owner, List.mem_singleton_self owner, .calculation declared calculation⟩
      · cases behind
        rw [shown]
        exact Option.some.inj (calculation.symm.trans declaration)
    · rw [hp]
      have there : owner.hasPhysical c.name = true := by
        rw [Table.hasPhysical, declared, Option.any_some, physical]
        rfl
      refine faithful_of_names rfl rfl rfl (.physical there) (.physical there) fun c' behind => ?_
      cases behind
      exact Table.calculation_of_physical there declared

theorem Scope.Parsed.plain_of_mem {p : Projection} (parsed : s.Parsed p)
    (member : q ∈ p.plainColumns) : s.Plain q := by
  induction parsed with
  | plain plain =>
    rw [plain.isPlain.plainColumns] at member
    obtain rfl := List.mem_singleton.mp member
    exact plain
  | cell index key plainValue plainPivot rowValue rowPivot =>
    rw [Projection.plainColumns, plainValue.isPlain.plainColumns,
      plainPivot.isPlain.plainColumns] at member
    rcases List.mem_pair.mp member with rfl | rfl
    · exact plainValue
    · exact plainPivot
  | aggregate parsed rowValue suits ih => exact ih member

end

section

variable {Part : Expr → Prop} {s : Schema} {base : Table} {fs : List Filter} {d : Draft}
  {plan : Plan}

theorem madeOf_condition {f : Filter} (made : f.column.expr.MadeOf Part) :
    f.condition.MadeOf Part := by
  unfold Filter.condition
  split
  · exact .binary .eq made (.literal _)
  · refine .isIn made fun choice listed => ?_
    obtain ⟨v, -, rfl⟩ := List.mem_map.mp listed
    exact .literal _

theorem Draft.Built.madeOf_clause (built : d.Built s base fs) (planned : d.Planned plan)
    (selected : ∀ p ∈ d.selected, p.expr.MadeOf Part ∧ p.countExpr.MadeOf Part)
    (filtered : ∀ f ∈ fs, f.column.expr.MadeOf Part)
    (ordered : ∀ term ∈ d.ordering, term.1.expr.MadeOf Part) {e : Expr}
    (clause : e ∈ plan.statement.clauseExprs) : e.MadeOf Part := by
  have onSome (keep : Filter → Bool) :
      ∀ c ∈ (fs.filter keep).map Filter.condition, c.MadeOf Part := by
    intro c member
    obtain ⟨f, hf, rfl⟩ := List.mem_map.mp member
    exact madeOf_condition (filtered f (List.mem_of_mem_filter hf))
  exact planned.clause_induct selected (built.conditions ▸ onSome _)
    (built.groupConditions ▸ onSome _) ordered (fun _ _ => .binary .and)
    (fun _ => .call _ _) clause

theorem madeOf_columnsAfter {name : String} {start : Draft} {ops : List Operation}
    (started : Draft.start s name = .ok start) (planned : (start.after ops).plan = .ok plan)
    (parts : ∀ p ∈ start.columnsAfter ops, ∀ q ∈ p.plainColumns, ∀ e, q.Writes e → Part e)
    {e : Expr} (clause : e ∈ plan.statement.clauseExprs) : e.MadeOf Part := by
  obtain ⟨base, -, built⟩ := built_after_start started ops
  have made : ∀ p ∈ start.columnsAfter ops, p.expr.MadeOf Part ∧ p.countExpr.MadeOf Part :=
    fun p member => Projection.madeOf_plainColumns (parts p member)
  obtain ⟨front, ordered⟩ := List.forall_mem_append.mp made
  obtain ⟨selected, filtered⟩ := List.forall_mem_append.mp front
  exact built.madeOf_clause (Draft.plan_ok planned) selected
    (fun f hf => (filtered f.column (List.mem_map_of_mem hf)).1)
    (fun term hterm => (ordered term.1 (List.mem_map_of_mem hterm)).1) clause

end

def Draft.keysDuring (d : Draft) (ops : List Operation) : List String :=
  (d.settingsDuring ops).map (·.surrogateKey)

/-- Whatever operations led to a plan, its clauses are put together from what shows and counts plain
columns. These are keys, physical columns and calculations as they were declared, unless a dimension
has an identifier or a natural key that is calculated or not declared. -/
theorem plan_refers {s : Schema} {name : String} {start : Draft} {ops : List Operation}
    {plan : Plan} (started : Draft.start s name = .ok start)
    (planned : (start.after ops).plan = .ok plan) :
    (∀ e ∈ plan.statement.clauseExprs, e.MadeOf fun part =>
      ∃ p ∈ start.columnsAfter ops, ∃ q ∈ p.plainColumns, q.Writes part) ∧
    (∀ p ∈ start.columnsAfter ops, ∀ q ∈ p.plainColumns,
      q.Faithful (start.keysDuring ops) ∨ q.Misnames) ∧
    ((∀ p ∈ start.columnsAfter ops, ∀ t ∈ p.owners, ∀ name ∈ t.memberColumns,
        t.hasPhysical name = true) →
      (∀ e ∈ plan.statement.clauseExprs, e.MadeOf fun part =>
        ∃ p ∈ start.columnsAfter ops, ∃ t ∈ p.owners, RefersTo (start.keysDuring ops) t part) ∧
      ∀ p ∈ start.columnsAfter ops, ∀ q ∈ p.plainColumns, ∀ c ∈ pivotColumn? q,
        ∀ e ∈ c.calculation, q.expr = e) := by
  obtain ⟨base, -, offered⟩ := offers_after_start started ops
  have faithfulOr : ∀ p ∈ start.columnsAfter ops, ∀ q ∈ p.plainColumns,
      q.Faithful (start.keysDuring ops) ∨ q.Misnames := by
    intro p hp q hq
    obtain ⟨settings, inForce, yields⟩ := offered p hp
    exact (yields.parsed.plain_of_mem hq).faithful_or_misnames (List.mem_map_of_mem inForce)
  have made : ∀ e ∈ plan.statement.clauseExprs, e.MadeOf fun part =>
      ∃ p ∈ start.columnsAfter ops, ∃ q ∈ p.plainColumns, q.Writes part :=
    fun e => madeOf_columnsAfter started planned fun p hp q hq _ written => ⟨p, hp, q, hq, written⟩
  refine ⟨made, faithfulOr, fun physical => ?_⟩
  have faithful : ∀ p ∈ start.columnsAfter ops, ∀ q ∈ p.plainColumns,
      q.Faithful (start.keysDuring ops) := by
    intro p hp q hq
    refine (faithfulOr p hp q hq).resolve_right ?_
    rintro ⟨t, owner, name, member, missing, -⟩
    have there := physical p hp t (Projection.owners_of_plainColumns hq owner) name member
    rw [missing] at there
    cases there
  refine ⟨fun e clause => (made e clause).mono ?_,
    fun p hp q hq => (faithful p hp q hq).calculation⟩
  rintro part ⟨p, hp, q, hq, written⟩
  obtain ⟨t, owner, refers⟩ := (faithful p hp q hq).refers part written
  exact ⟨p, hp, t, Projection.owners_of_plainColumns hq owner, refers⟩

def memberOperations : List Operation := [
  .call (.select ["product", "sales.share"]),
  .configure { surrogateKey := "key" },
  .call (.filter ["sales.share:1"])]

theorem plan_refers_sales :
    ∃ start plan, Draft.start Schema.sales "sales" = .ok start ∧
      (start.after memberOperations).plan = .ok plan ∧
      (start.columnsAfter memberOperations).map Projection.name =
        ["product", "sales.share", "sales.share"] ∧
      (∀ e ∈ plan.statement.clauseExprs, e.MadeOf fun part =>
        ∃ p ∈ start.columnsAfter memberOperations, ∃ t ∈ p.owners,
          RefersTo ["id", "id", "key", "key"] t part) ∧
      ∀ p ∈ start.columnsAfter memberOperations, ∀ q ∈ p.plainColumns, ∀ c ∈ pivotColumn? q,
        ∀ e ∈ c.calculation, q.expr = e := by
  obtain ⟨start, started, run, names, keys, physical⟩ : ∃ start,
      Draft.start Schema.sales "sales" = .ok start ∧
      (start.after memberOperations).plan.toOption.isSome = true ∧
      (start.columnsAfter memberOperations).map Projection.name =
        ["product", "sales.share", "sales.share"] ∧
      start.keysDuring memberOperations = ["id", "id", "key", "key"] ∧
      ∀ p ∈ start.columnsAfter memberOperations, ∀ t ∈ p.owners, ∀ name ∈ t.memberColumns,
        t.hasPhysical name = true :=
    ⟨{ schema := Schema.sales, base := .fact (Schema.sales.facts.head (by decide)) },
      rfl, by decide +kernel⟩
  cases planned : (start.after memberOperations).plan with
  | error e =>
    rw [planned] at run
    cases run
  | ok plan =>
    obtain ⟨clauses, calculations⟩ := (plan_refers started planned).2.2 physical
    rw [keys] at clauses
    exact ⟨start, plan, started, planned, names, clauses, calculations⟩

def decades : Schema where
  dimensions := [
    Dimension.define "date" [
      .column (.ofType "year" .year),
      .column ((Column.ofType "decade" .integer).calculated
        (.binary .div (.ofTable "date" "year") (.literal (.int 10)))),
      .identifier "decade", .identifiable]]

theorem decades_built : decades.Built := Schema.built_register decades.dimensions [] rfl

/-- A calculated identifier is filtered by under its name. -/
theorem not_all_references_real :
    ¬∀ s name start ops d plan, Schema.Built s → Draft.start s name = .ok start →
      Outcome.each Operation.apply ops start = ⟨d, none⟩ → d.plan = .ok plan →
      ∀ e ∈ plan.statement.clauseExprs, e.MadeOf fun part =>
        ∃ p ∈ start.columnsAfter ops, ∃ t ∈ p.owners, RefersTo (start.keysDuring ops) t part := by
  intro all
  let ops : List Operation := [.call (.select ["date.year"]), .call (.filter ["date.decade:200"])]
  let date : Table := .dimension (decades.dimensions.head (by decide))
  let start : Draft := { schema := decades, base := date }
  have run : (do
      let d ← (Outcome.each Operation.apply ops start).result
      let plan ← d.plan
      .ok plan.statement.condition : Except CompileError (Option Expr)) =
      .ok (some (.binary .eq (.ofTable "date" "decade") (.literal (.int 200)))) := by decide +kernel
  obtain ⟨d, resulted, run⟩ := bind_ok run
  obtain ⟨plan, planned, run⟩ := bind_ok run
  have success := Outcome.result_ok resulted
  have condition := Except.ok.inj run
  have clause := Sql.Statement.mem_clauseExprs.mpr (Or.inl condition)
  have owners : ∀ p ∈ start.columnsAfter ops, ∀ t ∈ p.owners, t = date := by decide +kernel
  have keys : start.keysDuring ops = ["id", "id", "id"] := by decide +kernel
  have put := all decades "date" start ops d plan decades_built rfl success planned _ clause
  obtain ⟨part, ⟨p, hp, t, ht, refers⟩, occurs⟩ :=
    put.exists_part (m := (some "date", "decade")) List.mem_cons_self
  obtain rfl := owners p hp t ht
  cases refers with
  | key key =>
    cases List.mem_singleton.mp occurs
    rw [keys] at key
    exact absurd key (by decide +kernel)
  | physical physical =>
    cases List.mem_singleton.mp occurs
    exact absurd physical (by decide +kernel)
  | calculation declared calculation =>
    have years : ∀ c ∈ date.columns, ∀ e ∈ c.calculation, (some "date", "decade") ∉ e.mentions := by
      decide +kernel
    exact years _ (Table.mem_columns declared) part calculation occurs

end StarQuery.Query
