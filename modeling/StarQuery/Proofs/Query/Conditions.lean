import StarQuery.Proofs.Query.History
import StarQuery.Proofs.Query.Planned
import StarQuery.Proofs.Sql.Rendering

/-!
Filters mean what they say. Main statement: the conditions of a query read in SQL as the conjunction
of what its filters ask for, in order, exactly when the column of each filter is legible and binds
tightly enough for the place that the condition has for it; so they do if no calculation is itself a
connective, a comparison or a membership.
-/
namespace StarQuery.Sql

/-- In SQL comparisons do not follow one another; all other operators group from the left. -/
def sqlChains (op : Operator) : Bool := op.level != Operator.eq.level

namespace Expr

theorem isLegible_ofValue (chains : Operator → Bool) (v : Value) :
    (ofValue v).isLegible chains = true := rfl

theorem fits_right_of_and (e : Expr) :
    e.fits (Operator.and.level + 1) (Operator.and.level + 1) = true := by
  cases e with
  | binary op left right => cases op <;> rfl
  | isIn subject choices => cases choices <;> rfl
  | _ => rfl

theorem isLegible_and {a b : Expr} :
    (binary .and a b).isLegible sqlChains = true ↔
      a.isLegible sqlChains = true ∧ b.isLegible sqlChains = true := by
  have left : a.fits Operator.and.level (Operator.and.leftLevel sqlChains) = true := by
    have stands : a.standsAt (Operator.and.leftLevel sqlChains) = true := a.standsAt_loosest
    rw [fits, stands, Bool.or_true]
  rw [isLegible, left, b.fits_right_of_and, Bool.true_and, Bool.true_and, Bool.and_eq_true]

end Expr

end StarQuery.Sql

namespace StarQuery.Query

open Model (Column Dimension Fact Schema Table)
open Sql

/-- What a filter says: its column as a whole equals the value, or is among the values. Memberships
in empty lists, which a calculation may have, are FALSE. -/
def Filter.meaning (f : Filter) : Expr :=
  match f.values with
  | [value] => .binary .eq f.column.expr.settled (.ofValue value)
  | values => .isIn f.column.expr.settled (values.map .ofValue)

def Filter.standsClear (f : Filter) : Bool :=
  match f.values with
  | [_] => f.column.expr.fits Operator.eq.level (Operator.eq.level + 1)
  | _ => f.column.expr.standsAt (Operator.eq.level + 1)

/-- The clause is left out if nothing is meant. Else what stands behind its keyword reads in SQL as
the conjunction of what is meant, and as nothing else. -/
structure ClauseMeans (k : Keyword) (condition : Option Expr) (meanings : List Expr) : Prop where
  absent : meanings = [] → solid (Statement.conditionClause k condition) = []
  reads : ∀ all, conjunction meanings = some all →
    ∃ body, solid (Statement.conditionClause k condition) = .keyword k :: body ∧
      ∀ e, Reads sqlChains loosest body e ↔ e = all

theorem conjunction_map_settled (es : List Expr) :
    conjunction (es.map Expr.settled) = (conjunction es).map Expr.settled := by
  induction es using List.reverseRecOn with
  | nil => rfl
  | append_singleton front last ih =>
    cases front with
    | nil => rfl
    | cons e es =>
      rw [conjunction_concat, List.map_append, List.map_cons, List.map_singleton,
        conjunction_concat, ← List.map_cons, ih, Option.map_map, Option.map_map]
      rfl

theorem isLegible_conjunction {es : List Expr} {all : Expr} (joined : conjunction es = some all) :
    all.isLegible sqlChains = true ↔ ∀ e ∈ es, e.isLegible sqlChains = true := by
  induction joined using conjunction_induct with
  | single e => simp
  | more es all last _ _ ih =>
    rw [Expr.isLegible_and, ih, List.forall_mem_append, List.forall_mem_singleton]

theorem solid_conditionClause (k : Keyword) (e : Expr) :
    solid (Statement.conditionClause k (some e)) = .keyword k :: solid e.tokens := by
  simp [Statement.conditionClause, Statement.clause, solid_cons, Token.isBlank]

theorem clauseMeans_settled_iff (k : Keyword) (es : List Expr) :
    ClauseMeans k (conjunction es) (es.map Expr.settled) ↔
      ∀ e ∈ es, e.isLegible sqlChains = true := by
  cases joined : conjunction es with
  | none =>
    cases es with
    | nil =>
      have left : ClauseMeans k none [] :=
        { absent := fun _ => rfl, reads := by simp [conjunction] }
      simpa using left
    | cons e es => cases joined
  | some all =>
    have meant : conjunction (es.map Expr.settled) = some all.settled := by
      rw [conjunction_map_settled, joined, Option.map_some]
    rw [← isLegible_conjunction joined, ← Expr.read_back_iff]
    constructor
    · intro means
      obtain ⟨body, written, reads⟩ := means.reads all.settled meant
      rw [solid_conditionClause, List.cons.injEq] at written
      rw [written.2]
      exact reads
    · intro reads
      refine ⟨fun none => ?_, fun all' joined' => ?_⟩
      · rw [none] at meant
        cases meant
      · obtain rfl := Option.some.inj (meant.symm.trans joined')
        exact ⟨_, solid_conditionClause k all, reads⟩

namespace Filter

theorem settled_condition {f : Filter} (values : f.values ≠ []) :
    f.condition.settled = f.meaning := by
  obtain ⟨p, vs⟩ := f
  cases vs with
  | nil => exact absurd rfl values
  | cons v vs =>
    cases vs with
    | nil => rfl
    | cons w vs =>
      change (Expr.isIn p.expr (.ofValue v :: (w :: vs).map .ofValue)).settled = _
      rw [Expr.settled, Expr.allSettled_eq_map, ← List.map_cons, List.map_map]
      rfl

theorem isLegible_condition (f : Filter) (values : f.values ≠ []) :
    f.condition.isLegible sqlChains = true ↔
      f.column.expr.isLegible sqlChains = true ∧ f.standsClear = true := by
  obtain ⟨p, vs⟩ := f
  cases vs with
  | nil => exact absurd rfl values
  | cons v vs =>
    cases vs with
    | nil =>
      change (Expr.binary .eq p.expr (.ofValue v)).isLegible sqlChains = true ↔
        p.expr.isLegible sqlChains = true ∧
          p.expr.fits Operator.eq.level (Operator.eq.level + 1) = true
      have right : (Expr.ofValue v).fits (Operator.eq.level + 1) (Operator.eq.level + 1) = true :=
        rfl
      have leftLevel : Operator.eq.leftLevel sqlChains = Operator.eq.level + 1 := rfl
      rw [Expr.isLegible, leftLevel, right, Expr.isLegible_ofValue, Bool.and_true, Bool.and_true,
        Bool.and_eq_true, and_comm]
    | cons w vs =>
      change (Expr.isIn p.expr (.ofValue v :: (w :: vs).map .ofValue)).isLegible sqlChains = true ↔
        p.expr.isLegible sqlChains = true ∧ p.expr.standsAt (Operator.eq.level + 1) = true
      have literals : Expr.allLegible sqlChains (.ofValue v :: (w :: vs).map .ofValue) = true := by
        rw [← List.map_cons, Expr.allLegible_iff]
        intro e member
        obtain ⟨value, -, rfl⟩ := List.mem_map.mp member
        exact Expr.isLegible_ofValue sqlChains value
      rw [Expr.isLegible, literals, Bool.and_true, Bool.and_eq_true, and_comm]

end Filter

theorem clauseMeans_iff (k : Keyword) (fs : List Filter) (values : ∀ f ∈ fs, f.values ≠ []) :
    ClauseMeans k (conjunction (fs.map Filter.condition)) (fs.map Filter.meaning) ↔
      ∀ f ∈ fs, f.column.expr.isLegible sqlChains = true ∧ f.standsClear = true := by
  have meanings : fs.map Filter.meaning = (fs.map Filter.condition).map Expr.settled := by
    rw [List.map_map]
    apply List.map_congr_left
    intro f member
    exact (Filter.settled_condition (values f member)).symm
  rw [meanings, clauseMeans_settled_iff, List.forall_mem_map]
  apply forall₂_congr
  intro f member
  exact f.isLegible_condition (values f member)

structure Plan.Means (fs : List Filter) (plan : Plan) : Prop where
  rows : ClauseMeans .filter plan.statement.condition
    ((fs.filter fun f => !f.column.isAggregate).map Filter.meaning)
  groups : ClauseMeans .having plan.statement.having
    ((fs.filter fun f => f.column.isAggregate).map Filter.meaning)

theorem Draft.Built.means_iff {s : Schema} {base : Table} {fs : List Filter} {d : Draft}
    {plan : Plan} (built : d.Built s base fs) (planned : d.plan = .ok plan) :
    plan.Means fs ↔
      ∀ f ∈ fs, f.column.expr.isLegible sqlChains = true ∧ f.standsClear = true := by
  have assembled := plan_ok planned
  have values : ∀ f ∈ fs, f.values ≠ [] := fun f member => (built.readable f member).values
  have rows := clauseMeans_iff .filter (fs.filter fun f => !f.column.isAggregate)
    fun f member => values f (List.mem_of_mem_filter member)
  have groups := clauseMeans_iff .having (fs.filter fun f => f.column.isAggregate)
    fun f member => values f (List.mem_of_mem_filter member)
  rw [← built.conditions, ← assembled.condition] at rows
  rw [← built.groupConditions, ← assembled.having] at groups
  constructor
  · intro means f member
    cases aggregate : f.column.isAggregate with
    | true => exact groups.mp means.groups f (by simp [member, aggregate])
    | false => exact rows.mp means.rows f (by simp [member, aggregate])
  · intro clear
    exact {
      rows := rows.mpr fun f member => clear f (List.mem_of_mem_filter member)
      groups := groups.mpr fun f member => clear f (List.mem_of_mem_filter member) }

def bindsTightly (e : Expr) : Bool :=
  e.isLegible sqlChains && e.standsAt (Operator.eq.level + 1)

/-- No calculation is a connective, a comparison or a membership, and all are legible. -/
def CalculationsTight (s : Schema) : Prop := ∀ c ∈ s.columns, ∀ e ∈ c.calculation, bindsTightly e

theorem fits_of_bindsTightly {e : Expr} (tight : bindsTightly e) (bare : Nat) :
    e.fits bare (Operator.eq.level + 1) = true := by
  rw [Expr.fits, (Bool.and_eq_true_iff.mp tight).2, Bool.or_true]

theorem bindsTightly_call (name : String) (distinct : Bool) {e : Expr} (tight : bindsTightly e) :
    bindsTightly (.call name distinct e) := by
  rw [bindsTightly, Expr.isLegible, (Bool.and_eq_true_iff.mp tight).1]
  rfl

theorem bindsTightly_cellExpr {pivot result : Expr} (key : Value) (tightPivot : bindsTightly pivot)
    (tightResult : bindsTightly result) : bindsTightly (Projection.cellExpr pivot key result) := by
  have leftLevel : Operator.eq.leftLevel sqlChains = Operator.eq.level + 1 := rfl
  have right : (Expr.ofValue key).fits (Operator.eq.level + 1) (Operator.eq.level + 1) = true := rfl
  have condition : (pivot.equals (.ofValue key)).isLegible sqlChains = true := by
    rw [Expr.equals, Expr.isLegible, leftLevel, fits_of_bindsTightly tightPivot, right,
      (Bool.and_eq_true_iff.mp tightPivot).1]
    rfl
  rw [bindsTightly, Projection.cellExpr, Expr.isLegible, condition,
    (Bool.and_eq_true_iff.mp tightResult).1]
  rfl

theorem Filter.Readable.clear {s : Schema} {base : Table} {f : Filter} (tight : CalculationsTight s)
    (held : s.Holds base) (readable : f.Readable s base) :
    f.column.expr.isLegible sqlChains = true ∧ f.standsClear = true := by
  obtain ⟨settings, yields⟩ := readable.offers
  have binds : bindsTightly f.column.expr :=
    (yields.parsed.expr_induct (P := fun e => bindsTightly e) rfl held (fun _ _ => rfl) tight
      (fun _ key _ => bindsTightly_cellExpr key)
      (fun name distinct _ _ => bindsTightly_call name distinct)).1
  refine ⟨(Bool.and_eq_true_iff.mp binds).1, ?_⟩
  unfold standsClear
  split
  · exact fits_of_bindsTightly binds Operator.eq.level
  · exact (Bool.and_eq_true_iff.mp binds).2

/-- Whatever was done to a query before, its conditions mean the filters that it has admitted
exactly when the column of each is legible and stands clear. -/
theorem filters_mean_iff {s : Schema} {name : String} {start : Draft} {ops : List Operation}
    {plan : Plan} (started : Draft.start s name = .ok start)
    (planned : (start.after ops).plan = .ok plan) :
    (∀ f ∈ start.filtersAfter ops, f.values ≠ []) ∧
      (plan.Means (start.filtersAfter ops) ↔
        ∀ f ∈ start.filtersAfter ops,
          f.column.expr.isLegible sqlChains = true ∧ f.standsClear = true) := by
  obtain ⟨base, -, built⟩ := built_after_start started ops
  exact ⟨fun f member => (built.readable f member).values, built.means_iff planned⟩

theorem filters_mean_of_tight {s : Schema} {name : String} {start : Draft} {ops : List Operation}
    {plan : Plan} (tight : CalculationsTight s) (started : Draft.start s name = .ok start)
    (planned : (start.after ops).plan = .ok plan) : plan.Means (start.filtersAfter ops) := by
  obtain ⟨base, found, built⟩ := built_after_start started ops
  have held : s.Holds base := Schema.holds_of_table? found
  exact (built.means_iff planned).mpr fun f member => (built.readable f member).clear tight held

end StarQuery.Query

namespace StarQuery.Model

def Schema.orders : Schema :=
  let column (name : String) : Sql.Expr := .ofTable "orders" name
  let fact := Fact.define "orders" [
    .degenerate (.ofType "paid" .boolean), .degenerate (.ofType "sent" .boolean),
    .measure (.ofType "total" .money),
    .measure ((Column.ofType "done" .boolean).calculated
      (.binary .and (column "paid") (column "sent"))),
    .measure ((Column.ofType "net" .float).calculated
      (.binary .sub (column "total") (.literal (.int 1))))]
  { facts := [fact] }

end StarQuery.Model

namespace StarQuery.Query

open Model (Column Dimension Fact Schema Table)
open Sql

def orderOperations : List Operation :=
  [.call (.select ["orders.paid"]),
    .call (.filter ["orders.done:true", "orders.net:1,2", "orders.none:1", "orders.sent:true"]),
    .configure { surrogateKey := "key" }, .call (.filter ["sum.orders.total:5"])]

theorem filters_mean_iff_orders :
    ∃ start plan, Draft.start Schema.orders "orders" = .ok start ∧
      (start.after orderOperations).plan = .ok plan ∧
      (start.filtersAfter orderOperations).map (·.column.name) =
        ["orders.done", "orders.net", "orders.total.sum"] ∧
      plan.Means (start.filtersAfter orderOperations) := by
  obtain ⟨start, started, run, columns, clear⟩ : ∃ start,
      Draft.start Schema.orders "orders" = .ok start ∧
      (start.after orderOperations).plan.toOption.isSome = true ∧
      (start.filtersAfter orderOperations).map (·.column.name) =
        ["orders.done", "orders.net", "orders.total.sum"] ∧
      ∀ f ∈ start.filtersAfter orderOperations,
        f.column.expr.isLegible sqlChains = true ∧ f.standsClear = true :=
    ⟨{ schema := Schema.orders, base := .fact (Schema.orders.facts.head (by decide)) },
      rfl, by decide +kernel⟩
  cases planned : (start.after orderOperations).plan with
  | error e =>
    rw [planned] at run
    cases run
  | ok plan =>
    have means := (filters_mean_iff started planned).2.mpr clear
    exact ⟨start, plan, started, planned, columns, means⟩

def eitherDone : Expr :=
  .isIn (.binary .and (.ofTable "orders" "paid") (.ofTable "orders" "sent"))
    [.ofValue (.bool true), .ofValue (.bool false)]

def paidAndEitherSent : Expr :=
  .binary .and (.ofTable "orders" "paid")
    (.isIn (.ofTable "orders" "sent") [.ofValue (.bool true), .ofValue (.bool false)])

def doneOperations : List Operation :=
  [.call (.select ["orders.paid"]), .call (.filter ["orders.done:t,f"])]

/-- Membership of a conjunction is written as that of its second part: what is to be `eitherDone`
reads as `paidAndEitherSent`. -/
theorem not_all_filters_mean :
    ¬ ∀ s name start ops plan, Draft.start s name = .ok start →
      (start.after ops).plan = .ok plan → plan.Means (start.filtersAfter ops) := by
  intro all
  obtain ⟨start, started, run, filters⟩ : ∃ start,
      Draft.start Schema.orders "orders" = .ok start ∧
      ((start.after doneOperations).plan).map (fun plan => plan.statement.condition) =
        .ok (some eitherDone) ∧
      ((start.filtersAfter doneOperations).filter fun f => !f.column.isAggregate).map
        Filter.meaning = [eitherDone] :=
    ⟨{ schema := Schema.orders, base := .fact (Schema.orders.facts.head (by decide)) },
      rfl, by decide +kernel⟩
  obtain ⟨plan, planned, condition⟩ := map_ok run
  have means := (all Schema.orders "orders" start doneOperations plan started planned).rows
  rw [filters, condition] at means
  obtain ⟨body, written, reads⟩ := means.reads eitherDone rfl
  rw [solid_conditionClause, List.cons.injEq] at written
  have sameTokens : solid paidAndEitherSent.tokens = solid eitherDone.tokens := by decide +kernel
  have parted : Reads sqlChains loosest body paidAndEitherSent := by
    rw [← written.2, ← sameTokens]
    exact paidAndEitherSent.reads_tokens (by decide +kernel) paidAndEitherSent.standsAt_loosest
  exact absurd ((reads paidAndEitherSent).mp parted) (by decide +kernel)

end StarQuery.Query
