import StarQuery.Proofs.Query.Routing

/-!
What filters, orders and limits leave alone. In a query that has a plan, the selected columns alone
decide whether it is grouped. Main statement: operations that select nothing leave what is shown and
grouped by as it is, and add to joins, conditions and order behind what is there.
-/
namespace StarQuery.Query

open Model (Schema)
open Sql (Direction Expr)

def Operation.selects : Operation → Bool
  | .call (.select _) => true
  | .call (.filter _) | .call (.order _) | .call (.limit _) | .configure _ => false

/-- The draft `d'` selects what `d` does and may ask for more beside it. -/
structure Draft.Extends (d d' : Draft) : Prop where
  base : d'.base = d.base
  selected : d'.selected = d.selected
  joins : d.joins <+: d'.joins
  conditions : d.conditions <+: d'.conditions
  groupConditions : d.groupConditions <+: d'.groupConditions
  ordering : d.ordering <+: d'.ordering

/-- The plan `q` shows what `p` does, in the same groups, with more joins, conditions and order
terms behind those of `p`. -/
structure Plan.Extends (p q : Plan) : Prop where
  columns : q.columns = p.columns
  source : q.statement.source = p.statement.source
  items : q.statement.items = p.statement.items
  groupBy : q.statement.groupBy = p.statement.groupBy
  joins : p.statement.joins <+: q.statement.joins
  condition : conjunctsOf p.statement.condition <+: conjunctsOf q.statement.condition
  having : conjunctsOf p.statement.having <+: conjunctsOf q.statement.having
  orderBy : p.statement.orderBy <+: q.statement.orderBy

namespace Draft.Extends

variable {d d' : Draft}

theorem refl (d : Draft) : d.Extends d :=
  ⟨rfl, rfl, List.prefix_rfl, List.prefix_rfl, List.prefix_rfl, List.prefix_rfl⟩

theorem joinOwners (p : Projection) (ext : d.Extends d') :
    d.Extends (d'.joinOwners p).draft := by
  refine Outcome.each_keeps (fun owner x ext => ?_) p.owners ext
  unfold joinOwner
  split
  · exact ext
  · split
    · exact { ext with joins := ext.joins.trans (List.prefix_append _ _) }
    · exact ext

theorem addFilter (f : Filter) (ext : d.Extends d') : d.Extends (d'.addFilter f).draft := by
  refine Outcome.andThen_keeps (ext.joinOwners f.column) fun x ext => ?_
  split
  · exact { ext with groupConditions := ext.groupConditions.trans (List.prefix_append _ _) }
  · exact { ext with conditions := ext.conditions.trans (List.prefix_append _ _) }

theorem orderColumn (direction : Direction) (p : Projection) (ext : d.Extends d') :
    d.Extends (d'.orderColumn direction p).draft := by
  refine Outcome.andThen_keeps (ext.joinOwners p) fun x ext => ?_
  exact { ext with ordering := ext.ordering.trans (List.prefix_append _ _) }

theorem filterOne (predicate : String) (ext : d.Extends d') :
    d.Extends (Draft.filterOne predicate d').draft := by
  unfold Draft.filterOne
  split
  · next f _ => exact ext.addFilter f
  · exact ext

theorem orderOne (reference : String) (ext : d.Extends d') :
    d.Extends (Draft.orderOne reference d').draft := by
  simp only [Draft.orderOne]
  split
  · next columns _ => exact Outcome.each_keeps (fun p x ext => ext.orderColumn _ p) columns ext
  · exact ext

theorem apply {op : Operation} (frame : op.selects = false) (ext : d.Extends d') :
    d.Extends (op.apply d').draft := by
  cases op with
  | configure settings => exact { ext with }
  | call c =>
    cases c with
    | select references => cases frame
    | filter predicates =>
      exact Outcome.each_keeps (fun predicate x ext => ext.filterOne predicate) predicates ext
    | order references =>
      exact Outcome.each_keeps (fun reference x ext => ext.orderOne reference) references ext
    | limit rows => exact { ext with }

theorem after {ops : List Operation} (frame : ∀ op ∈ ops, op.selects = false)
    (ext : d.Extends d') : d.Extends (d'.after ops) := by
  induction ops generalizing d' with
  | nil => exact ext
  | cons op rest ih =>
    obtain ⟨first, others⟩ := List.forall_mem_cons.mp frame
    exact ih others (ext.apply first)

end Draft.Extends

theorem conjunctsOf_conjunction (es : List Expr) :
    conjunctsOf (conjunction es) = es.flatMap Expr.conjuncts := by
  cases joined : conjunction es with
  | none =>
    cases es with
    | nil => rfl
    | cons e es => cases joined
  | some all => exact conjuncts_conjunction joined

theorem conjunctsOf_prefix {es es' : List Expr} (more : es <+: es') :
    conjunctsOf (conjunction es) <+: conjunctsOf (conjunction es') := by
  obtain ⟨rest, rfl⟩ := more
  rw [conjunctsOf_conjunction, conjunctsOf_conjunction, List.flatMap_append]
  exact List.prefix_append _ _

theorem prefix_of_forall₂ {α β : Type} {r : α → β → Prop}
    (functional : ∀ a b b', r a b → r a b' → b = b') {as as' : List α} {bs bs' : List β}
    (first : List.Forall₂ r as bs) (second : List.Forall₂ r as' bs') (more : as <+: as') :
    bs <+: bs' := by
  induction first generalizing as' bs' with
  | nil => exact List.nil_prefix
  | @cons a b as bs ab _ ih =>
    obtain ⟨rest, rfl⟩ := more
    obtain ⟨b', bs', ab', others, rfl⟩ := List.forall₂_cons_left_iff.mp second
    rw [functional a b b' ab ab', List.prefix_cons_inj]
    exact ih others (List.prefix_append as rest)

namespace Draft

variable {d d' : Draft} {p q : Plan}

/-- Where there is a plan, a query is grouped exactly if a selected column asks for it: conditions
on groups and an order by aggregates are refused beside columns that have no place in groups. -/
theorem Planned.isGrouped_eq (planned : d.Planned p) :
    d.isGrouped = d.selected.any fun p => p.groupExpr?.isSome || p.isAggregate := by
  rw [Bool.eq_iff_iff, List.any_eq_true]
  constructor
  · intro grouped
    obtain ⟨p, member⟩ := List.exists_mem_of_ne_nil _ planned.selected
    exact ⟨p, member, Bool.or_eq_true_iff.mpr (planned.placed grouped p member)⟩
  · rintro ⟨p, member, placed⟩
    exact isGrouped_of_selected member (Bool.or_eq_true_iff.mp placed)

theorem Extends.plan (ext : d.Extends d') (planned : d.Planned p) (planned' : d'.Planned q) :
    p.Extends q := by
  have grouped : d'.isGrouped = d.isGrouped := by
    rw [planned.isGrouped_eq, planned'.isGrouped_eq, ext.selected]
  have kept : d'.keptColumns = d.keptColumns := by
    rw [keptColumns, keptColumns, grouped, groupedColumns, groupedColumns, ext.selected]
  have items : q.statement.items = p.statement.items := by
    rw [planned.items, planned'.items, grouped, kept, ext.selected]
  have ordered := planned'.orderBy
  rw [grouped, items] at ordered
  exact {
    columns := by rw [planned.columns, planned'.columns, ext.selected]
    source := by rw [planned.source, planned'.source, ext.base]
    items
    groupBy := by rw [planned.groupBy, planned'.groupBy, kept]
    joins := by
      rw [planned.joins, planned'.joins]
      exact ext.joins
    condition := by
      rw [planned.condition, planned'.condition]
      exact conjunctsOf_prefix ext.conditions
    having := by
      rw [planned.having, planned'.having]
      exact conjunctsOf_prefix ext.groupConditions
    orderBy := prefix_of_forall₂
      (fun _ _ _ placed placed' => Except.ok.inj (placed.symm.trans placed'))
      planned.orderBy ordered ext.ordering }

end Draft

/-- Whatever draft has a plan, operations that select nothing, failing ones among them, give a plan
that extends it, if they give one. -/
theorem plan_extends {d : Draft} {ops : List Operation} {p q : Plan}
    (frame : ∀ op ∈ ops, op.selects = false) (planned : d.plan = .ok p)
    (planned' : (d.after ops).plan = .ok q) :
    p.Extends q ∧
      ∀ d', Outcome.each Operation.apply ops d = ⟨d', none⟩ → d.after ops = d' := by
  have ext : d.Extends (d.after ops) := (Draft.Extends.refl d).after frame
  exact ⟨ext.plan (Draft.plan_ok planned) (Draft.plan_ok planned'),
    fun d' success => (filtersAfter_of_ok success).1⟩

def shownOperations : List Operation :=
  [.call (.select ["product.sku", "product", "sales.share"]), .call (.order ["product"])]

def furtherOperations : List Operation :=
  [.call (.filter ["product.maker:acme", "sum.sales.total:7"]), .call (.limit 9),
    .call (.filter ["sales.total"]), .call (.order ["-avg.sales.total"])]

theorem plan_extends_sales :
    (∀ op ∈ furtherOperations, op.selects = false) ∧
      ∃ start p q, Draft.start Schema.sales "sales" = .ok start ∧
        (start.after shownOperations).plan = .ok p ∧
        ((start.after shownOperations).after furtherOperations).plan = .ok q ∧
        (p.statement.orderBy.length, q.statement.orderBy.length) = (1, 2) ∧ p.Extends q := by
  have frame : ∀ op ∈ furtherOperations, op.selects = false := by
    simp [furtherOperations, Operation.selects]
  let start : Draft :=
    { schema := Schema.sales, base := .fact (Schema.sales.facts.head (by decide)) }
  have run : (start.after shownOperations).plan.map (·.statement.orderBy.length) = .ok 1 := by
    decide +kernel
  have run' : ((start.after shownOperations).after furtherOperations).plan.map
      (·.statement.orderBy.length) = .ok 2 := by decide +kernel
  obtain ⟨p, planned, terms⟩ := map_ok run
  obtain ⟨q, planned', terms'⟩ := map_ok run'
  exact ⟨frame, start, p, q, rfl, planned, planned', by rw [terms, terms'],
    (plan_extends frame planned planned').1⟩

end StarQuery.Query
