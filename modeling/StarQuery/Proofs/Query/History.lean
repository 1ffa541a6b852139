import StarQuery.Proofs.Query.Denotation
import StarQuery.Proofs.Query.Record

/-!
Drafts after any operations. A caller may go on after a call that failed, and may change the
settings between calls. Main statement: whatever operations led to a draft, its columns are such as
references denote on its base, its joins are on pairs of columns, and its conditions are those of
the filters that were admitted, in order.
-/
namespace StarQuery.Query

open Model (Schema Table)
open Settings (CompilerSettings)
open Sql (Expr Join)

inductive Operation where
  | call (c : Call)
  | configure (settings : CompilerSettings)

def Operation.apply : Operation → Draft → Outcome
  | .call c, d => c.apply d
  | .configure settings, d => ⟨d.withSettings settings, none⟩

namespace Draft

def after (d : Draft) : List Operation → Draft
  | [] => d
  | op :: rest => (op.apply d).draft.after rest

def admitted : List String → Draft → List Filter
  | [], _ => []
  | predicate :: rest, d =>
    match d.scope.readFilter predicate with
    | .error _ => []
    | .ok f =>
      match (d.addFilter f).error? with
      | some _ => []
      | none => f :: admitted rest (d.addFilter f).draft

end Draft

def Operation.admitted : Operation → Draft → List Filter
  | .call (.filter predicates), d => d.admitted predicates
  | .call (.select _), _ | .call (.order _), _ | .call (.limit _), _ | .configure _, _ => []

def Draft.filtersAfter (d : Draft) : List Operation → List Filter
  | [] => []
  | op :: rest => op.admitted d ++ (op.apply d).draft.filtersAfter rest

/-- The filters that operations ask for, read under the settings that are in force. -/
def filtersAsked (scope : Scope) : List Operation → Except CompileError (List Filter)
  | [] => .ok []
  | .configure settings :: rest => filtersAsked { scope with settings } rest
  | .call (.filter predicates) :: rest => do
    let filters ← predicates.mapM scope.readFilter
    let others ← filtersAsked scope rest
    .ok (filters ++ others)
  | .call _ :: rest => filtersAsked scope rest

def Offers (s : Schema) (base : Table) (p : Projection) : Prop :=
  ∃ settings, (scopeOf s base settings).Yields p

/-- The filter is one that can be read on the base: it has values, and its column is offered. -/
structure Filter.Readable (s : Schema) (base : Table) (f : Filter) : Prop where
  offers : Offers s base f.column
  values : f.values ≠ []

/-- The draft holds what references on the base denote and what the filters ask for. -/
structure Draft.Built (s : Schema) (base : Table) (filters : List Filter) (d : Draft) : Prop where
  sameSchema : d.schema = s
  sameBase : d.base = base
  selected : ∀ p ∈ d.selected, Offers s base p
  ordering : ∀ term ∈ d.ordering, Offers s base term.1
  readable : ∀ f ∈ filters, f.Readable s base
  conditions :
    d.conditions = (filters.filter fun f => !f.column.isAggregate).map Filter.condition
  groupConditions :
    d.groupConditions = (filters.filter fun f => f.column.isAggregate).map Filter.condition
  joins : ∀ join ∈ d.joins, ∃ t x u y, join.on = (Expr.ofTable t x).equals (.ofTable u y)

theorem readFilter_values {scope : Scope} {predicate : String} {f : Filter}
    (read : scope.readFilter predicate = .ok f) : f.values ≠ [] := by
  obtain ⟨_, raw, -, -, readEach⟩ := Scope.readFilter_parts read
  have sameLength := readEach.length_eq
  have pieces := Text.splitChars_ne_nil ',' raw.toList
  intro none
  rw [none, List.length_map, Text.split, List.length_map, List.length_nil] at sameLength
  exact pieces (List.eq_nil_of_length_eq_zero sameLength)

theorem Draft.filter_ok {predicates : List String} {d d' : Draft}
    (success : d.filter predicates = ⟨d', none⟩) :
    predicates.mapM d.scope.readFilter = .ok (d.admitted predicates) := by
  rw [mapM_eq_ok_iff]
  unfold Draft.filter at success
  induction predicates generalizing d with
  | nil => exact List.Forall₂.nil
  | cons predicate rest ih =>
    obtain ⟨between, first, more⟩ := Outcome.andThen_ok success
    unfold filterOne at first
    split at first
    · next f read =>
      have sameScope : between.scope = d.scope := by
        rw [← Use.apply_scope (.filter f) d, Use.apply, first]
      have tail := ih more
      rw [sameScope] at tail
      rw [admitted, read]
      dsimp only
      rw [first]
      exact List.Forall₂.cons read tail
    · cases first

theorem Call.apply_scope {c : Call} {d d' : Draft} (success : c.apply d = ⟨d', none⟩) :
    d'.scope = d.scope :=
  scope_of_uses (Call.apply_ok success)

theorem filtersAfter_of_ok {ops : List Operation} {d d' : Draft}
    (success : Outcome.each Operation.apply ops d = ⟨d', none⟩) :
    d.after ops = d' ∧ filtersAsked d.scope ops = .ok (d.filtersAfter ops) := by
  -- The scope in which predicates are read is that of the draft: only settings change it.
  induction ops generalizing d with
  | nil => exact ⟨congrArg Outcome.draft success, rfl⟩
  | cons op rest ih =>
    obtain ⟨between, first, more⟩ := Outcome.andThen_ok success
    obtain ⟨last, asked⟩ := ih more
    rw [Draft.after, first, Draft.filtersAfter, first]
    refine ⟨last, ?_⟩
    cases op with
    | configure settings =>
      obtain rfl := congrArg Outcome.draft first
      exact asked
    | call c =>
      rw [Call.apply_scope first] at asked
      cases c with
      | filter predicates =>
        rw [filtersAsked, asked, Draft.filter_ok first]
        rfl
      | select references => exact asked
      | order references => exact asked
      | limit rows => exact asked

theorem Outcome.each_keeps_mem {α : Type} {P : Draft → Prop} {step : α → Draft → Outcome}
    {as : List α} (stepKeeps : ∀ a ∈ as, ∀ d, P d → P (step a d).draft) {d : Draft} (start : P d) :
    P (each step as d).draft := by
  induction as generalizing d with
  | nil => exact start
  | cons a as ih =>
    apply andThen_keeps (stepKeeps a List.mem_cons_self d start)
    intro between kept
    exact ih (fun b hb => stepKeeps b (List.mem_cons_of_mem a hb)) kept

namespace Draft.Built

variable {s : Schema} {base : Table} {filters : List Filter} {d : Draft} {p : Projection}

theorem scope (built : d.Built s base filters) : d.scope = scopeOf s base d.settings := by
  rw [Draft.scope, scopeOf, built.sameSchema, built.sameBase]

theorem offers (built : d.Built s base filters) (yields : d.scope.Yields p) : Offers s base p :=
  ⟨d.settings, built.scope ▸ yields⟩

theorem joinOwner (t : Table) (built : d.Built s base filters) :
    (Draft.joinOwner t d).draft.Built s base filters := by
  unfold Draft.joinOwner
  split
  · exact built
  · split
    · next join joined =>
      obtain ⟨f, role, -, -, rfl⟩ := joinOf_ok joined
      refine { built with joins := ?_ }
      intro join member
      rcases List.mem_append.mp member with old | new
      · exact built.joins join old
      · obtain rfl := List.mem_singleton.mp new
        exact ⟨_, _, _, _, rfl⟩
    · exact built

theorem joinOwners (p : Projection) (built : d.Built s base filters) :
    (d.joinOwners p).draft.Built s base filters :=
  Outcome.each_keeps (fun t _ kept => kept.joinOwner t) p.owners built

theorem selectColumn (offers : Offers s base p) (built : d.Built s base filters) :
    (d.selectColumn p).draft.Built s base filters := by
  unfold Draft.selectColumn
  split
  · exact built
  · apply Outcome.andThen_keeps (built.joinOwners p)
    intro joined kept
    refine { kept with selected := ?_ }
    intro q member
    rcases List.mem_append.mp member with old | new
    · exact kept.selected q old
    · obtain rfl := List.mem_singleton.mp new
      exact offers

theorem orderColumn (direction : Sql.Direction) (offers : Offers s base p)
    (built : d.Built s base filters) : (d.orderColumn direction p).draft.Built s base filters := by
  apply Outcome.andThen_keeps (built.joinOwners p)
  intro joined kept
  refine { kept with ordering := ?_ }
  intro term member
  rcases List.mem_append.mp member with old | new
  · exact kept.ordering term old
  · obtain rfl := List.mem_singleton.mp new
    exact offers

theorem selectOne (reference : String) (built : d.Built s base filters) :
    (Draft.selectOne reference d).draft.Built s base filters := by
  unfold Draft.selectOne
  split
  · next columns parsed =>
    apply Outcome.each_keeps_mem _ built
    intro p member between kept
    exact kept.selectColumn (built.offers ⟨reference, columns, parsed, member⟩)
  · exact built

theorem orderOne (reference : String) (built : d.Built s base filters) :
    (Draft.orderOne reference d).draft.Built s base filters := by
  simp only [Draft.orderOne]
  split
  · next columns parsed =>
    apply Outcome.each_keeps_mem _ built
    intro p member between kept
    exact kept.orderColumn _ (built.offers ⟨_, columns, parsed, member⟩)
  · exact built

theorem addFilter_of_ok {f : Filter} (readable : f.Readable s base)
    (built : d.Built s base filters) (success : (d.addFilter f).error? = none) :
    (d.addFilter f).draft.Built s base (filters ++ [f]) := by
  have kept := built.joinOwners f.column
  have readableAll : ∀ g ∈ filters ++ [f], g.Readable s base := by
    intro g member
    rcases List.mem_append.mp member with old | new
    · exact built.readable g old
    · obtain rfl := List.mem_singleton.mp new
      exact readable
  have rows := kept.conditions
  have groups := kept.groupConditions
  cases joined : (d.joinOwners f.column).error? with
  | some e => simp [Draft.addFilter, Outcome.andThen, joined] at success
  | none =>
    cases aggregate : f.column.isAggregate with
    | true =>
      simp only [Draft.addFilter, Outcome.andThen, joined, aggregate, if_true]
      exact {
        kept with
        readable := readableAll
        conditions := by simpa [aggregate] using rows
        groupConditions := by simp [aggregate, groups] }
    | false =>
      simp only [Draft.addFilter, Outcome.andThen, joined, aggregate, Bool.false_eq_true, if_false]
      exact {
        kept with
        readable := readableAll
        conditions := by simp [aggregate, rows]
        groupConditions := by simpa [aggregate] using groups }

theorem addFilter_of_error {f : Filter} {e : CompileError} (built : d.Built s base filters)
    (failure : (d.addFilter f).error? = some e) : (d.addFilter f).draft.Built s base filters := by
  cases joined : (d.joinOwners f.column).error? with
  | some e =>
    simp only [Draft.addFilter, Outcome.andThen, joined]
    exact built.joinOwners f.column
  | none =>
    simp only [Draft.addFilter, Outcome.andThen, joined] at failure
    split at failure <;> cases failure

theorem filter (predicates : List String) (built : d.Built s base filters) :
    (d.filter predicates).draft.Built s base (filters ++ d.admitted predicates) := by
  unfold Draft.filter
  induction predicates generalizing d filters with
  | nil =>
    rw [admitted, List.append_nil]
    exact built
  | cons predicate rest ih =>
    rw [Outcome.each, admitted, filterOne]
    cases read : d.scope.readFilter predicate with
    | error e =>
      rw [List.append_nil]
      exact built
    | ok f =>
      have readable : f.Readable s base :=
        ⟨built.offers (Scope.readFilter_ok read), readFilter_values read⟩
      cases added : (d.addFilter f).error? with
      | some e =>
        simp only [Outcome.andThen, added, List.append_nil]
        exact built.addFilter_of_error added
      | none =>
        have rest := ih (built.addFilter_of_ok readable added)
        rw [List.append_assoc, List.singleton_append] at rest
        simp only [Outcome.andThen, added]
        exact rest

theorem apply (op : Operation) (built : d.Built s base filters) :
    (op.apply d).draft.Built s base (filters ++ op.admitted d) := by
  cases op with
  | configure settings =>
    rw [Operation.admitted, List.append_nil]
    exact { built with }
  | call c =>
    cases c with
    | filter predicates => exact built.filter predicates
    | select references =>
      rw [Operation.admitted, List.append_nil]
      exact Outcome.each_keeps (fun reference _ kept => kept.selectOne reference) references built
    | order references =>
      rw [Operation.admitted, List.append_nil]
      exact Outcome.each_keeps (fun reference _ kept => kept.orderOne reference) references built
    | limit rows =>
      rw [Operation.admitted, List.append_nil]
      exact { built with }

theorem after (ops : List Operation) (built : d.Built s base filters) :
    (d.after ops).Built s base (filters ++ d.filtersAfter ops) := by
  induction ops generalizing d filters with
  | nil =>
    rw [filtersAfter, List.append_nil]
    exact built
  | cons op rest ih =>
    rw [Draft.after, filtersAfter, ← List.append_assoc]
    exact ih (built.apply op)

end Draft.Built

/-- Whatever operations follow on the start of a query, the draft is built up from its base. -/
theorem built_after_start {s : Schema} {name : String} {start : Draft}
    (started : Draft.start s name = .ok start) (ops : List Operation) :
    ∃ base, s.table? name = some base ∧
      (start.after ops).Built s base (start.filtersAfter ops) := by
  unfold Draft.start at started
  split at started
  · next base found =>
    cases started
    have empty : Draft.Built s base [] { schema := s, base } :=
      { sameSchema := rfl
        sameBase := rfl
        selected := by simp
        ordering := by simp
        readable := by simp
        conditions := rfl
        groupConditions := rfl
        joins := by simp }
    exact ⟨base, found, empty.after ops⟩
  · cases started

end StarQuery.Query
