import StarQuery.Proofs.Query.InForce
import StarQuery.Proofs.Query.Interleaving

/-!
Steps that are refused. One reference or predicate is read first, and then the tables of its columns
are joined, that of a value before that of the pivot. Main statement: a refused step leaves the
draft as it was, unless it strands a join, when the value of a crosstab has a table to be joined and
the pivot has one that cannot be; and a stranded join is in every plan from then on.
-/
namespace StarQuery.Query

open Model (Column Dimension Fact Schema Table)
open Sql (Join)

/-- A call with one reference or predicate. -/
inductive Step where
  | select (reference : String)
  | filter (predicate : String)
  | order (reference : String)

namespace Step

def call : Step → Call
  | .select reference => .select [reference]
  | .filter predicate => .filter [predicate]
  | .order reference => .order [reference]

def columns (s : Scope) (step : Step) : List Projection :=
  (step.call.uses s).filterMap Use.column?

end Step

namespace Draft

def reaches (d : Draft) (t : Table) : Bool := t.same d.base || d.hasJoin t.name

def StrandsBetween (d : Draft) (owners : List Table) (join : Join) : Prop :=
  ∃ t u e, owners = [t, u] ∧ d.reaches t = false ∧ d.joinOf t = .ok join ∧
    d.reaches u = false ∧ u.name ≠ t.name ∧ d.joinOf u = .error e

/-- The step joins the first table of one of its columns by `join`, and cannot join the second. -/
def Strands (d : Draft) (step : Step) (join : Join) : Prop :=
  ∃ p ∈ step.columns d.scope, d.StrandsBetween p.owners join

end Draft

/-- What a refused step leaves behind: the draft, and the joins that it strands. -/
structure Refused (d after : Draft) (Stranded : Join → Prop) : Prop where
  draft : ∃ joins, after = { d with joins := d.joins ++ joins } ∧ joins.length ≤ 1 ∧
    ∀ join, join ∈ joins ↔ Stranded join
  undone : after = d ↔ ∀ join, ¬Stranded join
  later : (∀ join, ¬Stranded join) → ∀ ops, (after.after ops).plan = (d.after ops).plan
  atOnce : ∀ plan, d.plan = .ok plan → (after.plan = .ok plan ↔ ∀ join, ¬Stranded join)
  stays : ∀ join, Stranded join → ∀ ops plan, (after.after ops).plan = .ok plan →
    join ∈ plan.statement.joins

namespace Draft

variable {d d' : Draft} {t u : Table} {owners : List Table} {e : CompileError} {join : Join}

theorem joinOwner_of_reached (reached : d.reaches t = true) : joinOwner t d = ⟨d, none⟩ :=
  if_pos reached

theorem joinOwner_cases (t : Table) (d : Draft) :
    (d.reaches t = true ∧ joinOwner t d = ⟨d, none⟩) ∨
    (∃ join, d.reaches t = false ∧ d.joinOf t = .ok join ∧
      joinOwner t d = ⟨{ d with joins := d.joins ++ [join] }, none⟩) ∨
    ∃ e, d.reaches t = false ∧ d.joinOf t = .error e ∧ joinOwner t d = ⟨d, some e⟩ := by
  cases reached : d.reaches t with
  | true => exact Or.inl ⟨rfl, joinOwner_of_reached reached⟩
  | false =>
    have apart : ¬(t.same d.base || d.hasJoin t.name) = true := by simpa [reaches] using reached
    rw [joinOwner, if_neg apart]
    cases found : d.joinOf t with
    | ok join => exact Or.inr (Or.inl ⟨join, rfl, rfl, rfl⟩)
    | error e => exact Or.inr (Or.inr ⟨e, rfl, rfl, rfl⟩)

theorem joinOwner_draft_of_error (refused : (joinOwner t d).error? = some e) :
    (joinOwner t d).draft = d := by
  rcases joinOwner_cases t d with ⟨-, joined⟩ | ⟨_, -, -, joined⟩ | ⟨_, -, -, joined⟩
  · rw [joined]
  · rw [joined] at refused
    cases refused
  · rw [joined]

theorem reaches_congr (base : d'.base = d.base) (joins : d'.joins = d.joins) :
    d'.reaches t = d.reaches t := by
  rw [reaches, reaches, hasJoin, hasJoin, base, joins]

theorem reaches_with_join (found : d.joinOf t = .ok join) :
    ({ d with joins := d.joins ++ [join] } : Draft).reaches u =
      (d.reaches u || t.name == u.name) := by
  obtain ⟨f, role, -, -, rfl⟩ := joinOf_ok found
  simp [reaches, hasJoin, Table.source_name, Bool.or_assoc]

theorem joinOwner_reaches (success : joinOwner t d = ⟨d', none⟩) :
    d'.reaches t = true ∧ ∀ u, d.reaches u = true → d'.reaches u = true := by
  rcases joinOwner_ok success with ⟨reached, rfl⟩ | ⟨-, join, found, rfl⟩
  · exact ⟨reached, fun u held => held⟩
  · refine ⟨?_, fun u held => ?_⟩
    · rw [reaches_with_join found, beq_self_eq_true, Bool.or_true]
    · rw [reaches_with_join found, held, Bool.true_or]

theorem joinEach_reaches (success : Outcome.each joinOwner owners d = ⟨d', none⟩) :
    (∀ t ∈ owners, d'.reaches t = true) ∧ ∀ u, d.reaches u = true → d'.reaches u = true := by
  induction owners generalizing d with
  | nil =>
    obtain rfl : d = d' := congrArg Outcome.draft success
    exact ⟨by simp, fun u held => held⟩
  | cons t rest ih =>
    obtain ⟨between, first, more⟩ := Outcome.andThen_ok success
    obtain ⟨reached, kept⟩ := joinOwner_reaches first
    obtain ⟨others, keptLater⟩ := ih more
    exact ⟨List.forall_mem_cons.mpr ⟨keptLater t reached, others⟩,
      fun u held => keptLater u (kept u held)⟩

theorem joinEach_of_reached (reached : ∀ t ∈ owners, d.reaches t = true) :
    Outcome.each joinOwner owners d = ⟨d, none⟩ := by
  induction owners with
  | nil => rfl
  | cons t rest ih =>
    obtain ⟨first, others⟩ := List.forall_mem_cons.mp reached
    rw [Outcome.each, joinOwner_of_reached first]
    exact ih others

theorem StrandsBetween.eq {join' : Join} (strands : d.StrandsBetween owners join)
    (strands' : d.StrandsBetween owners join') : join' = join := by
  obtain ⟨t, u, e, rfl, -, found, -⟩ := strands
  obtain ⟨t', u', e', same, -, found', -⟩ := strands'
  cases same
  exact Except.ok.inj (found'.symm.trans found)

theorem joinPair_of_error (refused : (Outcome.each joinOwner [t, u] d).error? = some e) :
    ((Outcome.each joinOwner [t, u] d).draft = d ∧ ∀ join, ¬d.StrandsBetween [t, u] join) ∨
      ∃ join, (Outcome.each joinOwner [t, u] d).draft = { d with joins := d.joins ++ [join] } ∧
        d.StrandsBetween [t, u] join := by
  have pair : Outcome.each joinOwner [t, u] d = (joinOwner t d).andThen (joinOwner u) := by
    rw [Outcome.each]
    congr 1
    funext between
    exact Outcome.each_singleton joinOwner u between
  rw [pair] at refused ⊢
  rcases joinOwner_cases t d with ⟨reached, first⟩ | ⟨join, apart, found, first⟩ |
    ⟨e', apart, failed, first⟩
  · -- Only the second table is left to be joined, and nothing was joined before it.
    rw [first, Outcome.andThen] at refused ⊢
    refine Or.inl ⟨joinOwner_draft_of_error refused, ?_⟩
    rintro join ⟨_, _, _, ⟨⟩, apart, -⟩
    rw [reached] at apart
    cases apart
  · rw [first, Outcome.andThen] at refused ⊢
    refine Or.inr ⟨join, ?_⟩
    rcases joinOwner_cases u { d with joins := d.joins ++ [join] } with
      ⟨-, second⟩ | ⟨_, -, -, second⟩ | ⟨e', apartSecond, failed, second⟩
    · rw [second] at refused
      cases refused
    · rw [second] at refused
      cases refused
    · rw [reaches_with_join found, Bool.or_eq_false_iff, beq_eq_false_iff_ne] at apartSecond
      rw [second]
      exact ⟨rfl, t, u, e', rfl, apart, found, apartSecond.1, apartSecond.2.symm, failed⟩
  · rw [first, Outcome.andThen]
    refine Or.inl ⟨rfl, ?_⟩
    rintro join ⟨_, _, _, ⟨⟩, -, found, -⟩
    rw [failed] at found
    cases found

theorem joinEach_of_error (short : owners.length ≤ 2)
    (refused : (Outcome.each joinOwner owners d).error? = some e) :
    ((Outcome.each joinOwner owners d).draft = d ∧ ∀ join, ¬d.StrandsBetween owners join) ∨
      ∃ join, (Outcome.each joinOwner owners d).draft = { d with joins := d.joins ++ [join] } ∧
        d.StrandsBetween owners join := by
  match owners with
  | [] => cases refused
  | [t] =>
    rw [Outcome.each_singleton] at refused ⊢
    refine Or.inl ⟨joinOwner_draft_of_error refused, ?_⟩
    rintro join ⟨_, _, _, ⟨⟩, -⟩
  | [t, u] => exact joinPair_of_error refused
  | _ :: _ :: _ :: _ => simp at short

end Draft

namespace Use

variable {u : Use} {p : Projection} {d : Draft} {owners : List Table}

theorem apply_of_column (column : u.column? = some p) (d : Draft) :
    u.apply d = ⟨d, none⟩ ∨ ∃ add : Draft → Draft,
      (∀ x, (add x).base = x.base ∧ (add x).joins = x.joins) ∧
        u.apply d = (d.joinOwners p).andThen fun x => ⟨add x, none⟩ := by
  cases u with
  | select q =>
    cases column
    rw [apply, Draft.selectColumn]
    split
    · exact Or.inl rfl
    · exact Or.inr ⟨fun x => { x with selected := x.selected ++ [p] }, fun x => ⟨rfl, rfl⟩, rfl⟩
  | filter f =>
    cases column
    refine Or.inr ⟨fun x => if f.column.isAggregate then
        { x with groupConditions := x.groupConditions ++ [f.condition] }
      else { x with conditions := x.conditions ++ [f.condition] }, fun x => ?_, ?_⟩
    · split <;> exact ⟨rfl, rfl⟩
    · rw [apply, Draft.addFilter]
      congr 1
      funext x
      split <;> rfl
  | order q direction =>
    cases column
    exact Or.inr ⟨fun x => { x with ordering := x.ordering ++ [(p, direction)] },
      fun x => ⟨rfl, rfl⟩, rfl⟩
  | limit rows => cases column

theorem each_of_reached {uses : List Use}
    (alike : ∀ u ∈ uses, ∃ p, u.column? = some p ∧ p.owners = owners)
    (reached : ∀ t ∈ owners, d.reaches t = true) :
    (Outcome.each Use.apply uses d).error? = none := by
  induction uses generalizing d with
  | nil => rfl
  | cons u rest ih =>
    obtain ⟨⟨p, column, owned⟩, others⟩ := List.forall_mem_cons.mp alike
    have joined : d.joinOwners p = ⟨d, none⟩ :=
      Draft.joinEach_of_reached (by rwa [owned])
    rcases apply_of_column column d with same | ⟨add, kept, added⟩
    · rw [Outcome.each, same]
      exact ih others reached
    · rw [Outcome.each, added, joined, Outcome.andThen, Outcome.andThen]
      exact ih others fun t member =>
        (Draft.reaches_congr (kept d).1 (kept d).2).trans (reached t member)

theorem each_of_error {uses : List Use} {e : CompileError}
    (alike : ∀ u ∈ uses, ∃ p, u.column? = some p ∧ p.owners = owners)
    (refused : (Outcome.each Use.apply uses d).error? = some e) :
    Outcome.each Use.apply uses d = Outcome.each Draft.joinOwner owners d := by
  induction uses generalizing d with
  | nil => cases refused
  | cons u rest ih =>
    obtain ⟨⟨p, column, owned⟩, others⟩ := List.forall_mem_cons.mp alike
    rcases apply_of_column column d with same | ⟨add, kept, added⟩
    · rw [Outcome.each, same] at refused ⊢
      exact ih others refused
    · rw [Outcome.each, added, Draft.joinOwners, owned] at refused ⊢
      generalize joining : Outcome.each Draft.joinOwner owners d = joined at refused ⊢
      obtain ⟨between, failure⟩ := joined
      cases failure with
      | some e' => rfl
      | none =>
        -- The tables of the others are those of the first, which have been joined by now.
        have reached := (Draft.joinEach_reaches joining).1
        have clean : (Outcome.each Use.apply rest (add between)).error? = none :=
          each_of_reached others fun t member =>
            (Draft.reaches_congr (kept between).1 (kept between).2).trans (reached t member)
        rw [Outcome.andThen, Outcome.andThen, clean] at refused
        cases refused

end Use

namespace Scope

variable {s : Scope} {reference : String} {columns : List Projection}

theorem owner_of_resolve {path : String} {target : Target} (found : s.resolve path = .ok target) :
    ∃ t, target.projection.owners = [t] := by
  obtain ⟨-, leading, first, -, more⟩ := resolve_ok found
  exact ⟨_, owners_of_denote more⟩

theorem owners_of_parse (found : s.parse reference = .ok columns) :
    ∃ owners : List Table, owners.length ≤ 2 ∧ ∀ p ∈ columns, p.owners = owners := by
  unfold parse at found
  split at found
  · obtain ⟨target, resolved, found⟩ := bind_ok found
    obtain ⟨q, applied, made⟩ := bind_ok found
    cases made
    obtain ⟨t, owned⟩ := owner_of_resolve resolved
    refine ⟨[t], by simp, fun p member => ?_⟩
    rw [List.mem_singleton.mp member, owners_of_applyOperator applied, owned]
  · obtain ⟨v, k, keys, hv, hk, -, -, -, cells⟩ := crosstab_ok found
    obtain ⟨t, ofValue⟩ := owner_of_resolve hv
    obtain ⟨u, ofPivot⟩ := owner_of_resolve hk
    refine ⟨[t, u], by simp, fun p member => ?_⟩
    obtain ⟨index, key, -, applied⟩ := cells p member
    rw [owners_of_applyOperator applied, Projection.owners, ofValue, ofPivot]
    rfl
  · cases found

theorem owners_of_columns (s : Scope) (reference : String) :
    ∃ owners : List Table, owners.length ≤ 2 ∧ ∀ p ∈ s.columns reference, p.owners = owners := by
  rw [columns]
  cases parsed : s.parse reference with
  | error e => exact ⟨[], by simp, by simp [Except.toOption]⟩
  | ok columns => exact owners_of_parse parsed

end Scope

namespace Step

theorem uses_alike (s : Scope) (step : Step) :
    ∃ owners : List Table, owners.length ≤ 2 ∧
      ∀ u ∈ step.call.uses s, ∃ p, u.column? = some p ∧ p.owners = owners := by
  cases step with
  | select reference =>
    obtain ⟨owners, short, owned⟩ := s.owners_of_columns reference
    refine ⟨owners, short, fun u member => ?_⟩
    rw [call, Call.uses, List.flatMap_singleton] at member
    obtain ⟨p, inside, rfl⟩ := List.mem_map.mp member
    exact ⟨p, rfl, owned p inside⟩
  | filter predicate =>
    cases read : s.readFilter predicate with
    | error e =>
      refine ⟨[], by simp, fun u member => ?_⟩
      rw [call, Call.uses, List.flatMap_singleton, Scope.filterings, read] at member
      cases member
    | ok f =>
      obtain ⟨reference, columns, parsed, inside⟩ := Scope.readFilter_ok read
      obtain ⟨owners, short, owned⟩ := Scope.owners_of_parse parsed
      refine ⟨owners, short, fun u member => ?_⟩
      rw [call, Call.uses, List.flatMap_singleton, Scope.filterings, read] at member
      obtain rfl := List.mem_singleton.mp member
      exact ⟨f.column, rfl, owned f.column inside⟩
  | order reference =>
    obtain ⟨owners, short, owned⟩ := s.owners_of_columns (readOrder reference).1
    refine ⟨owners, short, fun u member => ?_⟩
    rw [call, Call.uses, List.flatMap_singleton] at member
    obtain ⟨p, inside, rfl⟩ := List.mem_map.mp member
    exact ⟨p, rfl, owned p inside⟩

theorem apply_cases (step : Step) (d : Draft) :
    (step.call.uses d.scope = [] ∧ (step.call.apply d).draft = d) ∨
      step.call.apply d = Outcome.each Use.apply (step.call.uses d.scope) d := by
  cases step with
  | select reference =>
    cases parsed : d.scope.parse reference with
    | error e =>
      refine Or.inl ⟨?_, ?_⟩
      · rw [call, Call.uses, List.flatMap_singleton, Scope.selections, Scope.columns, parsed]
        rfl
      · rw [call, Call.apply, Draft.select, Outcome.each_singleton, Draft.selectOne, parsed]
    | ok columns =>
      exact Or.inr (Call.apply_eq (by simp [call, Call.Readable, parsed]) rfl)
  | filter predicate =>
    cases read : d.scope.readFilter predicate with
    | error e =>
      refine Or.inl ⟨?_, ?_⟩
      · rw [call, Call.uses, List.flatMap_singleton, Scope.filterings, read]
        rfl
      · rw [call, Call.apply, Draft.filter, Outcome.each_singleton, Draft.filterOne, read]
    | ok f =>
      exact Or.inr (Call.apply_eq (by simp [call, Call.Readable, read]) rfl)
  | order reference =>
    cases parsed : d.scope.parse (readOrder reference).1 with
    | error e =>
      refine Or.inl ⟨?_, ?_⟩
      · rw [call, Call.uses, List.flatMap_singleton, Scope.orderings, Scope.columns, parsed]
        rfl
      · simp only [call, Call.apply, Draft.order, Outcome.each_singleton, Draft.orderOne, parsed]
    | ok columns =>
      exact Or.inr (Call.apply_eq (by simp [call, Call.Readable, parsed]) rfl)

/-- A refused step strands a join, or leaves the draft as it was. -/
theorem draft_of_error {step : Step} {d : Draft} {e : CompileError}
    (refused : (step.call.apply d).error? = some e) :
    ((step.call.apply d).draft = d ∧ ∀ join, ¬d.Strands step join) ∨
      ∃ join, (step.call.apply d).draft = { d with joins := d.joins ++ [join] } ∧
        ∀ join', d.Strands step join' ↔ join' = join := by
  rcases step.apply_cases d with ⟨unread, same⟩ | byUses
  · refine Or.inl ⟨same, ?_⟩
    rintro join ⟨p, member, -⟩
    rw [columns, unread] at member
    cases member
  · obtain ⟨owners, short, alike⟩ := step.uses_alike d.scope
    rw [byUses] at refused ⊢
    have asked : step.call.uses d.scope ≠ [] := by
      intro none
      rw [none] at refused
      cases refused
    have joining := Use.each_of_error alike refused
    rw [joining] at refused ⊢
    have owned : ∀ p ∈ step.columns d.scope, p.owners = owners := by
      intro p member
      obtain ⟨u, inside, column⟩ := List.mem_filterMap.mp member
      obtain ⟨q, column', owned⟩ := alike u inside
      rw [Option.some.inj (column.symm.trans column'), owned]
    rcases Draft.joinEach_of_error short refused with ⟨same, none⟩ | ⟨join, stranded, strands⟩
    · refine Or.inl ⟨same, ?_⟩
      rintro join ⟨p, member, strands⟩
      rw [owned p member] at strands
      exact none join strands
    · refine Or.inr ⟨join, stranded, fun join' => ⟨?_, ?_⟩⟩
      · rintro ⟨p, member, strands'⟩
        rw [owned p member] at strands'
        exact strands.eq strands'
      · rintro rfl
        obtain ⟨u, inside⟩ := List.exists_mem_of_ne_nil _ asked
        obtain ⟨p, column, isOwned⟩ := alike u inside
        exact ⟨p, List.mem_filterMap.mpr ⟨u, inside, column⟩, isOwned ▸ strands⟩

end Step

namespace Draft

variable {join : Join}

theorem joinOwners_keeps (p : Projection) {d : Draft} (joined : join ∈ d.joins) :
    join ∈ (d.joinOwners p).draft.joins := by
  refine Outcome.each_keeps (P := fun x => join ∈ x.joins) (fun t x joined => ?_) p.owners joined
  rcases joinOwner_cases t x with ⟨-, same⟩ | ⟨_, -, -, added⟩ | ⟨_, -, -, same⟩
  · rwa [same]
  · rw [added]
    exact List.mem_append_left _ joined
  · rwa [same]

theorem usesKeep_join (join : Join) : UsesKeep fun d => join ∈ d.joins := by
  intro u d _ joined
  cases column : u.column? with
  | none =>
    cases u with
    | limit rows => exact joined
    | select p => cases column
    | filter f => cases column
    | order p direction => cases column
  | some p =>
    rcases Use.apply_of_column column d with same | ⟨add, kept, added⟩
    · rwa [same]
    · rw [added]
      refine Outcome.andThen_keeps (P := fun x => join ∈ x.joins) (joinOwners_keeps p joined) ?_
      intro x joined
      rwa [(kept x).2]

theorem mem_joins_after {d : Draft} (joined : join ∈ d.joins) (ops : List Operation) :
    join ∈ (d.after ops).joins := by
  induction ops generalizing d with
  | nil => exact joined
  | cons op rest ih =>
    refine ih ?_
    cases op with
    | configure settings => exact joined
    | call c => exact (usesKeep_join join).call c joined

end Draft

/-- Whatever draft refuses a step, the step leaves it as it was or strands one join. -/
theorem refused_step {d : Draft} {step : Step} {e : CompileError}
    (refused : (step.call.apply d).error? = some e) :
    Refused d (step.call.apply d).draft (d.Strands step) := by
  rcases Step.draft_of_error refused with ⟨same, none⟩ | ⟨join, after, strands⟩
  · rw [same]
    exact {
      draft := ⟨[], by rw [List.append_nil], by simp, fun join => by simp [none join]⟩
      undone := iff_of_true rfl none
      later := fun _ ops => rfl
      atOnce := fun plan planned => iff_of_true planned none
      stays := fun join stranded => absurd stranded (none join) }
  · have stranded := (strands join).mpr rfl
    have some : ¬∀ join, ¬d.Strands step join := fun none => none join stranded
    have other : d.joins ++ [join] ≠ d.joins := by simp
    rw [after]
    exact {
      draft := ⟨[join], rfl, by simp, fun join' => by rw [List.mem_singleton, strands]⟩
      undone := iff_of_false (fun same => other (congrArg Draft.joins same)) some
      later := fun none => absurd none some
      atOnce := fun plan planned => by
        refine iff_of_false (fun same => other ?_) some
        have held := (Draft.plan_ok planned).joins
        have held' := (Draft.plan_ok same).joins
        exact held'.symm.trans held
      stays := fun join' stranded' ops plan planned => by
        rw [(Draft.plan_ok planned).joins, (strands join').mp stranded']
        exact Draft.mem_joins_after (by simp) ops }

def unrelatedStores : Schema :=
  let product := Dimension.define "product" [.column (.ofType "name" .string), .identifier "name"]
  let store := Dimension.define "store" [.column (.ofType "open" .boolean)]
  let sales := Fact.define "sales" [.role (.ofDimension product), .measure (.ofType "total" .money)]
  { facts := [sales], dimensions := [product, store] }

def totalSelected : List Operation := [.call (.select ["sum.sales.total"])]

def countByStore : Step := .select "count.product~store.open"

theorem refused_step_stores :
    ∃ start e, Draft.start unrelatedStores "sales" = .ok start ∧
      (countByStore.call.apply (start.after totalSelected)).error? = some e ∧
      ((countByStore.call.apply (start.after totalSelected)).draft.joins.map
        fun join => join.source.name) = ["product"] ∧
      Refused (start.after totalSelected)
        (countByStore.call.apply (start.after totalSelected)).draft
        ((start.after totalSelected).Strands countByStore) := by
  let start : Draft :=
    { schema := unrelatedStores, base := .fact (unrelatedStores.facts.head (by decide)) }
  have failed : (countByStore.call.apply (start.after totalSelected)).error? =
      some (.unrelatedTable "store" "sales") := by decide +kernel
  exact ⟨start, _, rfl, failed, by decide +kernel, refused_step failed⟩

/-- The join of products is left behind, and the total is then one of sales of known products. -/
theorem not_all_refused_steps_undone :
    ¬∀ (s : Schema) (base : String) (start : Draft) (ops : List Operation) (step : Step)
      (e : CompileError), Draft.start s base = .ok start →
      (step.call.apply (start.after ops)).error? = some e →
        (step.call.apply (start.after ops)).draft.plan = (start.after ops).plan := by
  intro all
  let start : Draft :=
    { schema := unrelatedStores, base := .fact (unrelatedStores.facts.head (by decide)) }
  have same := all unrelatedStores "sales" start totalSelected countByStore
    (.unrelatedTable "store" "sales") rfl (by decide +kernel)
  have before : (start.after totalSelected).plan.map (·.statement.joins.length) = .ok 0 := by
    decide +kernel
  have after : (countByStore.call.apply (start.after totalSelected)).draft.plan.map
      (·.statement.joins.length) = .ok 1 := by decide +kernel
  rw [same, before] at after
  cases after

end StarQuery.Query
