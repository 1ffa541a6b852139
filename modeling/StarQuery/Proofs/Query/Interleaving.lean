import StarQuery.Proofs.Query.Feasibility

/-!
The order of calls. Selections, filters and orders may be mixed in any way. Main statement: where
tables of one name are one physical table, two runs with the same calls of each kind both succeed or
both fail, and have plans that differ in the order of their joins at most.
-/
namespace StarQuery.Query

open Model (Schema Table)
open Settings (CompilerSettings)
open Sql (Expr Join)

inductive CallKind where
  | select
  | filter
  | order
  | limit
  deriving DecidableEq

def Call.kind : Call → CallKind
  | .select _ => .select
  | .filter _ => .filter
  | .order _ => .order
  | .limit _ => .limit

def Use.kind : Use → CallKind
  | .select _ => .select
  | .filter _ => .filter
  | .order _ _ => .order
  | .limit _ => .limit

/-- Both have the same calls of each kind, in the same order. -/
def Interleaved (calls calls' : List Call) : Prop :=
  ∀ kind, calls.filter (·.kind = kind) = calls'.filter (·.kind = kind)

/-- The plans are the same but for the order of their joins. -/
structure Plan.Reordered (p q : Plan) : Prop where
  joins : p.statement.joins.Perm q.statement.joins
  rest : q = { p with statement := { p.statement with joins := q.statement.joins } }

inductive SamePlans : Except CompileError Plan → Except CompileError Plan → Prop where
  | error (e : CompileError) : SamePlans (.error e) (.error e)
  | ok {p q : Plan} (reordered : p.Reordered q) : SamePlans (.ok p) (.ok q)

theorem kind_of_uses {s : Scope} {c : Call} {u : Use} (member : u ∈ c.uses s) : u.kind = c.kind := by
  cases c with
  | select references =>
    obtain ⟨reference, -, member⟩ := List.mem_flatMap.mp member
    obtain ⟨p, -, rfl⟩ := List.mem_map.mp member
    rfl
  | filter predicates =>
    obtain ⟨predicate, -, member⟩ := List.mem_flatMap.mp member
    obtain ⟨f, -, rfl⟩ := List.mem_map.mp member
    rfl
  | order references =>
    obtain ⟨reference, -, member⟩ := List.mem_flatMap.mp member
    obtain ⟨p, -, rfl⟩ := List.mem_map.mp member
    rfl
  | limit rows =>
    obtain rfl := List.mem_singleton.mp member
    rfl

theorem filter_uses (s : Scope) (calls : List Call) (kind : CallKind) :
    (calls.flatMap (Call.uses s)).filter (·.kind = kind) =
      (calls.filter (·.kind = kind)).flatMap (Call.uses s) := by
  induction calls with
  | nil => rfl
  | cons c calls ih =>
    rw [List.flatMap_cons, List.filter_append, ih]
    by_cases same : c.kind = kind
    · have all : (c.uses s).filter (·.kind = kind) = c.uses s :=
        List.filter_eq_self.mpr fun u member => by simpa [kind_of_uses member] using same
      rw [List.filter_cons_of_pos (by simpa using same), List.flatMap_cons, all]
    · have none : (c.uses s).filter (·.kind = kind) = [] :=
        List.filter_eq_nil_iff.mpr fun u member => by simpa [kind_of_uses member] using same
      rw [List.filter_cons_of_neg (by simpa using same), none, List.nil_append]

theorem kind_of_repeats {u v : Use} (repeated : u.repeats v = true) : u.kind = v.kind := by
  cases u <;> cases v <;> first | rfl | cases repeated

theorem filter_accepted (s : Scope) (calls : List Call) (kind : CallKind) :
    (accepted s calls).filter (·.kind = kind) =
      ((calls.filter (·.kind = kind)).flatMap (Call.uses s)).eraseDupsBy Use.repeats := by
  rw [accepted, filter_eraseDupsBy, filter_uses]
  intro u v repeated
  rw [kind_of_repeats repeated]

theorem Interleaved.filter_accepted {calls calls' : List Call} (same : Interleaved calls calls')
    (s : Scope) (kind : CallKind) :
    (accepted s calls).filter (·.kind = kind) = (accepted s calls').filter (·.kind = kind) := by
  rw [Query.filter_accepted, same, Query.filter_accepted]

section

variable {s : Schema} {base : Table} {settings : CompilerSettings} {calls calls' : List Call}
  {uses uses' : List Use} {start d d' : Draft} {t : Table}

theorem filterMap_of_kind {α : Type} {f : Use → Option α} (kind : CallKind)
    (only : ∀ u : Use, u.kind ≠ kind → f u = none)
    (same : uses.filter (·.kind = kind) = uses'.filter (·.kind = kind)) :
    uses.filterMap f = uses'.filterMap f := by
  have restrict (uses : List Use) :
      (uses.filter (·.kind = kind)).filterMap f = uses.filterMap f := by
    rw [List.filterMap_filter]
    refine List.filterMap_congr fun u _ => ?_
    by_cases of : u.kind = kind
    · simp [of]
    · simp [of, only u of]
  rw [← restrict uses, same, restrict uses']

theorem mem_iff_of_kinds {α κ : Type} [DecidableEq κ] {kind : α → κ} {as bs : List α}
    (same : ∀ k, as.filter (kind · = k) = bs.filter (kind · = k)) (a : α) : a ∈ as ↔ a ∈ bs := by
  have restrict (as : List α) : a ∈ as ↔ a ∈ as.filter (kind · = kind a) := by
    simp [List.mem_filter]
  rw [restrict as, same, ← restrict bs]

theorem Interleaved.mem_inUse (same : Interleaved calls calls') (sc : Scope) :
    t ∈ tablesInUse sc calls ↔ t ∈ tablesInUse sc calls' := by
  have accepted := mem_iff_of_kinds (same.filter_accepted sc)
  simp only [tablesInUse, List.mem_flatMap, accepted]

namespace Draft

/-- Drafts of the same uses of each kind differ in their joins at most. -/
theorem Records.eq_of_kinds (records : Records start uses d) (records' : Records start uses' d')
    (same : ∀ kind, uses.filter (·.kind = kind) = uses'.filter (·.kind = kind)) :
    d' = { d with joins := d'.joins } := by
  have scope : d'.scope = d.scope := records'.scope.trans records.scope.symm
  -- Each part of a draft is filled by uses of one kind.
  have agree {α : Type} {f : Use → Option α} (kind : CallKind)
      (only : ∀ u : Use, u.kind ≠ kind → f u = none) :
      uses'.filterMap f = uses.filterMap f :=
    (filterMap_of_kind kind only (same kind)).symm
  have selected : d'.selected = d.selected := by
    rw [records.selected, records'.selected]
    refine agree .select fun u other => ?_
    cases u <;> first | rfl | exact absurd rfl other
  have conditions : d'.conditions = d.conditions := by
    rw [records.conditions, records'.conditions]
    refine agree .filter fun u other => ?_
    cases u <;> first | rfl | exact absurd rfl other
  have groupConditions : d'.groupConditions = d.groupConditions := by
    rw [records.groupConditions, records'.groupConditions]
    refine agree .filter fun u other => ?_
    cases u <;> first | rfl | exact absurd rfl other
  have ordering : d'.ordering = d.ordering := by
    rw [records.ordering, records'.ordering]
    refine agree .order fun u other => ?_
    cases u <;> first | rfl | exact absurd rfl other
  have limit : d'.limit = d.limit := by
    rw [records.limit, records'.limit]
    refine congrArg List.getLast? (agree .limit fun u other => ?_)
    cases u <;> first | rfl | exact absurd rfl other
  have parts := eq_of_parts scope selected ordering limit
  rw [conditions, groupConditions] at parts
  exact parts

theorem plan_with_joins (d : Draft) (joins : List Join) :
    ({ d with joins } : Draft).plan = (fun plan : Plan =>
      { plan with statement := { plan.statement with joins } }) <$> d.plan := by
  simp only [plan, map_bind]
  rfl

theorem samePlans_of_joins (d : Draft) {joins : List Join} (same : d.joins.Perm joins) :
    SamePlans d.plan ({ d with joins } : Draft).plan := by
  rw [plan_with_joins d joins]
  cases planned : d.plan with
  | error e => exact .error e
  | ok p =>
    have held := (plan_ok planned).joins
    exact .ok ⟨held ▸ same, rfl⟩

theorem Records.nodup_joins (records : Records start uses d) : d.joins.Nodup := by
  refine List.Nodup.of_map (fun join => join.source.name) ?_
  rw [records.join_names, List.Nodup]
  refine (pairwise_eraseDupsBy _ _).imp fun fresh same => ?_
  rw [same, beq_self_eq_true] at fresh
  cases fresh

end Draft

theorem mem_joins_iff
    (one : OnePhysicalTable (base :: tablesInUse (scopeOf s base settings) calls))
    (records : Draft.Records { schema := s, base, settings }
      (accepted (scopeOf s base settings) calls) d) {join : Join} :
    join ∈ d.joins ↔ ∃ t ∈ tablesInUse (scopeOf s base settings) calls, t.same base = false ∧
      Draft.joinOf { schema := s, base, settings } t = .ok join := by
  have joins := mapM_eq_ok_iff.mp records.joins
  constructor
  · intro member
    obtain ⟨t, needed, found⟩ := exists_left_of_forall₂ joins member
    exact ⟨t, tablesNeeded_subset needed, not_base_of_needed needed, found⟩
  · rintro ⟨t, used, notBase, found⟩
    obtain ⟨u, needed, sameName⟩ := exists_needed used notBase
    obtain ⟨join', member, found'⟩ := exists_right_of_forall₂ joins needed
    rw [joinOf_inUse one (tablesNeeded_subset needed) used (not_base_of_needed needed) notBase
      sameName, found] at found'
    cases found'
    exact member

/-- Runs with the same calls of each kind succeed together and have the same plans but for the order
of joins. -/
theorem interleavings_agree {name : String} (same : Interleaved calls calls')
    (one : ∀ base, s.table? name = some base →
      OnePhysicalTable (base :: tablesInUse (scopeOf s base settings) calls)) :
    ((∃ d, draftOf s name settings calls = .ok d) ↔
      ∃ d, draftOf s name settings calls' = .ok d) ∧
    ∀ d d', draftOf s name settings calls = .ok d → draftOf s name settings calls' = .ok d' →
      SamePlans d.plan d'.plan := by
  cases found : s.table? name with
  | none =>
    have fails (calls : List Call) (d : Draft) : draftOf s name settings calls ≠ .ok d := by
      intro made
      obtain ⟨table, found', -⟩ := draftOf_ok made
      rw [found] at found'
      cases found'
    refine ⟨iff_of_false ?_ ?_, fun d _ made => absurd made (fails calls d)⟩
    · exact fun ⟨d, made⟩ => fails calls d made
    · exact fun ⟨d, made⟩ => fails calls' d made
  | some base =>
    have one := one base found
    have inUse (t : Table) := same.mem_inUse (t := t) (scopeOf s base settings)
    have one' : OnePhysicalTable (base :: tablesInUse (scopeOf s base settings) calls') := by
      have within {t : Table}
          (member : t ∈ base :: tablesInUse (scopeOf s base settings) calls') :
          t ∈ base :: tablesInUse (scopeOf s base settings) calls :=
        List.mem_cons.mpr ((List.mem_cons.mp member).imp_right (inUse t).mpr)
      exact fun t ht u hu => one t (within ht) u (within hu)
    constructor
    · rw [draftOf_succeeds_iff one found, draftOf_succeeds_iff one' found]
      simp only [mem_iff_of_kinds same, inUse]
    · intro d d' made made'
      obtain ⟨table, found₁, records⟩ := draftOf_ok made
      obtain rfl : base = table := Option.some.inj (found.symm.trans found₁)
      obtain ⟨table, found₂, records'⟩ := draftOf_ok made'
      obtain rfl : base = table := Option.some.inj (found.symm.trans found₂)
      have joins : d.joins.Perm d'.joins := by
        refine (List.perm_ext_iff_of_nodup records.nodup_joins records'.nodup_joins).mpr ?_
        intro join
        simp only [mem_joins_iff one records, mem_joins_iff one' records', inUse]
      rw [records.eq_of_kinds records' (same.filter_accepted _)]
      exact d.samePlans_of_joins joins

def shippedCalls : List Call := [.select ["ship_date.year"], .select ["sum.sales.total"],
  .filter ["order_date.year:2024"], .order ["ship_date.year"]]

def filteredCalls : List Call := [.filter ["order_date.year:2024"], .select ["ship_date.year"],
  .order ["ship_date.year"], .select ["sum.sales.total"]]

theorem interleavings_agree_shipments :
    Interleaved shippedCalls filteredCalls ∧
      ∃ d d', draftOf Schema.shipments "sales" {} shippedCalls = .ok d ∧
        draftOf Schema.shipments "sales" {} filteredCalls = .ok d' ∧
        d.joins.map (fun join => join.source.name) = ["ship_date", "order_date"] ∧
        d'.joins.map (fun join => join.source.name) = ["order_date", "ship_date"] ∧
        SamePlans d.plan d'.plan := by
  have same : Interleaved shippedCalls filteredCalls := by
    intro kind
    cases kind <;> rfl
  have run : (draftOf Schema.shipments "sales" {} shippedCalls).map
      (fun d => d.joins.map fun join => join.source.name) = .ok ["ship_date", "order_date"] := by
    decide +kernel
  have run' : (draftOf Schema.shipments "sales" {} filteredCalls).map
      (fun d => d.joins.map fun join => join.source.name) = .ok ["order_date", "ship_date"] := by
    decide +kernel
  obtain ⟨d, made, joins⟩ := map_ok run
  obtain ⟨d', made', joins'⟩ := map_ok run'
  refine ⟨same, d, d', made, made', joins, joins', ?_⟩
  refine (interleavings_agree same fun base found => ?_).2 d d' made made'
  obtain rfl : base = .fact (Schema.shipments.facts.head (by decide)) :=
    Option.some.inj (found.symm.trans rfl)
  unfold OnePhysicalTable
  decide +kernel

end

end StarQuery.Query
