import StarQuery.Proofs.Query.Aliases
import StarQuery.Proofs.Query.Names

/-!
Which runs of calls succeed. Main statement: where tables of one name are one physical table, a run
succeeds exactly when all its references denote something and every table in use is the base or can
be joined to it.
-/
namespace StarQuery.Query

open Model (Role Schema Table)
open Settings (CompilerSettings)

def Call.Readable (s : Scope) : Call → Prop
  | .select references => ∀ reference ∈ references, ∃ columns, s.parse reference = .ok columns
  | .filter predicates => ∀ predicate ∈ predicates, ∃ f, s.readFilter predicate = .ok f
  | .order references =>
    ∀ reference ∈ references, ∃ columns, s.parse (readOrder reference).1 = .ok columns
  | .limit _ => True

def Draft.CanJoin (d : Draft) (t : Table) : Prop :=
  t.same d.base = true ∨ ∃ join, d.joinOf t = .ok join

namespace Outcome

variable {α β : Type} {step : α → Draft → Outcome} {small : β → Draft → Outcome} {as : List α}
  {a : α} {d d' : Draft}

/-- Steps that come down to smaller ones in the scope of the start do so in a run as well, whether
it fails or not. -/
theorem each_flatMap_eq {parts : α → List β} {scope : Scope}
    (stepParts : ∀ a ∈ as, ∀ d, d.scope = scope → step a d = each small (parts a) d)
    (smallScope : ∀ b d, (small b d).draft.scope = d.scope) (start : d.scope = scope) :
    each step as d = each small (as.flatMap parts) d := by
  induction as generalizing d with
  | nil => rfl
  | cons a as ih =>
    have kept : (each small (parts a) d).draft.scope = scope :=
      each_keeps (P := fun x => x.scope = scope) (fun b x h => (smallScope b x).trans h) _ start
    have rest := ih (fun a member => stepParts a (List.mem_cons_of_mem _ member)) kept
    rw [List.flatMap_cons, each_append, each, stepParts a List.mem_cons_self d start, andThen,
      andThen, rest]

theorem each_ok_of_mem (stepScope : ∀ a d d', step a d = ⟨d', none⟩ → d'.scope = d.scope)
    (success : each step as d = ⟨d', none⟩) (member : a ∈ as) :
    ∃ before after, before.scope = d.scope ∧ step a before = ⟨after, none⟩ := by
  induction as generalizing d with
  | nil => cases member
  | cons b as ih =>
    obtain ⟨between, first, rest⟩ := andThen_ok success
    rcases List.mem_cons.mp member with rfl | member
    · exact ⟨d, between, rfl, first⟩
    · obtain ⟨before, after, same, success⟩ := ih rest member
      exact ⟨before, after, same.trans (stepScope b d between first), success⟩

end Outcome

theorem Call.apply_eq {c : Call} {s : Scope} (readable : c.Readable s) {d : Draft}
    (inScope : d.scope = s) : c.apply d = Outcome.each Use.apply (c.uses s) d := by
  cases c with
  | select references =>
    refine Outcome.each_flatMap_eq (fun reference member d same => ?_) Use.apply_scope inScope
    obtain ⟨columns, parsed⟩ := readable reference member
    rw [Draft.selectOne, same, Scope.selections, Scope.columns, parsed, Outcome.each_map]
    rfl
  | filter predicates =>
    refine Outcome.each_flatMap_eq (fun predicate member d same => ?_) Use.apply_scope inScope
    obtain ⟨f, read⟩ := readable predicate member
    rw [Draft.filterOne, same, Scope.filterings, read]
    exact (Outcome.each_singleton Use.apply (.filter f) d).symm
  | order references =>
    refine Outcome.each_flatMap_eq (fun reference member d same => ?_) Use.apply_scope inScope
    obtain ⟨columns, parsed⟩ := readable reference member
    rw [Scope.orderings, Scope.columns, parsed, Outcome.each_map]
    simp only [Draft.orderOne, same, parsed]
    rfl
  | limit rows => exact (Outcome.each_singleton Use.apply (.limit rows) d).symm

theorem Call.readable_of_ok {c : Call} {d d' : Draft} (success : c.apply d = ⟨d', none⟩) :
    c.Readable d.scope := by
  cases c with
  | select references =>
    intro reference member
    obtain ⟨before, after, same, ok⟩ := Outcome.each_ok_of_mem
      (fun _ _ _ h => scope_of_uses (Draft.selectOne_ok h)) success member
    rw [Draft.selectOne, same] at ok
    split at ok
    · next columns parsed => exact ⟨columns, parsed⟩
    · cases ok
  | filter predicates =>
    intro predicate member
    obtain ⟨before, after, same, ok⟩ := Outcome.each_ok_of_mem
      (fun _ _ _ h => scope_of_uses (Draft.filterOne_ok h)) success member
    rw [Draft.filterOne, same] at ok
    split at ok
    · next f read => exact ⟨f, read⟩
    · cases ok
  | order references =>
    intro reference member
    obtain ⟨before, after, same, ok⟩ := Outcome.each_ok_of_mem
      (fun _ _ _ h => scope_of_uses (Draft.orderOne_ok h)) success member
    simp only [Draft.orderOne, same] at ok
    split at ok
    · next columns parsed => exact ⟨columns, parsed⟩
    · cases ok
  | limit rows => trivial

namespace Draft

variable {start d d' : Draft} {calls : List Call} {uses : List Use} {u : Use} {t : Table}

theorem run_eq (readable : ∀ c ∈ calls, c.Readable d.scope) :
    d.run calls = Outcome.each Use.apply (calls.flatMap (Call.uses d.scope)) d :=
  Outcome.each_flatMap_eq (fun c member _ same => Call.apply_eq (readable c member) same)
    Use.apply_scope rfl

theorem readable_of_run (success : d.run calls = ⟨d', none⟩) :
    ∀ c ∈ calls, c.Readable d.scope := by
  intro c member
  obtain ⟨before, after, same, ok⟩ := Outcome.each_ok_of_mem
    (fun _ _ _ h => scope_of_uses (Call.apply_ok h)) success member
  exact same ▸ Call.readable_of_ok ok

theorem canJoin_congr (same : d.scope = start.scope) : d.CanJoin t ↔ start.CanJoin t := by
  rw [CanJoin, CanJoin, base_eq same, joinOf_congr same]

theorem joinOwner_of_canJoin (can : d.CanJoin t) : ∃ d', joinOwner t d = ⟨d', none⟩ := by
  unfold joinOwner
  split
  · exact ⟨d, rfl⟩
  · next absent =>
    rcases can with isBase | ⟨join, found⟩
    · rw [isBase] at absent
      exact absurd rfl absent
    · rw [found]
      exact ⟨_, rfl⟩

theorem joinOwners_of_canJoin {p : Projection} (can : ∀ t ∈ p.owners, d.CanJoin t) :
    ∃ d', d.joinOwners p = ⟨d', none⟩ := by
  unfold joinOwners
  generalize p.owners = owners at can
  induction owners generalizing d with
  | nil => exact ⟨d, rfl⟩
  | cons t owners ih =>
    obtain ⟨between, joined⟩ := joinOwner_of_canJoin (can t List.mem_cons_self)
    have kept : between.scope = d.scope := by
      have scope := joinOwner_scope t d
      rwa [joined] at scope
    obtain ⟨d', rest⟩ := ih fun u member =>
      (canJoin_congr kept).mpr (can u (List.mem_cons_of_mem _ member))
    refine ⟨d', ?_⟩
    rw [Outcome.each, joined]
    exact rest

end Draft

theorem Use.apply_of_canJoin {u : Use} {d : Draft}
    (can : (∃ p, u = .select p ∧ d.hasColumn p.name = true) ∨ ∀ t ∈ u.owners, d.CanJoin t) :
    ∃ d', u.apply d = ⟨d', none⟩ := by
  rcases can with ⟨p, rfl, present⟩ | can
  · refine ⟨d, ?_⟩
    rw [apply, Draft.selectColumn, if_pos present]
  · cases u with
    | select p =>
      obtain ⟨between, joined⟩ := Draft.joinOwners_of_canJoin can
      rw [apply, Draft.selectColumn, joined]
      split
      · exact ⟨d, rfl⟩
      · exact ⟨_, rfl⟩
    | filter f =>
      obtain ⟨between, joined⟩ := Draft.joinOwners_of_canJoin can
      rw [apply, Draft.addFilter, joined, Outcome.andThen]
      dsimp only
      split
      · exact ⟨_, rfl⟩
      · exact ⟨_, rfl⟩
    | order p direction =>
      obtain ⟨between, joined⟩ := Draft.joinOwners_of_canJoin can
      rw [apply, Draft.orderColumn, joined]
      exact ⟨_, rfl⟩
    | limit rows => exact ⟨_, rfl⟩

namespace Draft

variable {start d d' : Draft} {calls : List Call} {uses : List Use} {u : Use} {t : Table}

theorem uses_succeed (empty : Records start [] start)
    (can : ∀ t ∈ (uses.eraseDupsBy Use.repeats).flatMap Use.owners, start.CanJoin t) :
    ∃ d, Outcome.each Use.apply uses start = ⟨d, none⟩ := by
  induction uses using List.reverseRecOn with
  | nil => exact ⟨start, rfl⟩
  | append_singleton uses u ih =>
    rw [eraseDupsBy_concat] at can
    have earlier : ∀ t ∈ (uses.eraseDupsBy Use.repeats).flatMap Use.owners, start.CanJoin t := by
      intro t member
      apply can
      split
      · exact member
      · rw [List.flatMap_append]
        exact List.mem_append_left _ member
    obtain ⟨between, first⟩ := ih earlier
    have records := records_of_uses empty first
    -- Selecting a name again changes nothing; any other use needs its tables.
    have last : (∃ p, u = .select p ∧ between.hasColumn p.name = true) ∨
        ∀ t ∈ u.owners, between.CanJoin t := by
      by_cases repeated : (uses.eraseDupsBy Use.repeats).any u.repeats = true
      · cases u with
        | select p => exact Or.inl ⟨p, rfl, (records.hasColumn p).trans repeated⟩
        | _ => simp [Use.repeats] at repeated
      · rw [if_neg repeated, List.flatMap_append] at can
        refine Or.inr fun t member => (canJoin_congr records.scope).mpr (can t ?_)
        exact List.mem_append_right _ (by simpa using member)
    obtain ⟨d, success⟩ := Use.apply_of_canJoin last
    refine ⟨d, ?_⟩
    rw [Outcome.each_append, first, Outcome.andThen, Outcome.each_singleton]
    exact success

end Draft

theorem exists_needed {base t : Table} {owners : List Table} (member : t ∈ owners)
    (other : t.same base = false) : ∃ u ∈ tablesNeeded base owners, u.name = t.name := by
  have listed : t.name ∈ (tablesNeeded base owners).map Table.name := by
    rw [tablesNeeded, map_eraseDupsBy, List.mem_eraseDups]
    exact List.mem_map_of_mem (List.mem_filter.mpr ⟨member, by rw [other]; rfl⟩)
  exact List.mem_map.mp listed

theorem not_base_of_needed {base t : Table} {owners : List Table}
    (needed : t ∈ tablesNeeded base owners) : t.same base = false := by
  have kept := (List.mem_filter.mp (eraseDupsBy_subset _ _ needed)).2
  simpa using kept

namespace Scope

variable {s : Scope} {t : Table} {p : Projection}

theorem table?_of_table {name : String} (found : s.table name = .ok t) : s.table? name = some t := by
  unfold table at found
  split at found
  · next table found' =>
    cases found
    exact found'
  · cases found

theorem enterRole_cases (owner : Table) (names : List String) :
    (∃ r, (enterRole owner names).1 = .role r) ∨ (enterRole owner names).1 = owner := by
  unfold enterRole
  split
  · split
    · exact Or.inl ⟨_, rfl⟩
    · exact Or.inr rfl
  · exact Or.inr rfl

theorem owners_of_denote {path : String} {leading : Option Aggregate} {names : List String}
    {target : Target} (found : s.denote path leading t names = .ok target) :
    target.projection.owners = [t] := by
  rcases denote_ok found with ⟨d, -, hp⟩ | ⟨c, -, -, hp⟩
  · rw [hp]
    rfl
  · rw [hp]
    rcases s.columnOf_cases t c with ⟨d, -, hc⟩ | ⟨-, hc⟩ | ⟨-, hc⟩ <;> rw [hc] <;> rfl

theorem table_of_resolve {path : String} {target : Target} (found : s.resolve path = .ok target)
    (owned : t ∈ target.projection.owners) : (∃ r, t = .role r) ∨ s.table? t.name = some t := by
  obtain ⟨-, leading, first, hfirst, more⟩ := resolve_ok found
  rw [owners_of_denote more] at owned
  obtain rfl := List.mem_singleton.mp owned
  rcases enterRole_cases first (s.leadingOperator (segments path)).2.tail with role | same
  · exact Or.inl role
  · rw [same, name_of_table hfirst]
    exact Or.inr (table?_of_table hfirst)

theorem owners_of_applyOperator {q : Projection} {operator : Option Aggregate}
    (applied : applyOperator p operator = .ok q) : q.owners = p.owners := by
  rcases applyOperator_ok applied with rfl | ⟨op, -, -, rfl⟩ <;> rfl

theorem Yields.table_of_owner (yields : s.Yields p) (owned : t ∈ p.owners) :
    (∃ r, t = .role r) ∨ s.table? t.name = some t := by
  obtain ⟨reference, columns, found, member⟩ := yields
  rcases parse_ok found member with ⟨path, target, resolved, applied⟩ | ⟨value, pivot, crossed⟩
  · rw [owners_of_applyOperator applied] at owned
    exact table_of_resolve resolved owned
  · obtain ⟨v, k, keys, hv, hk, -, -, -, cells⟩ := crosstab_ok crossed
    obtain ⟨index, key, -, applied⟩ := cells p member
    rw [owners_of_applyOperator applied] at owned
    rcases List.mem_append.mp owned with ofValue | ofPivot
    · exact table_of_resolve hv ofValue
    · exact table_of_resolve hk ofPivot

end Scope

section

variable {s : Schema} {base t u : Table} {settings : CompilerSettings} {calls : List Call}
  {d : Draft}

theorem roleFor?_of_table (other : t.same base = false) (notRole : ∀ r, t ≠ .role r)
    (found : (scopeOf s base settings).table? t.name = some t) (sameName : u.name = t.name) :
    roleFor? base u = none := by
  cases held : roleFor? base u with
  | none => rfl
  | some role =>
    obtain ⟨f, isFact, held⟩ := roleFor?_some held
    rw [sameName] at held
    simp only [scopeOf, Scope.table?, isFact, Option.bind_some, held] at found
    split at found
    · cases found
      rw [Model.Table.same, beq_self_eq_true, beq_self_eq_true] at other
      cases other
    · exact absurd (Option.some.inj found).symm (notRole role)

theorem roleFor?_congr (otherT : t.same base = false) (otherU : u.same base = false)
    (ht : (∃ r, t = .role r) ∨ (scopeOf s base settings).table? t.name = some t)
    (hu : (∃ r, u = .role r) ∨ (scopeOf s base settings).table? u.name = some u)
    (sameName : t.name = u.name) (samePhysical : t.physicalName = u.physicalName) :
    roleFor? base t = roleFor? base u := by
  by_cases roleT : ∃ r, t = .role r
  · by_cases roleU : ∃ r, u = .role r
    · obtain ⟨r, rfl⟩ := roleT
      obtain ⟨r', rfl⟩ := roleU
      have name : r.name = r'.name := sameName
      have dimension : r.dimension.name = r'.dimension.name := samePhysical
      simp only [roleFor?, name, dimension]
    · have found := hu.resolve_left roleU
      have notRole := not_exists.mp roleU
      rw [roleFor?_of_table otherU notRole found sameName, roleFor?_of_table otherU notRole found rfl]
  · have found := ht.resolve_left roleT
    have notRole := not_exists.mp roleT
    rw [roleFor?_of_table otherT notRole found rfl,
      roleFor?_of_table otherT notRole found sameName.symm]

theorem source_congr (sameName : t.name = u.name) (samePhysical : t.physicalName = u.physicalName) :
    t.source = u.source := by
  rw [Model.Table.source, Model.Table.source, sameName, samePhysical]

theorem table_of_inUse (used : t ∈ tablesInUse (scopeOf s base settings) calls) :
    (∃ r, t = .role r) ∨ (scopeOf s base settings).table? t.name = some t := by
  obtain ⟨u, hu, owned⟩ := List.mem_flatMap.mp used
  rw [Use.owners] at owned
  cases column : u.column? with
  | none =>
    rw [column] at owned
    cases owned
  | some p =>
    rw [column] at owned
    exact (accepted_yield hu column).table_of_owner owned

variable (one : OnePhysicalTable (base :: tablesInUse (scopeOf s base settings) calls))

include one

theorem joinOf_inUse (ht : t ∈ tablesInUse (scopeOf s base settings) calls)
    (hu : u ∈ tablesInUse (scopeOf s base settings) calls) (otherT : t.same base = false)
    (otherU : u.same base = false) (sameName : t.name = u.name) :
    Draft.joinOf { schema := s, base, settings } t =
      Draft.joinOf { schema := s, base, settings } u := by
  have samePhysical : t.physicalName = u.physicalName :=
    one t (List.mem_cons_of_mem _ ht) u (List.mem_cons_of_mem _ hu) sameName
  have role := roleFor?_congr otherT otherU (table_of_inUse ht) (table_of_inUse hu) sameName
    samePhysical
  simp only [Draft.joinOf, role, sameName, source_congr sameName samePhysical]

theorem canJoin_of_records
    (records : Draft.Records { schema := s, base, settings }
      (accepted (scopeOf s base settings) calls) d)
    (used : t ∈ tablesInUse (scopeOf s base settings) calls) :
    Draft.CanJoin { schema := s, base, settings } t := by
  cases other : t.same base with
  | true => exact Or.inl other
  | false =>
    obtain ⟨u, needed, sameName⟩ := exists_needed used other
    have joins := mapM_eq_ok_iff.mp records.joins
    obtain ⟨join, -, found⟩ := exists_right_of_forall₂ joins needed
    refine Or.inr ⟨join, ?_⟩
    rw [joinOf_inUse one used (tablesNeeded_subset needed) other (not_base_of_needed needed)
      sameName.symm, found]

/-- Calls succeed exactly when all their references denote something and all tables in use are the
base or can be joined to it. -/
theorem draftOf_succeeds_iff {name : String} (found : s.table? name = some base) :
    (∃ d, draftOf s name settings calls = .ok d) ↔
      (∀ c ∈ calls, c.Readable (scopeOf s base settings)) ∧
        ∀ t ∈ tablesInUse (scopeOf s base settings) calls,
          Draft.CanJoin { schema := s, base, settings } t := by
  have started : Draft.start s name = .ok { schema := s, base } := by rw [Draft.start, found]
  constructor
  · rintro ⟨d, made⟩
    obtain ⟨table, found', records⟩ := draftOf_ok made
    obtain rfl : base = table := Option.some.inj (found.symm.trans found')
    refine ⟨?_, fun t used => canJoin_of_records one records used⟩
    obtain ⟨start, started', ran⟩ := bind_ok made
    obtain rfl := Except.ok.inj (started.symm.trans started')
    have ran : Draft.run { schema := s, base, settings } calls = ⟨d, none⟩ :=
      Outcome.result_ok ran
    have scope : Draft.scope { schema := s, base, settings } = scopeOf s base settings := rfl
    rw [← scope]
    exact Draft.readable_of_run ran
  · rintro ⟨readable, can⟩
    obtain ⟨d, success⟩ := Draft.uses_succeed (Draft.records_nil s base settings) can
    have ran := (Draft.run_eq (d := { schema := s, base, settings }) readable).trans success
    refine ⟨d, ?_⟩
    simp only [draftOf, started, Draft.withSettings, bind, Except.bind, ran]
    rfl

end

end StarQuery.Query
