import StarQuery.Proofs.Query.Run

/-!
What a draft holds after a run. Main statement: the draft that a successful run makes is read off
from the uses that the run asked for, where a column selected again under its name counts for
nothing, and the joins are those of the tables that the uses call for.
-/
namespace StarQuery.Query

open Model (Schema Table)
open Settings (CompilerSettings)
open Sql (Direction Expr Join)

def tablesNeeded (base : Table) (owners : List Table) : List Table :=
  (owners.filter fun t => !t.same base).eraseDupsBy fun t u => t.name == u.name

/-- The draft `d` holds what the uses add to the draft `start`, which has nothing yet. -/
structure Draft.Records (start : Draft) (uses : List Use) (d : Draft) : Prop where
  scope : d.scope = start.scope
  selected : d.selected = uses.filterMap Use.selected?
  conditions : d.conditions = uses.filterMap Use.condition?
  groupConditions : d.groupConditions = uses.filterMap Use.groupCondition?
  ordering : d.ordering = uses.filterMap Use.orderTerm?
  limit : d.limit = (uses.filterMap Use.limit?).getLast?
  joins : (tablesNeeded start.base (uses.flatMap Use.owners)).mapM start.joinOf = .ok d.joins

theorem roleFor?_some {base owner : Table} {role : Model.Role}
    (found : roleFor? base owner = some role) :
    ∃ f, base.fact? = some f ∧ f.role? owner.name = some role := by
  cases hbase : base.fact? with
  | none => simp [roleFor?, hbase] at found
  | some f =>
    refine ⟨f, rfl, ?_⟩
    cases owner with
    | fact g => simp [roleFor?, hbase] at found
    | dimension d => simpa [roleFor?, hbase, Table.name] using found
    | role r =>
      have filtered :
          (f.role? r.name).filter (·.dimension.name == r.dimension.name) = some role := by
        simpa [roleFor?, hbase] using found
      exact (Option.filter_eq_some_iff.mp filtered).1

theorem tablesNeeded_concat (base : Table) (ts : List Table) (t : Table) :
    tablesNeeded base (ts ++ [t]) =
      if t.same base || (tablesNeeded base ts).any (fun u => t.name == u.name) then
        tablesNeeded base ts
      else tablesNeeded base ts ++ [t] := by
  unfold tablesNeeded
  cases h : t.same base with
  | true => simp [h]
  | false =>
    rw [List.filter_append, List.filter_cons_of_pos (by simp [h]), List.filter_nil,
      eraseDupsBy_concat]
    rfl

namespace Draft

theorem joinOf_ok {d : Draft} {owner : Table} {join : Join} (found : d.joinOf owner = .ok join) :
    ∃ f role, d.base.fact? = some f ∧ f.role? owner.name = some role ∧
      join = ⟨owner.source, (Expr.ofTable owner.name d.settings.surrogateKey).equals
        (.ofTable d.base.name role.foreignKey)⟩ := by
  unfold joinOf at found
  split at found
  · next role hrole =>
    obtain ⟨f, hf, hname⟩ := roleFor?_some hrole
    cases found
    exact ⟨f, role, hf, hname, rfl⟩
  · cases found

theorem base_eq {d start : Draft} (same : d.scope = start.scope) : d.base = start.base :=
  Option.some.inj (congrArg Scope.base same)

theorem eq_of_parts {d d' : Draft} (scope : d'.scope = d.scope)
    (selected : d'.selected = d.selected) (ordering : d'.ordering = d.ordering)
    (limit : d'.limit = d.limit) :
    d' = { d with
      conditions := d'.conditions
      groupConditions := d'.groupConditions
      joins := d'.joins } := by
  have schema : d'.schema = d.schema := congrArg Scope.schema scope
  have base : d'.base = d.base := base_eq scope
  have settings : d'.settings = d.settings := congrArg Scope.settings scope
  cases d
  cases d'
  cases schema
  cases base
  cases settings
  cases selected
  cases ordering
  cases limit
  rfl

theorem joinOf_congr {d start : Draft} (same : d.scope = start.scope) (t : Table) :
    d.joinOf t = start.joinOf t := by
  have hbase := base_eq same
  have hsettings : d.settings = start.settings := congrArg Scope.settings same
  rw [joinOf, joinOf, hbase, hsettings]

theorem joinOwner_ok {owner : Table} {d d' : Draft} (success : joinOwner owner d = ⟨d', none⟩) :
    ((owner.same d.base || d.hasJoin owner.name) = true ∧ d' = d) ∨
      ((owner.same d.base || d.hasJoin owner.name) = false ∧
        ∃ join, d.joinOf owner = .ok join ∧ d' = { d with joins := d.joins ++ [join] }) := by
  unfold joinOwner at success
  split at success
  · next present => exact Or.inl ⟨present, (congrArg Outcome.draft success).symm⟩
  · next absent =>
    refine Or.inr ⟨by simpa using absent, ?_⟩
    split at success
    · next join hjoin => exact ⟨join, hjoin, (congrArg Outcome.draft success).symm⟩
    · cases success

/-- The joins of `d` are those of the tables that have been needed so far. -/
def Joined (start : Draft) (ts : List Table) (d : Draft) : Prop :=
  d.scope = start.scope ∧ (tablesNeeded start.base ts).mapM start.joinOf = .ok d.joins

theorem Joined.hasJoin {start d : Draft} {ts : List Table} (joined : Joined start ts d)
    (name : String) :
    d.hasJoin name = (tablesNeeded start.base ts).any (fun t => name == t.name) := by
  have related := mapM_eq_ok_iff.mp joined.2
  unfold Draft.hasJoin
  generalize d.joins = joins at related
  generalize tablesNeeded start.base ts = needed at related
  induction related with
  | nil => rfl
  | @cons t join _ _ first _ ih =>
    obtain ⟨f, role, -, -, rfl⟩ := joinOf_ok first
    rw [List.any_cons, List.any_cons, ih, Table.source_name, Bool.beq_comm]

theorem Joined.joinOwner {start d d' : Draft} {ts : List Table} {t : Table}
    (joined : Joined start ts d) (success : joinOwner t d = ⟨d', none⟩) :
    Joined start (ts ++ [t]) d' ∧ d' = { d with joins := d'.joins } := by
  have hbase := base_eq joined.1
  have needed := tablesNeeded_concat start.base ts t
  rw [← joined.hasJoin, ← hbase] at needed
  rcases joinOwner_ok success with ⟨present, rfl⟩ | ⟨absent, join, hjoin, rfl⟩
  · refine ⟨⟨joined.1, ?_⟩, rfl⟩
    rw [← hbase, needed, if_pos present, hbase]
    exact joined.2
  · refine ⟨⟨joined.1, ?_⟩, rfl⟩
    rw [← hbase, needed, absent, if_neg Bool.false_ne_true, hbase, mapM_eq_ok_iff]
    rw [joinOf_congr joined.1] at hjoin
    exact List.rel_append (mapM_eq_ok_iff.mp joined.2) (List.Forall₂.cons hjoin List.Forall₂.nil)

theorem Joined.joinOwners {start d d' : Draft} {ts : List Table} {p : Projection}
    (joined : Joined start ts d) (success : d.joinOwners p = ⟨d', none⟩) :
    Joined start (ts ++ p.owners) d' ∧ d' = { d with joins := d'.joins } := by
  unfold Draft.joinOwners at success
  generalize p.owners = owners at success ⊢
  induction owners generalizing ts d with
  | nil =>
    obtain rfl : d = d' := congrArg Outcome.draft success
    rw [List.append_nil]
    exact ⟨joined, rfl⟩
  | cons t rest ih =>
    obtain ⟨between, first, more⟩ := Outcome.andThen_ok success
    obtain ⟨joinedFirst, hbetween⟩ := joined.joinOwner first
    obtain ⟨joinedAll, hd'⟩ := ih joinedFirst more
    rw [List.append_assoc, List.singleton_append] at joinedAll
    refine ⟨joinedAll, ?_⟩
    rw [hd', hbetween]

end Draft

def Use.extend (u : Use) (d : Draft) (joins : List Join) : Draft :=
  { d with
    selected := d.selected ++ u.selected?.toList
    conditions := d.conditions ++ u.condition?.toList
    groupConditions := d.groupConditions ++ u.groupCondition?.toList
    ordering := d.ordering ++ u.orderTerm?.toList
    limit := u.limit?.or d.limit
    joins }

theorem Use.apply_ok {start d d' : Draft} {ts : List Table} {u : Use}
    (joined : Draft.Joined start ts d) (success : u.apply d = ⟨d', none⟩) :
    (∃ p, u = .select p ∧ d.hasColumn p.name = true ∧ d' = d) ∨
      ((∀ p, u = .select p → d.hasColumn p.name = false) ∧
        Draft.Joined start (ts ++ u.owners) d' ∧ d' = u.extend d d'.joins) := by
  cases u with
  | select p =>
    change d.selectColumn p = ⟨d', none⟩ at success
    unfold Draft.selectColumn at success
    split at success
    · next present => exact Or.inl ⟨p, rfl, present, (congrArg Outcome.draft success).symm⟩
    · next absent =>
      obtain ⟨between, first, more⟩ := Outcome.andThen_ok success
      obtain ⟨joinedAll, hbetween⟩ := joined.joinOwners first
      obtain rfl := congrArg Outcome.draft more
      refine Or.inr ⟨?_, joinedAll, ?_⟩
      · rintro q ⟨⟩
        simpa using absent
      · rw [hbetween]
        simp [extend, selected?, condition?, groupCondition?, orderTerm?, limit?]
  | filter f =>
    change d.addFilter f = ⟨d', none⟩ at success
    obtain ⟨between, first, more⟩ := Outcome.andThen_ok success
    obtain ⟨joinedAll, hbetween⟩ := joined.joinOwners first
    refine Or.inr ⟨fun p h => (by cases h), ?_⟩
    split at more
    · next aggregate =>
      obtain rfl := congrArg Outcome.draft more
      refine ⟨joinedAll, ?_⟩
      rw [hbetween]
      simp [extend, selected?, condition?, groupCondition?, orderTerm?, limit?, aggregate]
    · next plain =>
      obtain rfl := congrArg Outcome.draft more
      refine ⟨joinedAll, ?_⟩
      rw [hbetween]
      simp [extend, selected?, condition?, groupCondition?, orderTerm?, limit?, plain]
  | order p direction =>
    change d.orderColumn direction p = ⟨d', none⟩ at success
    obtain ⟨between, first, more⟩ := Outcome.andThen_ok success
    obtain ⟨joinedAll, hbetween⟩ := joined.joinOwners first
    obtain rfl := congrArg Outcome.draft more
    refine Or.inr ⟨fun p h => (by cases h), joinedAll, ?_⟩
    rw [hbetween]
    simp [extend, selected?, condition?, groupCondition?, orderTerm?, limit?]
  | limit rows =>
    obtain rfl := congrArg Outcome.draft success
    refine Or.inr ⟨fun p h => (by cases h), ?_, ?_⟩
    · rw [owners, column?, Option.elim_none, List.append_nil]
      exact joined
    · simp [apply, Draft.withLimit, extend, selected?, condition?, groupCondition?, orderTerm?,
        limit?]

namespace Draft

theorem Records.joined {start d : Draft} {us : List Use} (records : Records start us d) :
    Joined start (us.flatMap Use.owners) d :=
  ⟨records.scope, records.joins⟩

theorem any_selected (us : List Use) (p : Projection) :
    (us.filterMap Use.selected?).any (·.name == p.name) = us.any (Use.select p).repeats := by
  induction us with
  | nil => rfl
  | cons u rest ih =>
    cases u with
    | select q =>
      have head : (Use.select p).repeats (.select q) = (q.name == p.name) := Bool.beq_comm
      rw [List.any_cons, head, ← ih]
      rfl
    | filter f => exact ih
    | order q direction => exact ih
    | limit rows => exact ih

theorem Records.hasColumn {start d : Draft} {us : List Use} (records : Records start us d)
    (p : Projection) : d.hasColumn p.name = us.any (Use.select p).repeats := by
  rw [Draft.hasColumn, records.selected, any_selected]

theorem Records.extend {start d : Draft} {us : List Use} {u : Use} {joins : List Join}
    (records : Records start us d)
    (joined : Joined start (us.flatMap Use.owners ++ u.owners) (u.extend d joins)) :
    Records start (us ++ [u]) (u.extend d joins) where
  scope := joined.1
  selected := by rw [filterMap_concat, ← records.selected]; rfl
  conditions := by rw [filterMap_concat, ← records.conditions]; rfl
  groupConditions := by rw [filterMap_concat, ← records.groupConditions]; rfl
  ordering := by rw [filterMap_concat, ← records.ordering]; rfl
  limit := by
    rw [filterMap_concat, List.getLast?_append, ← records.limit]
    cases h : u.limit? <;> simp [Use.extend, h]
  joins := by simpa using joined.2

theorem Records.apply {start d d' : Draft} {us : List Use} {u : Use}
    (records : Records start us d) (success : u.apply d = ⟨d', none⟩) :
    Records start (if us.any u.repeats then us else us ++ [u]) d' := by
  rcases Use.apply_ok records.joined success with ⟨p, rfl, present, rfl⟩ | ⟨fresh, joined, hd'⟩
  · rw [records.hasColumn] at present
    rw [if_pos present]
    exact records
  · have absent : us.any u.repeats = false := by
      cases u with
      | select p =>
        rw [← records.hasColumn]
        exact fresh p rfl
      | filter f => simp [Use.repeats]
      | order p direction => simp [Use.repeats]
      | limit rows => simp [Use.repeats]
    rw [absent, if_neg Bool.false_ne_true, hd']
    exact records.extend (hd' ▸ joined)

end Draft

namespace Draft

section

variable {start d : Draft} {uses : List Use} {p : Projection} {e : Expr}

theorem Records.mem_selected (records : Records start uses d) (member : p ∈ d.selected) :
    .select p ∈ uses := by
  rw [records.selected] at member
  obtain ⟨u, hu, hp⟩ := List.mem_filterMap.mp member
  cases u with
  | select q =>
    cases hp
    exact hu
  | _ => cases hp

theorem Records.mem_ordering (records : Records start uses d) {direction : Direction}
    (member : (p, direction) ∈ d.ordering) : .order p direction ∈ uses := by
  rw [records.ordering] at member
  obtain ⟨u, hu, hp⟩ := List.mem_filterMap.mp member
  cases u with
  | order q direction' =>
    cases hp
    exact hu
  | _ => cases hp

theorem Records.mem_conditions (records : Records start uses d) (member : e ∈ d.conditions) :
    ∃ f, .filter f ∈ uses ∧ f.column.isAggregate = false ∧ e = f.condition := by
  rw [records.conditions] at member
  obtain ⟨u, hu, he⟩ := List.mem_filterMap.mp member
  cases u with
  | filter f =>
    cases aggregate : f.column.isAggregate with
    | true => simp [Use.condition?, aggregate] at he
    | false =>
      obtain rfl : f.condition = e := by simpa [Use.condition?, aggregate] using he
      exact ⟨f, hu, aggregate, rfl⟩
  | _ => cases he

theorem Records.mem_groupConditions (records : Records start uses d)
    (member : e ∈ d.groupConditions) :
    ∃ f, .filter f ∈ uses ∧ f.column.isAggregate = true ∧ e = f.condition := by
  rw [records.groupConditions] at member
  obtain ⟨u, hu, he⟩ := List.mem_filterMap.mp member
  cases u with
  | filter f =>
    cases aggregate : f.column.isAggregate with
    | true =>
      obtain rfl : f.condition = e := by simpa [Use.groupCondition?, aggregate] using he
      exact ⟨f, hu, aggregate, rfl⟩
    | false => simp [Use.groupCondition?, aggregate] at he
  | _ => cases he

end

theorem records_of_uses {start d : Draft} {uses : List Use} (empty : Records start [] start)
    (success : Outcome.each Use.apply uses start = ⟨d, none⟩) :
    Records start (uses.eraseDupsBy Use.repeats) d := by
  induction uses using List.reverseRecOn generalizing d with
  | nil =>
    obtain rfl : start = d := congrArg Outcome.draft success
    exact empty
  | append_singleton uses u ih =>
    rw [Outcome.each_append] at success
    obtain ⟨between, first, last⟩ := Outcome.andThen_ok success
    rw [Outcome.each_singleton] at last
    rw [eraseDupsBy_concat]
    exact (ih first).apply last

theorem records_nil (s : Schema) (base : Table) (settings : CompilerSettings) :
    Records { schema := s, base, settings } [] { schema := s, base, settings } where
  scope := rfl
  selected := rfl
  conditions := rfl
  groupConditions := rfl
  ordering := rfl
  limit := rfl
  joins := rfl

end Draft

def scopeOf (s : Schema) (base : Table) (settings : CompilerSettings) : Scope :=
  { schema := s, base := some base, settings }

theorem draftOf_ok {s : Schema} {base : String} {settings : CompilerSettings} {calls : List Call}
    {d : Draft} (made : draftOf s base settings calls = .ok d) :
    ∃ table, s.table? base = some table ∧
      Draft.Records { schema := s, base := table, settings }
        (accepted (scopeOf s table settings) calls) d := by
  obtain ⟨start, started, ran⟩ := bind_ok made
  unfold Draft.start at started
  split at started
  · next table found =>
    cases started
    have run := Draft.run_ok (Outcome.result_ok ran)
    exact ⟨table, found, Draft.records_of_uses (Draft.records_nil s table settings) run⟩
  · cases started

theorem nodup_selected (s : Scope) (calls : List Call) :
    (((accepted s calls).filterMap Use.selected?).map Projection.name).Nodup := by
  have distinct := pairwise_eraseDupsBy Use.repeats (calls.flatMap (Call.uses s))
  rw [List.Nodup, List.pairwise_map, List.pairwise_filterMap]
  refine distinct.imp fun {u v} fresh p hp q hq => ?_
  cases u with
  | select p' =>
    cases v with
    | select q' =>
      cases hp
      cases hq
      exact fun h => by simp [Use.repeats, h] at fresh
    | _ => cases hq
  | _ => cases hp

theorem Draft.Records.nodup_names {start d : Draft} {calls : List Call}
    (records : Draft.Records start (accepted start.scope calls) d) :
    (d.selected.map Projection.name).Nodup := by
  rw [records.selected]
  exact nodup_selected start.scope calls

theorem planOf_ok {s : Schema} {base : String} {settings : CompilerSettings} {calls : List Call}
    {plan : Plan} (planned : planOf s base settings calls = .ok plan) :
    ∃ d, draftOf s base settings calls = .ok d ∧ d.plan = .ok plan :=
  bind_ok planned

end StarQuery.Query
