import StarQuery.Proofs.Query.History

/-!
Settings that change between operations. A reference is read under the settings that are in force at
the time. Main statement: every column that a draft has after operations, selected, filtered by or
ordered by, is denoted by a reference under settings that were in force during the operations.
-/
namespace StarQuery.Query

open Model (Schema Table)
open Settings (CompilerSettings)

namespace Draft

def settingsDuring (d : Draft) : List Operation → List CompilerSettings
  | [] => [d.settings]
  | op :: rest => d.settings :: (op.apply d).draft.settingsDuring rest

def columnsAfter (d : Draft) (ops : List Operation) : List Projection :=
  (d.after ops).selected ++ (d.filtersAfter ops).map Filter.column ++
    (d.after ops).ordering.map Prod.fst

end Draft

def OffersUnder (s : Schema) (base : Table) (inForce : List CompilerSettings) (p : Projection) :
    Prop :=
  ∃ settings ∈ inForce, (scopeOf s base settings).Yields p

/-- The draft has columns that were denoted under settings that were in force. -/
structure Draft.Configured (s : Schema) (base : Table) (inForce : List CompilerSettings)
    (d : Draft) : Prop where
  sameSchema : d.schema = s
  sameBase : d.base = base
  settings : d.settings ∈ inForce
  selected : ∀ p ∈ d.selected, OffersUnder s base inForce p
  ordering : ∀ term ∈ d.ordering, OffersUnder s base inForce term.1

theorem Draft.joinOwners_draft (p : Projection) (d : Draft) :
    ∃ joins, (d.joinOwners p).draft = { d with joins } := by
  refine Outcome.each_keeps (P := fun x => ∃ joins, x = { d with joins }) ?_ p.owners ⟨d.joins, rfl⟩
  rintro owner _ ⟨joins, rfl⟩
  unfold joinOwner
  split
  · exact ⟨joins, rfl⟩
  · split
    · exact ⟨_, rfl⟩
    · exact ⟨joins, rfl⟩

theorem Draft.andThen_draft (p : Projection) (d : Draft) {next : Draft → Outcome}
    {result : List Sql.Join → Draft} (made : ∀ joins, (next { d with joins }).draft = result joins) :
    ∃ joins, ((d.joinOwners p).andThen next).draft = { d with joins } ∨
      ((d.joinOwners p).andThen next).draft = result joins := by
  obtain ⟨joins, joined⟩ := d.joinOwners_draft p
  refine ⟨joins, ?_⟩
  cases error : (d.joinOwners p).error? with
  | some e =>
    rw [Outcome.andThen, error]
    exact Or.inl joined
  | none =>
    rw [Outcome.andThen, error, joined]
    exact Or.inr (made joins)

theorem Use.apply_draft (u : Use) (d : Draft) :
    ∃ joins, (u.apply d).draft = { d with joins } ∨ (u.apply d).draft = u.extend d joins := by
  cases u with
  | select p =>
    rw [apply, Draft.selectColumn]
    split
    · exact ⟨d.joins, Or.inl rfl⟩
    · exact d.andThen_draft p fun joins => by
        simp [extend, selected?, condition?, groupCondition?, orderTerm?, limit?]
  | filter f =>
    refine d.andThen_draft f.column fun joins => ?_
    split
    · next aggregate =>
      simp [extend, selected?, condition?, groupCondition?, orderTerm?, limit?, aggregate]
    · next plain =>
      simp [extend, selected?, condition?, groupCondition?, orderTerm?, limit?, plain]
  | order p direction =>
    exact d.andThen_draft p fun joins => by
      simp [extend, selected?, condition?, groupCondition?, orderTerm?, limit?]
  | limit rows =>
    refine ⟨d.joins, Or.inr ?_⟩
    simp [apply, Draft.withLimit, extend, selected?, condition?, groupCondition?, orderTerm?,
      limit?]

namespace Draft

theorem selectOne_draft (reference : String) (d : Draft) :
    (selectOne reference d).draft =
      (Outcome.each Use.apply (d.scope.selections reference) d).draft := by
  rw [selectOne, Scope.selections, Scope.columns]
  cases parsed : d.scope.parse reference with
  | error e => rfl
  | ok columns => exact (congrArg Outcome.draft (Outcome.each_map Use.apply .select columns d)).symm

theorem filterOne_draft (predicate : String) (d : Draft) :
    (filterOne predicate d).draft =
      (Outcome.each Use.apply (d.scope.filterings predicate) d).draft := by
  rw [filterOne, Scope.filterings]
  cases read : d.scope.readFilter predicate with
  | error e => rfl
  | ok f => exact (congrArg Outcome.draft (Outcome.each_singleton Use.apply (.filter f) d)).symm

theorem orderOne_draft (reference : String) (d : Draft) :
    (orderOne reference d).draft =
      (Outcome.each Use.apply (d.scope.orderings reference) d).draft := by
  simp only [orderOne, Scope.orderings, Scope.columns]
  cases parsed : d.scope.parse (readOrder reference).1 with
  | error e => rfl
  | ok columns =>
    exact (congrArg Outcome.draft
      (Outcome.each_map Use.apply (.order · (readOrder reference).2) columns d)).symm

end Draft

def Use.Offered (s : Scope) (u : Use) : Prop := ∀ p, u.column? = some p → s.Yields p

def UsesKeep (P : Draft → Prop) : Prop :=
  ∀ (u : Use) (d : Draft), u.Offered d.scope → P d → P (u.apply d).draft

namespace UsesKeep

variable {P : Draft → Prop} {d : Draft}

theorem each (keep : UsesKeep P) {uses : List Use} (offered : ∀ u ∈ uses, u.Offered d.scope)
    (kept : P d) : P (Outcome.each Use.apply uses d).draft := by
  -- The scope stays the same, so that what was read at the start can be used later.
  have step : ∀ u ∈ uses, ∀ between, between.scope = d.scope ∧ P between →
      (u.apply between).draft.scope = d.scope ∧ P (u.apply between).draft := by
    rintro u member between ⟨same, kept⟩
    refine ⟨(u.apply_scope between).trans same, keep u between ?_ kept⟩
    rw [same]
    exact offered u member
  exact (Outcome.each_keeps_mem (P := fun x => x.scope = d.scope ∧ P x) step ⟨rfl, kept⟩).2

theorem reading (keep : UsesKeep P) {one : String → Draft → Outcome}
    {parts : Scope → String → List Use}
    (drafts : ∀ text d, (one text d).draft = (Outcome.each Use.apply (parts d.scope text) d).draft)
    (offered : ∀ s text, ∀ u ∈ parts s text, u.Offered s) (texts : List String) (kept : P d) :
    P (Outcome.each one texts d).draft := by
  refine Outcome.each_keeps (fun text between kept => ?_) texts kept
  rw [drafts]
  exact keep.each (offered between.scope text) kept

/-- What uses keep, calls keep, whether they fail or not. -/
theorem call (keep : UsesKeep P) (c : Call) (kept : P d) : P (c.apply d).draft := by
  cases c with
  | select references =>
    refine keep.reading Draft.selectOne_draft (fun s text u member p column => ?_) references kept
    exact Call.uses_yield (c := .select [text]) (by simpa [Call.uses] using member) column
  | filter predicates =>
    refine keep.reading Draft.filterOne_draft (fun s text u member p column => ?_) predicates kept
    exact Call.uses_yield (c := .filter [text]) (by simpa [Call.uses] using member) column
  | order references =>
    refine keep.reading Draft.orderOne_draft (fun s text u member p column => ?_) references kept
    exact Call.uses_yield (c := .order [text]) (by simpa [Call.uses] using member) column
  | limit rows => exact keep (.limit rows) d (fun p column => by cases column) kept

end UsesKeep

namespace Draft

theorem settings_mem_during (d : Draft) (ops : List Operation) : d.settings ∈ d.settingsDuring ops := by
  cases ops <;> exact List.mem_cons_self

theorem yields_of_admitted {d : Draft} {predicates : List String} {f : Filter}
    (member : f ∈ d.admitted predicates) : d.scope.Yields f.column := by
  induction predicates generalizing d with
  | nil => cases member
  | cons predicate rest ih =>
    rw [admitted] at member
    split at member
    · cases member
    · next g read =>
      split at member
      · cases member
      · rcases List.mem_cons.mp member with rfl | later
        · exact Scope.readFilter_ok read
        · have sameScope : (d.addFilter g).draft.scope = d.scope := Use.apply_scope (.filter g) d
          rw [← sameScope]
          exact ih later

end Draft

namespace Draft.Configured

variable {s : Schema} {base : Table} {inForce : List CompilerSettings} {d : Draft} {p : Projection}

theorem offers (configured : d.Configured s base inForce) (yields : d.scope.Yields p) :
    OffersUnder s base inForce p := by
  refine ⟨d.settings, configured.settings, ?_⟩
  rw [scopeOf, ← configured.sameSchema, ← configured.sameBase]
  exact yields

theorem use (u : Use) (offers : ∀ p, u.column? = some p → OffersUnder s base inForce p)
    (configured : d.Configured s base inForce) : (u.apply d).draft.Configured s base inForce := by
  obtain ⟨joins, unchanged | added⟩ := u.apply_draft d
  · rw [unchanged]
    exact { configured with }
  · rw [added]
    refine { configured with selected := fun p member => ?_, ordering := fun term member => ?_ }
    · rcases List.mem_append.mp member with old | new
      · exact configured.selected p old
      · cases u with
        | select q => exact offers p (Option.mem_toList.mp new)
        | _ => cases new
    · rcases List.mem_append.mp member with old | new
      · exact configured.ordering term old
      · cases u with
        | order q direction =>
          obtain rfl := List.mem_singleton.mp new
          exact offers q rfl
        | _ => cases new

theorem apply (op : Operation) (next : (op.apply d).draft.settings ∈ inForce)
    (configured : d.Configured s base inForce) :
    (op.apply d).draft.Configured s base inForce := by
  cases op with
  | configure settings => exact { configured with settings := next }
  | call c =>
    have keep : UsesKeep (Configured s base inForce) := fun u between offered kept =>
      kept.use u fun p column => kept.offers (offered p column)
    exact keep.call c configured

theorem after {ops : List Operation} (during : d.settingsDuring ops ⊆ inForce)
    (configured : d.Configured s base inForce) : (d.after ops).Configured s base inForce := by
  induction ops generalizing d with
  | nil => exact configured
  | cons op rest ih =>
    have later := (List.cons_subset.mp during).2
    exact ih later (configured.apply op (later (settings_mem_during _ rest)))

theorem offers_filter {ops : List Operation} (during : d.settingsDuring ops ⊆ inForce)
    (configured : d.Configured s base inForce) {f : Filter} (member : f ∈ d.filtersAfter ops) :
    OffersUnder s base inForce f.column := by
  induction ops generalizing d with
  | nil => cases member
  | cons op rest ih =>
    have later := (List.cons_subset.mp during).2
    rcases List.mem_append.mp member with now | after
    · cases op with
      | configure settings => cases now
      | call c =>
        cases c with
        | filter predicates => exact configured.offers (yields_of_admitted now)
        | _ => cases now
    · exact ih later (configured.apply op (later (settings_mem_during _ rest))) after

end Draft.Configured

/-- Whatever operations follow on the start of a query, its columns are denoted by references under
settings that were in force. -/
theorem offers_after_start {s : Schema} {name : String} {start : Draft}
    (started : Draft.start s name = .ok start) (ops : List Operation) :
    ∃ base, s.table? name = some base ∧
      ∀ p ∈ start.columnsAfter ops, OffersUnder s base (start.settingsDuring ops) p := by
  unfold Draft.start at started
  split at started
  · next base found =>
    cases started
    have empty : Draft.Configured s base (Draft.settingsDuring { schema := s, base } ops)
        { schema := s, base } :=
      { sameSchema := rfl
        sameBase := rfl
        settings := Draft.settings_mem_during _ ops
        selected := by simp
        ordering := by simp }
    have made := empty.after (List.Subset.refl _)
    refine ⟨base, found, fun p member => ?_⟩
    rcases List.mem_append.mp member with front | ordered
    · rcases List.mem_append.mp front with selected | filtered
      · exact made.selected p selected
      · obtain ⟨f, hf, rfl⟩ := List.mem_map.mp filtered
        exact empty.offers_filter (List.Subset.refl _) hf
    · obtain ⟨term, hterm, rfl⟩ := List.mem_map.mp ordered
      exact made.ordering term hterm
  · cases started

end StarQuery.Query
