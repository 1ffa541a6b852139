import StarQuery.Proofs.Query.History
import StarQuery.Proofs.Query.Planned
import StarQuery.Proofs.Sql.Templates
import StarQuery.Query.Request

/-!
What the values of filters can do to a query. Main statement: two requests that differ in nothing
but the texts of their filter values have, where both have plans, plans that are one template, with
literals in the places of the values.
-/
namespace StarQuery.Query

open Model (DataType Schema Table)
open Settings (CompilerSettings)
open Sql (Expr InStep Literal LiteralKind Statement Token)

def literalKind : DataType → LiteralKind
  | .integer | .year => .int
  | .decimal | .float | .money | .percent => .float
  | .boolean => .bool
  | .string | .text | .date | .dateTime | .timestamp | .time | .binary => .text

def predicateShape (predicate : String) : Option (String × Nat) :=
  (Text.cut ':' predicate).map fun (reference, values) =>
    (reference, (Text.split ',' values).length)

/-- A request apart from the values of its filters. -/
structure Request.Shape where
  base : String
  select : List String
  filter : List (Option (String × Nat))
  order : List String
  limit : Option UInt64
  deriving DecidableEq

def Request.shape (r : Request) : Request.Shape :=
  { base := r.base, select := r.select, filter := r.filter.map predicateShape, order := r.order
    limit := r.limit }

namespace Filter

def literals (f : Filter) : List Literal := f.values.map .ofValue

def Typed (f : Filter) : Prop := ∀ l ∈ f.literals, l.kind = literalKind f.column.dataType

/-- Both filter by one column, with as many values, all of the kind that its type demands. -/
structure Alike (f f' : Filter) : Prop where
  column : f'.column = f.column
  count : f'.values.length = f.values.length
  typed : f.Typed
  typed' : f'.Typed

def blank (f : Filter) : Filter := { f with values := List.replicate f.values.length .null }

end Filter

def filtersOnRows (fs : List Filter) : List Filter := fs.filter fun f => !f.column.isAggregate

def filtersOnGroups (fs : List Filter) : List Filter := fs.filter fun f => f.column.isAggregate

def placedLiterals (fs : List Filter) : List Literal :=
  (filtersOnRows fs).flatMap Filter.literals ++ (filtersOnGroups fs).flatMap Filter.literals

structure Plan.Filtered (fs : List Filter) (p : Plan) : Prop where
  condition : p.statement.condition = conjunction ((filtersOnRows fs).map Filter.condition)
  having : p.statement.having = conjunction ((filtersOnGroups fs).map Filter.condition)

/-- The plans `p` with filters `fs` and `p'` with `fs'` differ in the literals of the filters only:
they have the same columns, with their names and labels, and the same clauses but for conditions. -/
structure Plan.Alike (fs fs' : List Filter) (p p' : Plan) : Prop where
  columns : p'.columns = p.columns
  rest : p'.statement = { p.statement with
    condition := p'.statement.condition
    having := p'.statement.having }
  filtered : p.Filtered fs
  filtered' : p'.Filtered fs'
  tokens : InStep (placedLiterals fs) (placedLiterals fs') p.statement.tokens p'.statement.tokens

theorem readValue?_kind {dataType : DataType} {raw : String} {v : Value}
    (read : readValue? dataType raw = some v) :
    (Literal.ofValue v).kind = literalKind dataType := by
  unfold readValue? at read
  split at read
  · cases read
  · cases dataType
    case integer | year =>
      obtain ⟨n, -, rfl⟩ := Option.map_eq_some_iff.mp read
      rfl
    case decimal | float | money | percent =>
      obtain ⟨x, -, rfl⟩ := Option.map_eq_some_iff.mp read
      rfl
    case boolean =>
      obtain ⟨b, -, rfl⟩ := Option.map_eq_some_iff.mp read
      rfl
    case string | text | date | dateTime | timestamp | time | binary =>
      cases read
      rfl

theorem Scope.readFilter_shape {s : Scope} {predicate : String} {f : Filter}
    (read : s.readFilter predicate = .ok f) :
    ∃ reference, predicateShape predicate = some (reference, f.values.length) ∧
      s.single reference = .ok f.column ∧ f.Typed := by
  obtain ⟨reference, raw, cut, single, readEach⟩ := Scope.readFilter_parts read
  have sameLength := readEach.length_eq
  rw [List.length_map] at sameLength
  refine ⟨reference, ?_, single, ?_⟩
  · simp only [predicateShape, cut, Option.map_some, sameLength]
  · intro l member
    obtain ⟨v, hv, rfl⟩ := List.mem_map.mp member
    obtain ⟨piece, -, readOne⟩ := exists_left_of_forall₂ readEach hv
    exact readValue?_kind readOne

theorem alike_of_shape {s : Scope} {predicate predicate' : String} {f f' : Filter}
    (same : predicateShape predicate' = predicateShape predicate)
    (read : s.readFilter predicate = .ok f) (read' : s.readFilter predicate' = .ok f') :
    f.Alike f' := by
  obtain ⟨reference, shape, single, typed⟩ := Scope.readFilter_shape read
  obtain ⟨reference', shape', single', typed'⟩ := Scope.readFilter_shape read'
  rw [shape, shape'] at same
  obtain ⟨rfl, count⟩ := Prod.mk.inj (Option.some.inj same)
  exact ⟨Except.ok.inj (single'.symm.trans single), count, typed, typed'⟩

theorem alike_of_shapes {s : Scope} {predicates predicates' : List String} {fs fs' : List Filter}
    (same : predicates'.map predicateShape = predicates.map predicateShape)
    (read : predicates.mapM s.readFilter = .ok fs)
    (read' : predicates'.mapM s.readFilter = .ok fs') : List.Forall₂ Filter.Alike fs fs' := by
  rw [mapM_eq_ok_iff] at read read'
  induction read generalizing predicates' fs' with
  | nil =>
    obtain rfl := List.map_eq_nil_iff.mp same
    cases read'
    exact .nil
  | cons first _ ih =>
    cases read' with
    | nil => cases same
    | cons first' others' =>
      obtain ⟨sameFirst, sameRest⟩ := List.cons.inj same
      exact .cons (alike_of_shape sameFirst first first') (ih sameRest others')

namespace Filter.Alike

variable {f f' : Filter}

theorem sameKinds (alike : f.Alike f') :
    List.Forall₂ (fun v v' => (Literal.ofValue v').kind = (Literal.ofValue v).kind)
      f.values f'.values := by
  refine List.forall₂_iff_zip.mpr ⟨alike.count.symm, fun {v v'} both => ?_⟩
  obtain ⟨hv, hv'⟩ := List.of_mem_zip both
  rw [alike.typed _ (List.mem_map_of_mem hv), alike.typed' _ (List.mem_map_of_mem hv'),
    alike.column]

theorem blank_eq (alike : f.Alike f') : f'.blank = f.blank := by
  rw [blank, blank, alike.count, alike.column]

theorem condition_inStep (alike : f.Alike f') :
    InStep f.literals f'.literals f.condition.tokens f'.condition.tokens := by
  obtain ⟨column, values⟩ := f
  obtain ⟨column', values'⟩ := f'
  obtain rfl : column' = column := alike.column
  have kinds : List.Forall₂ (fun v v' => (Literal.ofValue v').kind = (Literal.ofValue v).kind)
    values values' := alike.sameKinds
  have literals : List.Forall₂ (fun l l' => l'.kind = l.kind)
      (values.map Literal.ofValue) (values'.map Literal.ofValue) :=
    List.forall₂_map_left_iff.mpr (List.forall₂_map_right_iff.mpr kinds)
  have asked := InStep.isIn column'.expr literals
  rw [List.map_map, List.map_map] at asked
  cases kinds with
  | nil => exact asked
  | cons first rest =>
    cases rest with
    | nil => exact InStep.equals column'.expr first
    | cons _ _ => exact asked

end Filter.Alike

theorem Filter.condition_bare (f : Filter) : f.condition.needsParens 2 = false := by
  unfold Filter.condition
  split <;> rfl

theorem foldl_inStep {fs fs' : List Filter} (alike : List.Forall₂ Filter.Alike fs fs')
    {all all' : Expr} {ls ls' : List Literal} (step : InStep ls ls' all.tokens all'.tokens) :
    InStep (ls ++ fs.flatMap Filter.literals) (ls' ++ fs'.flatMap Filter.literals)
      ((fs.map Filter.condition).foldl (.binary .and) all).tokens
      ((fs'.map Filter.condition).foldl (.binary .and) all').tokens := by
  induction alike generalizing all all' ls ls' with
  | nil =>
    rw [List.flatMap_nil, List.append_nil, List.append_nil]
    exact step
  | @cons f f' _ _ first _ ih =>
    have both := step.and first.condition_inStep f.condition_bare f'.condition_bare
    rw [List.flatMap_cons, List.flatMap_cons, ← List.append_assoc, ← List.append_assoc]
    exact ih both

theorem conditionClause_inStep {fs fs' : List Filter} (alike : List.Forall₂ Filter.Alike fs fs')
    (k : Sql.Keyword) :
    InStep (fs.flatMap Filter.literals) (fs'.flatMap Filter.literals)
      (Statement.conditionClause k (conjunction (fs.map Filter.condition)))
      (Statement.conditionClause k (conjunction (fs'.map Filter.condition))) := by
  cases alike with
  | nil => exact InStep.refl []
  | cons first others => exact InStep.clause k (foldl_inStep others first.condition_inStep)

theorem rows_alike {fs fs' : List Filter} (alike : List.Forall₂ Filter.Alike fs fs') :
    List.Forall₂ Filter.Alike (filtersOnRows fs) (filtersOnRows fs') :=
  List.rel_filter (fun {_ _} both => by simp only [both.column]) alike

theorem groups_alike {fs fs' : List Filter} (alike : List.Forall₂ Filter.Alike fs fs') :
    List.Forall₂ Filter.Alike (filtersOnGroups fs) (filtersOnGroups fs') :=
  List.rel_filter (fun {_ _} both => by simp only [both.column]) alike

theorem blank_eq_of_alike {fs fs' : List Filter} (alike : List.Forall₂ Filter.Alike fs fs') :
    fs'.map Filter.blank = fs.map Filter.blank := by
  induction alike with
  | nil => rfl
  | cons first _ ih => rw [List.map_cons, List.map_cons, first.blank_eq, ih]

def Request.calls (r : Request) : List Call := [.select r.select, .filter r.filter, .order r.order]

theorem Request.run_calls (r : Request) (d : Draft) :
    d.run r.calls =
      ((d.select r.select).andThen (·.filter r.filter)).andThen (·.order r.order) := by
  rw [Outcome.andThen_assoc]
  refine congrArg (Outcome.andThen (d.select r.select)) (funext fun selected => ?_)
  refine congrArg (Outcome.andThen (selected.filter r.filter)) (funext fun filtered => ?_)
  exact Outcome.each_singleton Call.apply (.order r.order) filtered

theorem Request.draft_ok {r : Request} {s : Schema} {settings : CompilerSettings} {d : Draft}
    (drafted : r.draft s settings = .ok d) :
    ∃ table fs d₀, s.table? r.base = some table ∧
      r.filter.mapM (scopeOf s table settings).readFilter = .ok fs ∧
      Draft.Records { schema := s, base := table, settings }
        (accepted (scopeOf s table settings) r.calls) d₀ ∧
      d₀.Built s table fs ∧ d = { d₀ with limit := r.limit } := by
  obtain ⟨start, started, made⟩ := bind_ok drafted
  dsimp only at made
  rw [← r.run_calls] at made
  split at made
  · cases made
  · next clean =>
    obtain rfl := Except.ok.inj made
    generalize run : (start.withSettings settings).run r.calls = outcome at clean
    obtain ⟨d₀, error⟩ := outcome
    obtain rfl : error = none := clean
    have drafted : draftOf s r.base settings r.calls = .ok d₀ := by
      simp only [draftOf, started, bind, Except.bind, run, Outcome.result]
    obtain ⟨table, found, records⟩ := draftOf_ok drafted
    obtain rfl : start = { schema := s, base := table } := by
      rw [Draft.start, found] at started
      exact (Except.ok.inj started).symm
    let operations : List Operation := .configure settings :: r.calls.map .call
    have applied : Outcome.each Operation.apply operations { schema := s, base := table } =
        ⟨d₀, none⟩ :=
      (Outcome.each_map Operation.apply .call r.calls _).trans run
    obtain ⟨last, asked⟩ := filtersAfter_of_ok applied
    obtain ⟨base, found', built⟩ := built_after_start started operations
    obtain rfl : table = base := Option.some.inj (found.symm.trans found')
    obtain ⟨fs, read, rest⟩ := bind_ok asked
    have all : fs ++ [] = _ := Except.ok.inj rest
    rw [last, ← all, List.append_nil] at built
    exact ⟨table, fs, d₀, found, read, records, built, rfl⟩

def Use.blank : Use → Use
  | .filter f => .filter f.blank
  | u => u

theorem Use.repeats_blank (u v : Use) : u.blank.repeats v.blank = u.repeats v := by
  cases u <;> cases v <;> rfl

theorem filterings_of_read {s : Scope} {predicates : List String} {fs : List Filter}
    (read : predicates.mapM s.readFilter = .ok fs) :
    predicates.flatMap s.filterings = fs.map .filter := by
  rw [mapM_eq_ok_iff] at read
  induction read with
  | nil => rfl
  | cons first _ ih =>
    rw [List.flatMap_cons, ih, Scope.filterings, first]
    rfl

section

variable {s : Scope} {r r' : Request} {fs fs' : List Filter}

theorem blank_accepted (same : r'.shape = r.shape) (read : r.filter.mapM s.readFilter = .ok fs)
    (read' : r'.filter.mapM s.readFilter = .ok fs') :
    (accepted s r'.calls).map Use.blank = (accepted s r.calls).map Use.blank := by
  have select : r'.select = r.select := congrArg Request.Shape.select same
  have order : r'.order = r.order := congrArg Request.Shape.order same
  have alike := alike_of_shapes (congrArg Request.Shape.filter same) read read'
  have blanks : (fs'.map Use.filter).map Use.blank = (fs.map Use.filter).map Use.blank := by
    have filters := congrArg (List.map Use.filter) (blank_eq_of_alike alike)
    rw [List.map_map, List.map_map] at filters ⊢
    exact filters
  rw [accepted, accepted, map_eraseDupsBy_of_respects Use.repeats_blank,
    map_eraseDupsBy_of_respects Use.repeats_blank]
  simp only [Request.calls, List.flatMap_cons, List.flatMap_nil, Call.uses, List.map_append, select,
    order, filterings_of_read read, filterings_of_read read', blanks]

end

section

variable {start d d' : Draft} {uses uses' : List Use}

theorem filterMap_of_blank {α : Type} {f : Use → Option α} (blind : ∀ u : Use, f u.blank = f u)
    (same : uses'.map Use.blank = uses.map Use.blank) : uses'.filterMap f = uses.filterMap f := by
  have unblank (uses : List Use) : (uses.map Use.blank).filterMap f = uses.filterMap f := by
    rw [List.filterMap_map]
    exact List.filterMap_congr fun u _ => blind u
  rw [← unblank, same, unblank]

theorem owners_of_blank (same : uses'.map Use.blank = uses.map Use.blank) :
    uses'.flatMap Use.owners = uses.flatMap Use.owners := by
  have unblank (uses : List Use) :
      (uses.map Use.blank).flatMap Use.owners = uses.flatMap Use.owners := by
    rw [List.flatMap_map]
    exact List.flatMap_congr fun u _ => by cases u <;> rfl
  rw [← unblank, same, unblank]

theorem Draft.Records.eq_of_blank (records : Records start uses d)
    (records' : Records start uses' d') (same : uses'.map Use.blank = uses.map Use.blank) :
    d' = { d with conditions := d'.conditions, groupConditions := d'.groupConditions } := by
  have scope : d'.scope = d.scope := records'.scope.trans records.scope.symm
  have selected : d'.selected = d.selected := by
    rw [records.selected, records'.selected]
    exact filterMap_of_blank (fun u => by cases u <;> rfl) same
  have ordering : d'.ordering = d.ordering := by
    rw [records.ordering, records'.ordering]
    exact filterMap_of_blank (fun u => by cases u <;> rfl) same
  have limit : d'.limit = d.limit := by
    rw [records.limit, records'.limit]
    exact congrArg List.getLast? (filterMap_of_blank (fun u => by cases u <;> rfl) same)
  have joins : d'.joins = d.joins := by
    have joined := records'.joins
    rw [owners_of_blank same, records.joins] at joined
    exact (Except.ok.inj joined).symm
  have parts := eq_of_parts scope selected ordering limit
  rw [joins] at parts
  exact parts

end

theorem Draft.plan_with_conditions (d : Draft) (conditions groupConditions : List Expr)
    (same : groupConditions.isEmpty = d.groupConditions.isEmpty) :
    ({ d with conditions, groupConditions } : Draft).plan = (fun plan : Plan =>
      { plan with statement := { plan.statement with
          condition := conjunction conditions
          having := conjunction groupConditions } }) <$> d.plan := by
  have grouped : ({ d with conditions, groupConditions } : Draft).isGrouped = d.isGrouped := by
    simp only [isGrouped, same]
  simp only [plan, checkSelection, grouped, map_bind]
  rfl

theorem Draft.Built.filtered {s : Schema} {base : Table} {fs : List Filter} {d : Draft} {p : Plan}
    (built : d.Built s base fs) (planned : d.Planned p) : p.Filtered fs where
  condition := by
    rw [planned.condition, built.conditions]
    rfl
  having := by
    rw [planned.having, built.groupConditions]
    rfl

theorem Plan.Filtered.tokens_inStep {fs fs' : List Filter} {p p' : Plan} (filtered : p.Filtered fs)
    (filtered' : p'.Filtered fs') (alike : List.Forall₂ Filter.Alike fs fs')
    (rest : p'.statement = { p.statement with
      condition := p'.statement.condition
      having := p'.statement.having }) :
    InStep (placedLiterals fs) (placedLiterals fs') p.statement.tokens p'.statement.tokens := by
  refine InStep.statement rest ?_ ?_
  · rw [filtered.condition, filtered'.condition]
    exact conditionClause_inStep (rows_alike alike) .filter
  · rw [filtered.having, filtered'.having]
    exact conditionClause_inStep (groups_alike alike) .having

section

variable {s : Schema} {settings : CompilerSettings} {r r' : Request}

theorem Request.drafts_alike {d d' : Draft} (same : r'.shape = r.shape)
    (drafted : r.draft s settings = .ok d) (drafted' : r'.draft s settings = .ok d') :
    ∃ table fs fs', s.table? r.base = some table ∧
      r.filter.mapM (scopeOf s table settings).readFilter = .ok fs ∧
      r'.filter.mapM (scopeOf s table settings).readFilter = .ok fs' ∧
      List.Forall₂ Filter.Alike fs fs' ∧ d.Built s table fs ∧ d'.Built s table fs' ∧
      d' = { d with conditions := d'.conditions, groupConditions := d'.groupConditions } := by
  obtain ⟨table, fs, made, found, read, records, built, rfl⟩ := draft_ok drafted
  obtain ⟨table', fs', made', found', read', records', built', rfl⟩ := draft_ok drafted'
  have base : r'.base = r.base := congrArg Shape.base same
  have limit : r'.limit = r.limit := congrArg Shape.limit same
  obtain rfl : table = table' := by
    rw [base, found] at found'
    exact Option.some.inj found'
  refine ⟨table, fs, fs', found, read, read',
    alike_of_shapes (congrArg Shape.filter same) read read', { built with }, { built' with }, ?_⟩
  rw [limit]
  exact congrArg (fun d : Draft => { d with limit := r.limit })
    (records.eq_of_blank records' (blank_accepted same read read'))

/-- Requests that differ in nothing but the texts of their filter values have plans that differ in
the literals of the filters only. -/
theorem compile_alike {p p' : Plan} (same : r'.shape = r.shape)
    (compiled : r.compile s settings = .ok p) (compiled' : r'.compile s settings = .ok p') :
    ∃ table fs fs', s.table? r.base = some table ∧
      r.filter.mapM (scopeOf s table settings).readFilter = .ok fs ∧
      r'.filter.mapM (scopeOf s table settings).readFilter = .ok fs' ∧
      List.Forall₂ Filter.Alike fs fs' ∧ p.Alike fs fs' p' ∧
      List.Forall₂ Token.Agrees p.statement.tokens p'.statement.tokens := by
  obtain ⟨d, drafted, planned⟩ := bind_ok compiled
  obtain ⟨d', drafted', planned'⟩ := bind_ok compiled'
  obtain ⟨table, fs, fs', found, read, read', alike, built, built', drafts⟩ :=
    Request.drafts_alike same drafted drafted'
  have count : (fs.filter fun f => f.column.isAggregate).length =
      (fs'.filter fun f => f.column.isAggregate).length := (groups_alike alike).length_eq
  have groups : d'.groupConditions.isEmpty = d.groupConditions.isEmpty := by
    rw [built.groupConditions, built'.groupConditions, List.isEmpty_map, List.isEmpty_map,
      Bool.eq_iff_iff, List.isEmpty_iff_length_eq_zero, List.isEmpty_iff_length_eq_zero, count]
  have plans := d.plan_with_conditions d'.conditions d'.groupConditions groups
  rw [← drafts, planned, planned'] at plans
  have whole : p' = { p with statement := { p.statement with
      condition := conjunction d'.conditions
      having := conjunction d'.groupConditions } } := Except.ok.inj plans
  have columns : p'.columns = p.columns := by rw [whole]
  have rest : p'.statement = { p.statement with
      condition := p'.statement.condition
      having := p'.statement.having } := by rw [whole]
  have filtered := built.filtered (Draft.plan_ok planned)
  have filtered' := built'.filtered (Draft.plan_ok planned')
  have tokens := filtered.tokens_inStep filtered' alike rest
  exact ⟨table, fs, fs', found, read, read', alike,
    ⟨columns, rest, filtered, filtered', tokens⟩, tokens.agree⟩

end

def acmeRequest : Request :=
  { base := "sales"
    select := ["product.sku", "sum.sales.total"]
    filter := ["product.maker:acme,apex", "sum.sales.total:7"]
    order := ["-sum.sales.total"]
    limit := some 9 }

def otherRequest : Request :=
  { acmeRequest with filter := ["product.maker:' OR 1=1 --,acme", "sum.sales.total: -3.5e2"] }

theorem compile_alike_sales :
    otherRequest.shape = acmeRequest.shape ∧
      ∃ p p' fs fs', acmeRequest.compile Schema.sales {} = .ok p ∧
        otherRequest.compile Schema.sales {} = .ok p' ∧
        (p.statement.tokens.length, p'.statement.tokens.length) = (90, 90) ∧
        p.Alike fs fs' p' := by
  have same : otherRequest.shape = acmeRequest.shape := by decide +kernel
  have run : (acmeRequest.compile Schema.sales {}).map (·.statement.tokens.length) = .ok 90 := by
    decide +kernel
  have run' : (otherRequest.compile Schema.sales {}).map (·.statement.tokens.length) = .ok 90 := by
    decide +kernel
  obtain ⟨p, compiled, count⟩ := map_ok run
  obtain ⟨p', compiled', count'⟩ := map_ok run'
  obtain ⟨_, fs, fs', -, -, -, -, alike, -⟩ := compile_alike same compiled compiled'
  exact ⟨same, p, p', fs, fs', compiled, compiled', by rw [count, count'], alike⟩

end StarQuery.Query
