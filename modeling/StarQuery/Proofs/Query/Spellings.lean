import StarQuery.Proofs.Query.Paths
import StarQuery.Proofs.Query.Shapes
import StarQuery.Proofs.Sql.Outside
import StarQuery.Proofs.Text.Splitting

/-!
Spellings of one reference. An operator may stand before a column or after it, and a dimension may
be reached through the base or by the name of its role alone. Main statement: the places of the
operator give the same result, and the ways to the dimension the same columns or errors of one kind,
where the names of the base and the role can stand in a path.
-/
namespace StarQuery.Query

open Model (Column Dimension Fact FactColumn Role Schema Table)

inductive ErrorKind where
  | unknownTable
  | unknownColumn
  | unsupportedPivot
  | unsuitedAggregate
  | invalidReference
  | invalidFilter
  | unrelatedTable
  deriving DecidableEq

def CompileError.kind : CompileError → ErrorKind
  | .unknownTable _ => .unknownTable
  | .unknownColumn _ _ => .unknownColumn
  | .unsupportedPivot _ _ => .unsupportedPivot
  | .unsuitedAggregate _ _ _ => .unsuitedAggregate
  | .invalidReference _ => .invalidReference
  | .invalidFilter _ => .invalidFilter
  | .unrelatedTable _ _ => .unrelatedTable

inductive SameOutcome {α : Type} : Except CompileError α → Except CompileError α → Prop where
  | same (x : Except CompileError α) : SameOutcome x x
  | errors {e e' : CompileError} (kind : e.kind = e'.kind) : SameOutcome (.error e) (.error e')

namespace SameOutcome

variable {α β : Type}

theorem bind {x y : Except CompileError α} {f g : α → Except CompileError β}
    (agree : SameOutcome x y) (next : ∀ a, SameOutcome (f a) (g a)) :
    SameOutcome (x >>= f) (y >>= g) := by
  cases agree with
  | same =>
    cases x with
    | error e => exact same (.error e)
    | ok a => exact next a
  | errors kind => exact errors kind

theorem bind_same {x y : Except CompileError α} (agree : SameOutcome x y)
    (f : α → Except CompileError β) : SameOutcome (x >>= f) (y >>= f) :=
  agree.bind fun a => same (f a)

theorem mapError_kind {x y : Except CompileError α} (agree : SameOutcome x y) :
    x.mapError CompileError.kind = y.mapError CompileError.kind := by
  cases agree with
  | same => rfl
  | errors kind => exact congrArg Except.error kind

end SameOutcome

structure Segment (name : String) extends Part name where
  trimmed : Text.trim name = name

theorem isBlank_of_isWordChar {c : Char} (word : Sql.isWordChar c = true) :
    Text.isBlank c = false := by
  have solid : ∀ n < 128, Sql.isWordChar (Char.ofNat n) = true →
      Text.isBlank (Char.ofNat n) = false := by decide +kernel
  have := solid c.toNat (Sql.toNat_lt_of_isWordChar word)
  rw [Char.ofNat_toNat] at this
  exact this word

theorem Segment.of_isName {name : String} (named : isName name.toList = true) : Segment name where
  toPart := part_of_isName named
  trimmed := by
    have solid : ∀ c ∈ name.toList, Text.isBlank c = false := by
      intro c member
      exact isBlank_of_isWordChar (isNamePart_of_isName named member)
    rw [Text.trim, Text.trimChars_of_solid solid, String.ofList_toList]

theorem Segment.of_wellFormed {name : String} (wellFormed : WellFormed name) : Segment name :=
  .of_isName ((isName_iff name).mpr wellFormed)

theorem isAlpha_of_toLower {c : Char} (lower : c.toLower.isLower = true) : c.isAlpha = true := by
  by_cases upper : c.isUpper = true
  · exact Bool.or_eq_true_iff.mpr (Or.inl upper)
  · have same : c.toLower = c := dif_neg fun capital => upper ((isUpper_iff c).mpr capital)
    rw [same] at lower
    exact Bool.or_eq_true_iff.mpr (Or.inr lower)

theorem isName_of_operator {word : String} {op : Aggregate}
    (operator : Aggregate.ofKeyword? word = some op) : isName word.toList = true := by
  have matched := List.find?_some operator
  have letters : word.toList.map Char.toLower = op.keyword.toList := by
    rw [← beq_iff_eq.mp matched]
    cases op <;> rfl
  have lower : op.keyword.toList.all (·.isLower) = true ∧ op.keyword.toList ≠ [] := by
    cases op <;> decide
  rw [← letters, List.all_map, List.all_eq_true, Ne, List.map_eq_nil_iff] at lower
  obtain ⟨lower, nonempty⟩ := lower
  have alpha : ∀ c ∈ word.toList, c.isAlpha = true := by
    intro c member
    exact isAlpha_of_toLower (lower c member)
  obtain ⟨c, rest, whole⟩ := List.exists_cons_of_ne_nil nonempty
  rw [whole] at alpha ⊢
  have start : isNameStart c = true := Bool.or_eq_true_iff.mpr (Or.inl (alpha c List.mem_cons_self))
  have parts : ∀ c ∈ rest, isNamePart c = true := by
    intro c member
    have letter := alpha c (List.mem_cons_of_mem _ member)
    exact Bool.or_eq_true_iff.mpr (Or.inl (Bool.or_eq_true_iff.mpr (Or.inl letter)))
  exact Bool.and_eq_true_iff.mpr ⟨start, List.all_eq_true.mpr parts⟩

theorem segments_toList (path : String) :
    segments path = (Text.trimmedPieces '.' path.toList).map String.ofList := by
  simp [segments, Text.split, Text.trimmedPieces, Text.trim, Function.comp_def]

theorem segments_trim (path : String) : segments (Text.trim path) = segments path := by
  rw [segments_toList, segments_toList, Text.trim, String.toList_ofList,
    Text.trimmedPieces_trimChars (by decide)]

theorem segments_dot (a b : String) : segments (a ++ "." ++ b) = segments a ++ segments b := by
  simp [segments, Text.split, Text.splitChars_append]

theorem Segment.segments {name : String} (segment : Segment name) : segments name = [name] := by
  rw [Query.segments, Text.split, Text.splitChars_free segment.dot, List.map_singleton,
    String.ofList_toList, List.map_singleton, segment.trimmed]

theorem split_tilde (a b : String) :
    Text.split '~' (a ++ "~" ++ b) = Text.split '~' a ++ Text.split '~' b := by
  simp [Text.split, Text.splitChars_append]

inductive Projection.IsColumn : Projection → Prop where
  | physical (owner : Table) (column : Column) : IsColumn (.attribute owner column)
  | identifier (owner : Table) (column : Column) (key : String) :
      IsColumn (.identifier owner column key)
  | calculated (owner : Table) (column : Column) : IsColumn (.calculated owner column)

namespace Scope

variable {s : Scope} {word path reference : String} {op : Aggregate} {p : Projection}

structure IsOperator (s : Scope) (word : String) (op : Aggregate) : Prop where
  keyword : Aggregate.ofKeyword? word = some op
  hidden : ∀ t, ¬s.Visible word t

theorem isOperator_iff : s.IsOperator word op ↔
    Aggregate.ofKeyword? word = some op ∧ s.table? word = none := by
  constructor
  · rintro ⟨keyword, hidden⟩
    refine ⟨keyword, Option.eq_none_iff_forall_not_mem.mpr fun t found => ?_⟩
    exact hidden t (visible_iff.mpr found)
  · rintro ⟨keyword, unknown⟩
    refine ⟨keyword, fun t visible => ?_⟩
    rw [visible_iff, unknown] at visible
    cases visible

theorem IsOperator.segment (operator : s.IsOperator word op) : Segment word :=
  .of_isName (isName_of_operator operator.keyword)

theorem Reading.column {names : List String} (reading : s.Reading names ⟨p, none⟩)
    (column : p.IsColumn) : ∃ before name owner c, names = before ++ [name] ∧
      s.Leads before owner ∧ owner.column? name = some c ∧ StandsFor owner c p := by
  generalize whole : Target.mk p none = target at reading
  -- An operator, at either end, would be part of the target.
  cases reading with
  | @plain before rest owner target leads ends =>
    cases ends with
    | whole isDimension =>
      cases whole
      cases column
    | @column _ name c q declared shown =>
      cases whole
      exact ⟨before, name, owner, c, rfl, leads, declared, shown⟩
    | trailing declared shown operator => cases whole
    | counting isDimension undeclared operator => cases whole
  | leading hidden operator leads ends =>
    cases ends with
    | whole isDimension => cases whole
    | column declared shown => cases whole

/-- An operator in front of a column says the same as one behind it. -/
theorem resolve_operator (operator : s.IsOperator word op) (column : p.IsColumn)
    (found : s.resolve path = .ok ⟨p, none⟩) :
    s.resolve (word ++ "." ++ path) = .ok ⟨p, some op⟩ ∧
      s.resolve (path ++ "." ++ word) = .ok ⟨p, some op⟩ := by
  obtain ⟨wellFormed, reading⟩ := resolve_iff.mp found
  obtain ⟨before, name, owner, c, names, leads, declared, shown⟩ := reading.column column
  have named : WellFormed word := (isName_iff word).mp (isName_of_operator operator.keyword)
  constructor
  · rw [resolve_iff, segments_dot, operator.segment.segments, List.singleton_append]
    refine ⟨List.forall_mem_cons.mpr ⟨named, wellFormed⟩, ?_⟩
    rw [names]
    exact .leading operator.hidden operator.keyword leads (.column declared shown)
  · rw [resolve_iff, segments_dot, operator.segment.segments]
    refine ⟨List.forall_mem_append.mpr ⟨wellFormed, by simpa using named⟩, ?_⟩
    rw [names, List.append_assoc, List.singleton_append]
    exact .plain leads (.trailing declared shown operator.keyword)

theorem resolve_trim {target : Target} :
    s.resolve (Text.trim path) = .ok target ↔ s.resolve path = .ok target := by
  rw [resolve_iff, resolve_iff, segments_trim]

theorem applyOperator_some_ok {q : Projection} (applied : applyOperator q (some op) = .ok p) :
    p = .aggregate q op := by
  rw [applyOperator] at applied
  split at applied
  · cases applied
  · split at applied
    · cases applied
    · cases applied
      rfl

theorem applyOperator_column {q : Projection} {operator : Option Aggregate} (column : p.IsColumn)
    (applied : applyOperator q operator = .ok p) : q = p ∧ operator = none := by
  cases operator with
  | none =>
    cases applied
    exact ⟨rfl, rfl⟩
  | some op =>
    rw [applyOperator_some_ok applied] at column
    cases column

theorem parse_path (free : '~' ∉ path.toList) :
    s.parse path = (do
      let target ← s.resolve (Text.trim path)
      .ok [← applyOperator target.projection target.operator]) := by
  rw [parse, Text.split_free free, List.map_singleton]

theorem parse_crosstab {value pivot : String} (freeValue : '~' ∉ value.toList)
    (freePivot : '~' ∉ pivot.toList) :
    s.parse (value ++ "~" ++ pivot) = s.crosstab (Text.trim value) (Text.trim pivot) := by
  rw [parse, split_tilde, Text.split_free freeValue, Text.split_free freePivot,
    List.singleton_append, List.map_cons, List.map_singleton]

theorem path_of_column (column : p.IsColumn) (found : s.parse reference = .ok [p]) :
    '~' ∉ reference.toList ∧ s.resolve reference = .ok ⟨p, none⟩ := by
  unfold parse at found
  split at found
  · next path single =>
    obtain ⟨piece, cut, rfl⟩ := List.map_eq_singleton_iff.mp single
    obtain ⟨⟨q, operator⟩, resolved, found⟩ := bind_ok found
    obtain ⟨q', applied, made⟩ := bind_ok found
    cases made
    obtain ⟨rfl, rfl⟩ := applyOperator_column column applied
    have free := Text.free_of_split cut
    rw [Text.split_free free, List.singleton_inj] at cut
    rw [← cut, resolve_trim] at resolved
    exact ⟨free, resolved⟩
  · -- A crosstab of one cell has a cell for its column.
    obtain ⟨v, k, keys, -, -, -, -, -, cells⟩ := crosstab_ok found
    obtain ⟨index, key, -, applied⟩ := cells p (List.mem_singleton_self p)
    obtain ⟨rfl, -⟩ := applyOperator_column column applied
    cases column
  · cases found

theorem crosstab_congr {value value' : String} (pivot : String)
    (same : s.resolve value = s.resolve value') :
    s.crosstab value pivot = s.crosstab value' pivot := by
  rw [crosstab, crosstab, same]

theorem parse_operator (operator : s.IsOperator word op) (found : s.parse path = .ok [p])
    (column : p.IsColumn) :
    s.parse (word ++ "." ++ path) = s.parse (path ++ "." ++ word) ∧
      ∀ pivot, '~' ∉ pivot.toList →
        s.parse (word ++ "." ++ path ++ "~" ++ pivot) =
          s.parse (path ++ "." ++ word ++ "~" ++ pivot) := by
  obtain ⟨free, resolved⟩ := path_of_column column found
  obtain ⟨leading, trailing⟩ := resolve_operator operator column resolved
  have same : s.resolve (Text.trim (word ++ "." ++ path)) =
      s.resolve (Text.trim (path ++ "." ++ word)) :=
    (resolve_trim.mpr leading).trans (resolve_trim.mpr trailing).symm
  have freeLeading : '~' ∉ (word ++ "." ++ path).toList := by
    simp [free, operator.segment.tilde]
  have freeTrailing : '~' ∉ (path ++ "." ++ word).toList := by
    simp [free, operator.segment.tilde]
  constructor
  · rw [parse_path freeLeading, parse_path freeTrailing, same]
  · intro pivot freePivot
    rw [parse_crosstab freeLeading freePivot, parse_crosstab freeTrailing freePivot]
    exact crosstab_congr _ same

theorem withOperator_agree (path path' : String) (leading : Option Aggregate) :
    SameOutcome (withOperator path leading op) (withOperator path' leading op) := by
  cases leading with
  | none => exact .same _
  | some _ => exact .errors rfl

theorem denote_agree (path path' : String) (leading : Option Aggregate) (owner : Table)
    (names : List String) :
    SameOutcome (s.denote path leading owner names) (s.denote path' leading owner names) := by
  unfold denote
  split
  · exact .same _
  · split
    · split
      · exact .same _
      · split
        · exact (withOperator_agree path path' leading).bind_same _
        · exact .errors rfl
      · exact .errors rfl
    · split
      · exact (withOperator_agree path path' leading).bind_same _
      · exact .same _

/-- A role of the base that can be named in a path, behind the base or without it. -/
structure Route (s : Scope) (f : Fact) (r : Role) : Prop where
  isBase : s.base = some (.fact f)
  listed : r ∈ f.roles
  other : r.name ≠ f.name
  baseName : WellFormed f.name
  roleName : Segment r.name

variable {f : Fact} {r : Role}

theorem Route.found (route : s.Route f r) : ∃ r', f.role? r.name = some r' := by
  rw [← Option.isSome_iff_exists, Fact.role?, List.find?_isSome]
  exact ⟨r, route.listed, beq_self_eq_true r.name⟩

inductive Opening (s : Scope) : String → Prop where
  | empty : Opening s ""
  | operator {word : String} {op : Aggregate} (operator : s.IsOperator word op) :
      Opening s (word ++ ".")

inductive Continuation : String → Prop where
  | empty : Continuation ""
  | names (rest : String) : Continuation ("." ++ rest)

structure Fronts (s : Scope) (front : List String) (leading : Option Aggregate) : Prop where
  wellFormed : ∀ name ∈ front, isName name.toList = true
  taken : ∀ {first : String} {t : Table} (tail : List String), s.Visible first t →
    s.leadingOperator (front ++ first :: tail) = (leading, first :: tail)

theorem Opening.fronts {lead : String} (opening : s.Opening lead) :
    '~' ∉ lead.toList ∧ ∃ front leading, s.Fronts front leading ∧
      ∀ path, segments (lead ++ path) = front ++ segments path := by
  cases opening with
  | empty =>
    refine ⟨by simp, [], none, ⟨by simp, fun tail visible => ?_⟩, fun path => by simp⟩
    exact leadingOperator_of_visible visible
  | @operator word op operator =>
    refine ⟨by simp [operator.segment.tilde], [word], some op, ⟨?_, fun tail visible => ?_⟩, ?_⟩
    · simpa using isName_of_operator operator.keyword
    · exact leadingOperator_of_hidden operator.hidden operator.keyword (List.cons_ne_nil _ _)
    · intro path
      rw [segments_dot, operator.segment.segments]

theorem Continuation.segments {after : String} (continuation : Continuation after) :
    ∃ rest, ∀ path, segments (path ++ after) = segments path ++ rest := by
  cases continuation with
  | empty => exact ⟨[], fun path => by simp⟩
  | names rest =>
    refine ⟨Query.segments rest, fun path => ?_⟩
    rw [← String.append_assoc, segments_dot]

theorem Route.resolve (route : s.Route f r) {front : List String} (rest : List String)
    {leading : Option Aggregate} (fronts : s.Fronts front leading) {long short : String}
    (hlong : segments long = front ++ f.name :: r.name :: rest)
    (hshort : segments short = front ++ r.name :: rest) :
    SameOutcome (s.resolve long) (s.resolve short) := by
  obtain ⟨r', found⟩ := route.found
  have base : s.Visible f.name (.fact f) := .base route.isBase rfl
  have role : s.Visible r.name (.role r') := .role route.isBase route.other.symm found
  have named : isName f.name.toList = true := (isName_iff f.name).mpr route.baseName
  -- Of the two lists of names, one has a well-formed name more, so the same name is at fault.
  have fault : (segments long).find? (fun name => !isName name.toList) =
      (segments short).find? fun name => !isName name.toList := by
    rw [hlong, hshort, List.find?_append, List.find?_append,
      List.find?_cons_of_neg (by simp [named])]
  unfold Scope.resolve
  rw [fault]
  split
  · exact .errors rfl
  · rw [hlong, hshort, fronts.taken _ base, fronts.taken _ role]
    dsimp only [List.headD_cons, List.tail_cons]
    rw [table_ok_iff.mpr base, table_ok_iff.mpr role]
    have entered : enterRole (.fact f) (r.name :: rest) = (.role r', rest) := by
      rw [enterRole, found]
    have kept : enterRole (.role r') rest = (.role r', rest) := rfl
    dsimp only [bind, Except.bind]
    rw [entered, kept]
    exact denote_agree long short leading (.role r') rest

theorem crosstab_agree {value value' pivot pivot' : String}
    (values : SameOutcome (s.resolve value) (s.resolve value'))
    (pivots : SameOutcome (s.resolve pivot) (s.resolve pivot')) :
    SameOutcome (s.crosstab value pivot) (s.crosstab value' pivot') :=
  values.bind fun _ => pivots.bind_same _

theorem parse_agree {long short : String}
    (agree : List.Forall₂
      (fun a b => SameOutcome (s.resolve (Text.trim a)) (s.resolve (Text.trim b)))
      (Text.split '~' long) (Text.split '~' short)) :
    SameOutcome (s.parse long) (s.parse short) := by
  unfold parse
  generalize Text.split '~' long = sides, Text.split '~' short = sides' at agree
  cases agree with
  | nil => exact .errors rfl
  | cons value more =>
    cases more with
    | nil => exact value.bind_same _
    | cons pivot more =>
      cases more with
      | nil => exact crosstab_agree value pivot
      | cons third more => exact .errors rfl

theorem Continuation.split {after : String} (continuation : Continuation after) :
    ∃ piece pieces, Text.split '~' after = piece :: pieces ∧ Continuation piece := by
  cases continuation with
  | empty => exact ⟨"", [], Text.split_free (by simp), .empty⟩
  | names rest =>
    have free : '~' ∉ ".".toList := by decide
    obtain ⟨piece, pieces, -, cut⟩ := Text.split_prefix free rest
    exact ⟨"." ++ piece, pieces, cut, .names piece⟩

theorem Route.sides (route : s.Route f r) {lead after : String} (opening : s.Opening lead)
    (continuation : Continuation after) :
    List.Forall₂ (fun a b => SameOutcome (s.resolve (Text.trim a)) (s.resolve (Text.trim b)))
      (Text.split '~' (lead ++ f.name ++ "." ++ r.name ++ after))
      (Text.split '~' (lead ++ r.name ++ after)) := by
  obtain ⟨freeLead, front, leading, fronts, segmentsLead⟩ := opening.fronts
  obtain ⟨piece, pieces, cut, remains⟩ := continuation.split
  obtain ⟨rest, segmentsRest⟩ := remains.segments
  have base := Segment.of_wellFormed route.baseName
  have freeLong : '~' ∉ (lead ++ f.name ++ "." ++ r.name).toList := by
    simp [freeLead, base.tilde, route.roleName.tilde]
  have freeShort : '~' ∉ (lead ++ r.name).toList := by
    simp [freeLead, route.roleName.tilde]
  obtain ⟨_, _, cut', long⟩ := Text.split_prefix freeLong after
  obtain ⟨_, _, cut'', short⟩ := Text.split_prefix freeShort after
  obtain ⟨rfl, rfl⟩ := List.cons.inj (cut.symm.trans cut')
  obtain ⟨rfl, rfl⟩ := List.cons.inj (cut.symm.trans cut'')
  rw [long, short]
  refine .cons (route.resolve rest fronts ?_ ?_) ?_
  · rw [segments_trim, segmentsRest, segments_dot, segmentsLead, base.segments,
      route.roleName.segments]
    simp
  · rw [segments_trim, segmentsRest, segmentsLead, route.roleName.segments]
    simp
  · exact List.forall₂_same.mpr fun _ _ => .same _

theorem Route.parse (route : s.Route f r) {lead after : String} (opening : s.Opening lead)
    (continuation : Continuation after) :
    SameOutcome (s.parse (lead ++ f.name ++ "." ++ r.name ++ after))
        (s.parse (lead ++ r.name ++ after)) ∧
      ∀ side,
        SameOutcome (s.parse (lead ++ f.name ++ "." ++ r.name ++ after ++ "~" ++ side))
            (s.parse (lead ++ r.name ++ after ++ "~" ++ side)) ∧
          SameOutcome (s.parse (side ++ "~" ++ (lead ++ f.name ++ "." ++ r.name ++ after)))
            (s.parse (side ++ "~" ++ (lead ++ r.name ++ after))) := by
  have sides := route.sides opening continuation
  refine ⟨parse_agree sides, fun side => ⟨parse_agree ?_, parse_agree ?_⟩⟩
  · rw [split_tilde, split_tilde]
    exact List.rel_append sides (List.forall₂_same.mpr fun _ _ => .same _)
  · rw [split_tilde, split_tilde]
    exact List.rel_append (List.forall₂_same.mpr fun _ _ => .same _) sides

/-- An operator before a column says the same as one behind it; behind the base, a role is what it
is by its own name, if both names can stand in a path. -/
theorem spellings_agree (s : Scope) :
    (∀ word op path p, s.IsOperator word op → s.parse path = .ok [p] → p.IsColumn →
      s.parse (word ++ "." ++ path) = s.parse (path ++ "." ++ word) ∧
        ∀ pivot, '~' ∉ pivot.toList →
          s.parse (word ++ "." ++ path ++ "~" ++ pivot) =
            s.parse (path ++ "." ++ word ++ "~" ++ pivot)) ∧
    ∀ f r lead after, s.Route f r → s.Opening lead → Continuation after →
      SameOutcome (s.parse (lead ++ f.name ++ "." ++ r.name ++ after))
          (s.parse (lead ++ r.name ++ after)) ∧
        ∀ side,
          SameOutcome (s.parse (lead ++ f.name ++ "." ++ r.name ++ after ++ "~" ++ side))
              (s.parse (lead ++ r.name ++ after ++ "~" ++ side)) ∧
            SameOutcome (s.parse (side ++ "~" ++ (lead ++ f.name ++ "." ++ r.name ++ after)))
              (s.parse (side ++ "~" ++ (lead ++ r.name ++ after))) :=
  ⟨fun _ _ _ _ operator found column => parse_operator operator found column,
    fun _ _ _ _ route opening continuation => route.parse opening continuation⟩

theorem spellings_agree_ratedSales :
    ∃ (s : Scope) (total : Projection), s.parse "sales.total" = .ok [total] ∧
      s.parse ("Sum" ++ "." ++ "sales.total") = s.parse ("sales.total" ++ "." ++ "Sum") ∧
      s.parse ("Sum" ++ "." ++ "sales.total" ++ "~" ++ "product.rating") =
        s.parse ("sales.total" ++ "." ++ "Sum" ++ "~" ++ "product.rating") ∧
      SameOutcome (s.parse ("max" ++ "." ++ "sales" ++ "." ++ "product" ++ ("." ++ "rating")))
        (s.parse ("max" ++ "." ++ "product" ++ ("." ++ "rating"))) := by
  let f := ratedSales.schema.facts.head (by decide)
  let r := f.roles.head (by decide)
  let s : Scope := { ratedSales with base := some (.fact f) }
  have sum : s.IsOperator "Sum" .sum := isOperator_iff.mpr (by decide +kernel)
  have max : s.IsOperator "max" .max := isOperator_iff.mpr (by decide +kernel)
  have total : s.parse "sales.total" = .ok [.attribute (.fact f) (.ofType "total" .money)] := by
    decide +kernel
  have route : s.Route f r := {
    isBase := rfl
    listed := List.head_mem _
    other := by decide +kernel
    baseName := (isName_iff "sales").mp (by decide +kernel)
    roleName := .of_isName (by decide +kernel) }
  obtain ⟨places, routes⟩ := spellings_agree s
  obtain ⟨alone, crossed⟩ := places "Sum" .sum "sales.total" _ sum total (.physical _ _)
  exact ⟨s, _, total, alone, crossed "product.rating" (by decide),
    (routes f r ("max" ++ ".") ("." ++ "rating") route (.operator max) (.names "rating")).1⟩

def webSales : Scope :=
  let product := Dimension.define "product" [.column (.ofType "name" .string), .identifier "name"]
  let fact := Fact.define "web sales" [
    .role (.ofDimension product), .measure (.ofType "total" .money)]
  { schema := { facts := [fact], dimensions := [product] }, base := some (.fact fact) }

def dottedSales : Scope :=
  let date := Dimension.define "date" [.column (.ofType "year" .year)]
  let fact := Fact.define "sales" [.role { dimension := date, name := "ship.date" }]
  { schema := { facts := [fact], dimensions := [date] }, base := some (.fact fact) }

/-- Some facts have names that cannot stand before a role, and some roles have names that cannot
stand in a path at all. -/
theorem not_all_spellings_agree :
    (¬∀ (s : Scope) (f : Fact) (r : Role) (after : String), s.base = some (.fact f) →
        r ∈ f.roles → r.name ≠ f.name → Segment r.name → Continuation after →
        SameOutcome (s.parse (f.name ++ "." ++ r.name ++ after)) (s.parse (r.name ++ after))) ∧
      ¬∀ (s : Scope) (f : Fact) (r : Role) (after : String), s.base = some (.fact f) →
        r ∈ f.roles → r.name ≠ f.name → WellFormed f.name → Continuation after →
        SameOutcome (s.parse (f.name ++ "." ++ r.name ++ after)) (s.parse (r.name ++ after)) := by
  constructor
  · intro all
    have agree := all webSales (webSales.schema.facts.head (by decide))
      (.ofDimension (webSales.schema.dimensions.head (by decide))) ("." ++ "name") rfl
      (by decide +kernel) (by decide +kernel) (.of_isName (by decide +kernel)) (.names "name")
    exact absurd agree.mapError_kind (by decide +kernel)
  · intro all
    have agree := all dottedSales (dottedSales.schema.facts.head (by decide))
      { dimension := dottedSales.schema.dimensions.head (by decide), name := "ship.date" } "" rfl
      (by decide +kernel) (by decide +kernel) ((isName_iff "sales").mp (by decide +kernel)) .empty
    exact absurd agree.mapError_kind (by decide +kernel)

end Scope

end StarQuery.Query
