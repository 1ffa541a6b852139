import StarQuery.Proofs.Query.Names

/-!
The grammar of paths. A path is well-formed names with dots between them: an operator in front of a
name that refers to no table, a table, the role of a fact, a column, and an operator at the end,
with one operator at most. Main statement: a path denotes something exactly as the grammar reads it, so
that names of the schema win over operators.
-/
namespace StarQuery.Query

open Model (Column Dimension Fact FactColumn Role Schema Table)

def StartsName (c : Char) : Prop := ('A' ≤ c ∧ c ≤ 'Z') ∨ ('a' ≤ c ∧ c ≤ 'z') ∨ c = '_'

def WellFormed (name : String) : Prop :=
  ∃ c rest, name.toList = c :: rest ∧ StartsName c ∧
    ∀ c ∈ rest, StartsName c ∨ ('0' ≤ c ∧ c ≤ '9')

def Identifies (owner : Table) (c : Column) (key : String) : Prop :=
  ∃ d, owner.dimension? = some d ∧ d.naturalKey = some key ∧ c.name ∈ d.identifiers

inductive StandsFor (owner : Table) (c : Column) : Projection → Prop where
  | identifier {key : String} (identifies : Identifies owner c key) :
      StandsFor owner c (.identifier owner c key)
  | calculated (other : ∀ key, ¬Identifies owner c key) (virtual : c.calculation ≠ none) :
      StandsFor owner c (.calculated owner c)
  | physical (other : ∀ key, ¬Identifies owner c key) (plain : c.calculation = none) :
      StandsFor owner c (.attribute owner c)

namespace Scope

/-- The table that a name refers to: the base goes before its roles, and they before the registered
tables. -/
inductive Visible (s : Scope) (name : String) : Table → Prop where
  | base {t : Table} (isBase : s.base = some t) (named : t.name = name) : Visible s name t
  | role {f : Fact} {r : Role} (isBase : s.base = some (.fact f)) (other : f.name ≠ name)
      (found : f.role? name = some r) : Visible s name (.role r)
  | registered {t : Table} (notBase : ∀ base, s.base = some base → base.name ≠ name)
      (noRole : ∀ f, s.base = some (.fact f) → f.role? name = none)
      (found : s.schema.table? name = some t) : Visible s name t

/-- The names that lead to a table. -/
inductive Leads (s : Scope) : List String → Table → Prop where
  | visible {name : String} {t : Table} (visible : s.Visible name t) : Leads s [name] t
  | role {name roleName : String} {f : Fact} {r : Role} (visible : s.Visible name (.fact f))
      (found : f.role? roleName = some r) : Leads s [name, roleName] (.role r)

/-- What the names behind those of a table denote, where an operator may stand in front. -/
inductive Ends (s : Scope) (owner : Table) :
    Option Aggregate → List String → Target → Prop where
  | whole {leading : Option Aggregate} {d : Dimension} (isDimension : owner.dimension? = some d) :
      Ends s owner leading []
        ⟨.dimension owner d.identifiers.head? (d.naturalKey.getD s.settings.surrogateKey), leading⟩
  | column {leading : Option Aggregate} {name : String} {c : Column} {p : Projection}
      (declared : owner.column? name = some c) (shown : StandsFor owner c p) :
      Ends s owner leading [name] ⟨p, leading⟩
  | trailing {name keyword : String} {c : Column} {p : Projection} {op : Aggregate}
      (declared : owner.column? name = some c) (shown : StandsFor owner c p)
      (operator : Aggregate.ofKeyword? keyword = some op) :
      Ends s owner none [name, keyword] ⟨p, some op⟩
  | counting {keyword : String} {d : Dimension} {op : Aggregate}
      (isDimension : owner.dimension? = some d) (undeclared : owner.column? keyword = none)
      (operator : Aggregate.ofKeyword? keyword = some op) :
      Ends s owner none [keyword]
        ⟨.dimension owner d.identifiers.head? (d.naturalKey.getD s.settings.surrogateKey),
          some .count⟩

inductive Reading (s : Scope) : List String → Target → Prop where
  | plain {names rest : List String} {owner : Table} {target : Target} (leads : s.Leads names owner)
      (ends : s.Ends owner none rest target) : Reading s (names ++ rest) target
  | leading {keyword : String} {op : Aggregate} {names rest : List String} {owner : Table}
      {target : Target} (hidden : ∀ t, ¬s.Visible keyword t)
      (operator : Aggregate.ofKeyword? keyword = some op) (leads : s.Leads names owner)
      (ends : s.Ends owner (some op) rest target) : Reading s (keyword :: (names ++ rest)) target

end Scope

theorem isUpper_iff (c : Char) : c.isUpper = true ↔ 'A' ≤ c ∧ c ≤ 'Z' := decide_eq_true_iff

theorem isLower_iff (c : Char) : c.isLower = true ↔ 'a' ≤ c ∧ c ≤ 'z' := by
  change (decide (c.val ≥ 'a'.val) && decide (c.val ≤ 'z'.val)) = true ↔ _
  rw [Bool.and_eq_true, decide_eq_true_eq, decide_eq_true_eq]
  rfl

theorem isDigit_iff (c : Char) : c.isDigit = true ↔ '0' ≤ c ∧ c ≤ '9' := by
  change (decide (c.val ≥ '0'.val) && decide (c.val ≤ '9'.val)) = true ↔ _
  rw [Bool.and_eq_true, decide_eq_true_eq, decide_eq_true_eq]
  rfl

theorem isNameStart_iff (c : Char) : isNameStart c = true ↔ StartsName c := by
  change (c.isUpper || c.isLower || c == '_') = true ↔ _
  rw [Bool.or_eq_true, Bool.or_eq_true, isUpper_iff, isLower_iff, beq_iff_eq, or_assoc]
  rfl

theorem isNamePart_iff (c : Char) : isNamePart c = true ↔ StartsName c ∨ ('0' ≤ c ∧ c ≤ '9') := by
  change (c.isAlpha || c.isDigit || c == '_') = true ↔ _
  rw [← isNameStart_iff, isNameStart, Bool.or_eq_true, Bool.or_eq_true, Bool.or_eq_true,
    isDigit_iff, or_right_comm]

theorem isName_iff (name : String) : isName name.toList = true ↔ WellFormed name := by
  unfold WellFormed
  cases name.toList with
  | nil => simp [isName]
  | cons c rest => simp [isName, isNameStart_iff, isNamePart_iff]

namespace Scope

variable {s : Scope} {path name first : String} {names rest tail : List String} {t owner : Table}
  {leading : Option Aggregate} {target : Target}

theorem visible_iff : s.Visible name t ↔ s.table? name = some t := by
  constructor
  · intro visible
    cases visible with
    | base isBase named => simp [table?, isBase, named]
    | role isBase other found => simp [table?, isBase, Table.name, other, Table.fact?, found]
    | registered notBase noRole found =>
      cases base : s.base with
      | none => simp [table?, base, found]
      | some b =>
        have noRole' : b.fact?.bind (·.role? name) = none := by
          cases b with
          | fact f => exact noRole f base
          | _ => rfl
        simp [table?, base, notBase b base, noRole', found]
  · intro found
    unfold table? at found
    split at found
    · next noBase => exact Visible.registered (by simp [noBase]) (by simp [noBase]) found
    · next b isBase =>
      split at found
      · next named =>
        cases found
        exact Visible.base isBase named
      · next other =>
        split at found
        · next r hr =>
          cases found
          cases b with
          | fact f => exact Visible.role isBase other hr
          | _ => cases hr
        · next noRole =>
          apply Visible.registered _ _ found
          · intro base isBase'
            obtain rfl := Option.some.inj (isBase.symm.trans isBase')
            exact other
          · intro f isBase'
            obtain rfl := Option.some.inj (isBase.symm.trans isBase')
            exact noRole

theorem table_ok_iff : s.table name = .ok t ↔ s.Visible name t := by
  rw [visible_iff, table]
  cases s.table? name <;> simp

theorem identified?_iff {c : Column} {d : Dimension} :
    identified? owner c = some d ↔
      owner.dimension? = some d ∧ d.isIdentifiable = true ∧ c.name ∈ d.identifiers := by
  simp [identified?, Option.filter_eq_some_iff, Dimension.isIdentifier]

theorem standsFor_iff {c : Column} {p : Projection} :
    StandsFor owner c p ↔ p = s.columnOf owner c := by
  unfold columnOf
  cases identified : identified? owner c with
  | some d =>
    obtain ⟨isDimension, identifiable, listed⟩ := identified?_iff.mp identified
    obtain ⟨key, natural⟩ := Option.isSome_iff_exists.mp identifiable
    have identifies : Identifies owner c key := ⟨d, isDimension, natural, listed⟩
    have keyOf : s.keyOf d = key := by rw [Scope.keyOf, natural, Option.getD_some]
    dsimp only
    rw [keyOf]
    constructor
    · intro shown
      cases shown with
      | @identifier key' identifies' =>
        obtain ⟨d', isDimension', natural', -⟩ := identifies'
        obtain rfl := Option.some.inj (isDimension.symm.trans isDimension')
        obtain rfl := Option.some.inj (natural.symm.trans natural')
        rfl
      | calculated other => exact absurd identifies (other key)
      | physical other => exact absurd identifies (other key)
    · rintro rfl
      exact StandsFor.identifier identifies
  | none =>
    have other : ∀ key, ¬Identifies owner c key := by
      rintro key ⟨d, isDimension, natural, listed⟩
      have identifiable : d.isIdentifiable = true := by simp [Dimension.isIdentifiable, natural]
      rw [identified?_iff.mpr ⟨isDimension, identifiable, listed⟩] at identified
      cases identified
    cases calculation : c.calculation with
    | none =>
      simp only [Column.isVirtual, calculation]
      constructor
      · intro shown
        cases shown with
        | identifier identifies => exact absurd identifies (other _)
        | calculated _ virtual => exact absurd calculation virtual
        | physical => rfl
      · rintro rfl
        exact StandsFor.physical other calculation
    | some e =>
      simp only [Column.isVirtual, calculation]
      constructor
      · intro shown
        cases shown with
        | identifier identifies => exact absurd identifies (other _)
        | calculated => rfl
        | physical _ plain =>
          rw [calculation] at plain
          cases plain
      · rintro rfl
        exact StandsFor.calculated other (by simp [calculation])

theorem wholeTable_of_dimension {d : Dimension} (isDimension : owner.dimension? = some d) :
    s.wholeTable owner = .ok
      (.dimension owner d.identifiers.head? (d.naturalKey.getD s.settings.surrogateKey)) := by
  rw [wholeTable, isDimension]
  rfl

theorem ends_of_denote (found : s.denote path leading owner names = .ok target) :
    s.Ends owner leading names target := by
  unfold denote at found
  split at found
  · obtain ⟨p, whole, made⟩ := bind_ok found
    obtain ⟨d, isDimension, rfl⟩ := wholeTable_ok whole
    cases made
    exact Ends.whole isDimension
  · next name rest =>
    split at found
    · next c declared =>
      have shown : StandsFor owner c (s.columnOf owner c) := standsFor_iff.mpr rfl
      split at found
      · cases found
        exact Ends.column declared shown
      · split at found
        · next keyword op operator =>
          obtain ⟨carried, only, made⟩ := bind_ok found
          cases made
          cases leading with
          | some _ => cases only
          | none =>
            cases only
            exact Ends.trailing declared shown operator
        · cases found
      · cases found
    · next undeclared =>
      split at found
      · next op operator =>
        obtain ⟨carried, only, found⟩ := bind_ok found
        obtain ⟨p, whole, made⟩ := bind_ok found
        obtain ⟨d, isDimension, rfl⟩ := wholeTable_ok whole
        cases made
        cases leading with
        | some _ => cases only
        | none =>
          cases only
          exact Ends.counting isDimension undeclared operator
      · cases found

theorem denote_of_ends (ends : s.Ends owner leading names target) :
    s.denote path leading owner names = .ok target := by
  cases ends with
  | whole isDimension =>
    simp only [denote, wholeTable_of_dimension isDimension]
    rfl
  | column declared shown => simp only [denote, declared, (standsFor_iff (s := s)).mp shown]
  | trailing declared shown operator =>
    simp only [denote, declared, operator, (standsFor_iff (s := s)).mp shown]
    rfl
  | counting isDimension undeclared operator =>
    simp only [denote, undeclared, operator, wholeTable_of_dimension isDimension]
    rfl

theorem column?_of_role {f : Fact} {r : Role} (found : f.role? name = some r) :
    (Table.fact f).column? name = none := by
  have first : f.column? name = some (.dimension r) := by
    have asColumn : (f.roles.map FactColumn.dimension).find? (·.name == name) =
        some (.dimension r) := by
      rw [List.find?_map, Option.map_eq_some_iff]
      exact ⟨r, found, rfl⟩
    rw [Fact.column?, Fact.columns, List.append_assoc, List.find?_append, asColumn, Option.some_or]
  rw [Table.column?, first]
  rfl

theorem leads_enterRole (visible : s.Visible first t) (tail : List String) :
    ∃ names, s.Leads names (enterRole t tail).1 ∧
      first :: tail = names ++ (enterRole t tail).2 := by
  unfold enterRole
  split
  · next f name rest =>
    split
    · next r found => exact ⟨[first, name], Leads.role visible found, rfl⟩
    · exact ⟨[first], Leads.visible visible, rfl⟩
  · exact ⟨[first], Leads.visible visible, rfl⟩

theorem enterRole_of_ends (ends : s.Ends owner leading rest target) :
    enterRole owner rest = (owner, rest) := by
  -- Only a fact has roles, and it is not denoted as a whole: a column of it comes next.
  cases owner with
  | fact f =>
    cases ends with
    | whole isDimension => cases isDimension
    | counting isDimension => cases isDimension
    | @column _ name c p declared shown =>
      cases found : f.role? name with
      | none => simp [enterRole, found]
      | some r =>
        rw [column?_of_role found] at declared
        cases declared
    | @trailing name keyword c p op declared shown operator =>
      cases found : f.role? name with
      | none => simp [enterRole, found]
      | some r =>
        rw [column?_of_role found] at declared
        cases declared
  | _ => rfl

theorem enterRole_of_leads (leads : s.Leads names owner) (ends : s.Ends owner leading rest target) :
    ∃ first tail t, names ++ rest = first :: tail ∧ s.Visible first t ∧
      enterRole t tail = (owner, rest) := by
  cases leads with
  | @visible first t visible => exact ⟨first, rest, owner, rfl, visible, enterRole_of_ends ends⟩
  | @role first roleName f r visible found =>
    refine ⟨first, roleName :: rest, .fact f, rfl, visible, ?_⟩
    simp [enterRole, found]

theorem leadingOperator_of_visible (visible : s.Visible first t) :
    s.leadingOperator (first :: tail) = (none, first :: tail) := by
  have found := visible_iff.mp visible
  cases tail with
  | nil => rfl
  | cons second rest => simp [leadingOperator, found]

theorem leadingOperator_of_hidden {op : Aggregate} (hidden : ∀ t, ¬s.Visible first t)
    (operator : Aggregate.ofKeyword? first = some op) (more : tail ≠ []) :
    s.leadingOperator (first :: tail) = (some op, tail) := by
  have unknown : s.table? first = none := by
    rw [Option.eq_none_iff_forall_not_mem]
    intro t found
    exact hidden t (visible_iff.mpr found)
  cases tail with
  | nil => exact absurd rfl more
  | cons second rest => simp [leadingOperator, unknown, operator]

theorem leadingOperator_cases (s : Scope) (names : List String) :
    s.leadingOperator names = (none, names) ∨
      ∃ first op rest, names = first :: rest ∧ (∀ t, ¬s.Visible first t) ∧
        Aggregate.ofKeyword? first = some op ∧ s.leadingOperator names = (some op, rest) := by
  unfold leadingOperator
  split
  · next first second rest =>
    split
    · next op unknown operator =>
      refine Or.inr ⟨first, op, second :: rest, rfl, ?_, operator, rfl⟩
      intro t visible
      rw [visible_iff.mp visible] at unknown
      cases unknown
    · exact Or.inl rfl
  · exact Or.inl rfl

theorem denote_iff :
    (∃ t, s.Visible first t ∧
        s.denote path leading (enterRole t tail).1 (enterRole t tail).2 = .ok target) ↔
      ∃ names rest owner, first :: tail = names ++ rest ∧ s.Leads names owner ∧
        s.Ends owner leading rest target := by
  constructor
  · rintro ⟨t, visible, found⟩
    obtain ⟨names, leads, whole⟩ := leads_enterRole visible tail
    exact ⟨names, _, _, whole, leads, ends_of_denote found⟩
  · rintro ⟨names, rest, owner, whole, leads, ends⟩
    obtain ⟨first', tail', t, whole', visible, entered⟩ := enterRole_of_leads leads ends
    rw [← whole, List.cons.injEq] at whole'
    obtain ⟨rfl, rfl⟩ := whole'
    refine ⟨t, visible, ?_⟩
    rw [entered]
    exact denote_of_ends ends

theorem resolve_ok_iff :
    s.resolve path = .ok target ↔ (∀ name ∈ segments path, WellFormed name) ∧
      ∃ first tail, (s.leadingOperator (segments path)).2 = first :: tail ∧
        ∃ t, s.Visible first t ∧ s.denote path (s.leadingOperator (segments path)).1
          (enterRole t tail).1 (enterRole t tail).2 = .ok target := by
  have nonempty := (s.leadingOperator_names (segments path)).2 (segments_ne_nil path)
  obtain ⟨first, tail, names⟩ := List.exists_cons_of_ne_nil nonempty
  unfold resolve
  split
  · next name malformed =>
    have member := List.mem_of_find?_eq_some malformed
    have illFormed := List.find?_some malformed
    constructor
    · intro found
      cases found
    · intro ⟨wellFormed, _⟩
      simp [(isName_iff name).mpr (wellFormed name member)] at illFormed
  · next found =>
    have wellFormed : ∀ name ∈ segments path, WellFormed name := by
      intro name member
      rw [← isName_iff]
      simpa using List.find?_eq_none.mp found name member
    generalize s.leadingOperator (segments path) = parted at names ⊢
    obtain ⟨leading, whole⟩ := parted
    obtain rfl : whole = first :: tail := names
    constructor
    · intro denoted
      obtain ⟨t, visible, denoted⟩ := bind_ok denoted
      exact ⟨wellFormed, first, tail, rfl, t, table_ok_iff.mp visible, denoted⟩
    · rintro ⟨_, first', tail', same, t, visible, denoted⟩
      rw [List.cons.injEq] at same
      obtain ⟨rfl, rfl⟩ := same
      dsimp only [List.headD_cons]
      rw [table_ok_iff.mpr visible]
      exact denoted

/-- A path denotes a column and an operator just if the grammar of paths reads it so. -/
theorem resolve_iff :
    s.resolve path = .ok target ↔
      (∀ name ∈ segments path, WellFormed name) ∧ s.Reading (segments path) target := by
  rw [resolve_ok_iff]
  apply and_congr_right
  intro _
  simp only [denote_iff]
  constructor
  · rintro ⟨first, tail, names, before, rest, owner, whole, leads, ends⟩
    -- An operator in front is taken off before the tables are looked for.
    rcases leadingOperator_cases s (segments path) with
      plain | ⟨keyword, op, others, split, hidden, operator, taken⟩
    · rw [plain] at names ends
      dsimp only at names ends
      rw [names, whole]
      exact Reading.plain leads ends
    · rw [taken] at names ends
      dsimp only at names ends
      rw [split, names, whole]
      exact Reading.leading hidden operator leads ends
  · intro reading
    generalize segments path = names at reading
    cases reading with
    | @plain before rest owner target leads ends =>
      obtain ⟨first, tail, t, whole, visible, -⟩ := enterRole_of_leads leads ends
      refine ⟨first, tail, ?_, before, rest, owner, whole.symm, leads, ?_⟩
      · rw [whole, leadingOperator_of_visible visible]
      · rw [whole, leadingOperator_of_visible visible]
        exact ends
    | @leading keyword op before rest owner target hidden operator leads ends =>
      obtain ⟨first, tail, t, whole, visible, -⟩ := enterRole_of_leads leads ends
      have taken : s.leadingOperator (keyword :: (before ++ rest)) = (some op, before ++ rest) :=
        leadingOperator_of_hidden hidden operator (by simp [whole])
      refine ⟨first, tail, ?_, before, rest, owner, whole.symm, leads, ?_⟩
      · rw [taken, whole]
      · rw [taken]
        exact ends

end Scope

end StarQuery.Query
