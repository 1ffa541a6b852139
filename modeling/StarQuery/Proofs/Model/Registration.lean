import StarQuery.Proofs.Model.MemberColumns
import StarQuery.Proofs.Model.Namesakes

/-!
Registering tables one after another, some of which are refused. Main statement: after any
registrations the schema is well formed, a name finds the table that was registered under it, from
then on for good, and what the rules of a model forbid is refused and changes nothing.
-/
namespace StarQuery.Model

inductive Registration where
  | dimension (name : String) (clauses : List DimensionClause)
  | fact (name : String) (clauses : List FactClause)

namespace Registration

def table : Registration → Table
  | .dimension name clauses => .dimension (.define name clauses)
  | .fact name clauses => .fact (.define name clauses)

def apply : Registration → Schema → Except SchemaError Schema
  | .dimension name clauses, s => s.addDimension (.define name clauses)
  | .fact name clauses, s => s.addFact (.define name clauses)

end Registration

structure Dimension.WellFormed (d : Dimension) : Prop where
  distinct : (d.columns.map Column.name).Nodup
  identifiers : ∀ i ∈ d.identifiers, i ∈ d.columns.map Column.name
  elements : ∀ e ∈ d.hierarchy.elements, e ∈ d.columns.map Column.name

structure Fact.WellFormed (f : Fact) : Prop where
  distinct : (f.columns.map FactColumn.name).Nodup
  elements : ∀ e ∈ f.hierarchy.elements, e ∈ f.columns.map FactColumn.name

namespace Schema

structure WellFormed (s : Schema) : Prop where
  tables : s.tableNames.Nodup
  dimensions : ∀ d ∈ s.dimensions, d.WellFormed
  naturalKeys : ∀ d ∈ s.dimensions, ∀ key ∈ d.naturalKey, key ∈ d.columns.map Column.name
  facts : ∀ f ∈ s.facts, f.WellFormed
  roles : ∀ f ∈ s.facts, ∀ r ∈ f.roles, r.dimension.name ∈ s.dimensions.map Dimension.name

/-- The rules of a model let the table in. -/
def Admits (s : Schema) : Table → Prop
  | .dimension d => d.name ∉ s.tableNames ∧ d.WellFormed
  | .fact f => f.name ∉ s.tableNames ∧ f.WellFormed ∧
    ∀ r ∈ f.roles, r.dimension.name ∈ s.dimensions.map Dimension.name
  | .role _ => False

def entries (s : Schema) : List Table := s.facts.map .fact ++ s.dimensions.map .dimension

/-- The schema after registrations; one that is refused leaves it as it is. -/
def after (s : Schema) : List Registration → Schema
  | [] => s
  | r :: rest =>
    match r.apply s with
    | .ok s' => s'.after rest
    | .error _ => s.after rest

def accepted (s : Schema) : List Registration → List Table
  | [] => []
  | r :: rest =>
    match r.apply s with
    | .ok s' => r.table :: s'.accepted rest
    | .error _ => s.accepted rest

end Schema

theorem firstRepeated_eq_none_iff {seen names : List String} :
    firstRepeated seen names = none ↔ names.Nodup ∧ ∀ name ∈ names, name ∉ seen := by
  induction names generalizing seen with
  | nil => simp [firstRepeated]
  | cons name names ih =>
    rw [firstRepeated]
    split
    · next repeated => simp [repeated]
    · next fresh =>
      rw [ih, List.nodup_cons, List.forall_mem_cons]
      simp only [List.mem_cons, not_or]
      constructor
      · rintro ⟨distinct, apart⟩
        exact ⟨⟨fun again => (apart name again).1 rfl, distinct⟩, fresh,
          fun other member => (apart other member).2⟩
      · rintro ⟨⟨once, distinct⟩, -, apart⟩
        refine ⟨distinct, fun other member => ⟨?_, apart other member⟩⟩
        rintro rfl
        exact once member

theorem refuse_ok_iff {complaint : Option String} {error : String → SchemaError} :
    refuse complaint error = .ok () ↔ complaint = none := by
  cases complaint <;> simp [refuse]

theorem after_check_ok_iff {α : Type} {check : Except SchemaError Unit}
    {next : Except SchemaError α} {a : α} :
    (check >>= fun _ => next) = .ok a ↔ check = .ok () ∧ next = .ok a := by
  cases check with
  | error e => exact iff_of_false nofun nofun
  | ok _ => exact (and_iff_right rfl).symm

theorem Dimension.isNone_column? {d : Dimension} {name : String} :
    (d.column? name).isNone = true ↔ name ∉ d.columns.map Column.name := by
  simp [column?]

theorem Fact.isNone_column? {f : Fact} {name : String} :
    (f.column? name).isNone = true ↔ name ∉ f.columns.map FactColumn.name := by
  simp [column?]

namespace Schema

variable {s s' : Schema} {d : Dimension} {f : Fact} {t : Table} {name : String}

theorem checkName_ok_iff : s.checkName name = .ok () ↔ name ∉ s.tableNames := by
  refine ⟨checkName_ok, fun free => if_neg ?_⟩
  simpa [tableNames, hasTable, fact?, dimension?] using free

theorem addDimension_ok_iff :
    s.addDimension d = .ok s' ↔
      s.Admits (.dimension d) ∧ s' = { s with dimensions := s.dimensions ++ [d] } := by
  have checks : s.addDimension d = .ok s' ↔ d.name ∉ s.tableNames ∧
      (d.columns.map Column.name).Nodup ∧ (∀ i ∈ d.identifiers, i ∈ d.columns.map Column.name) ∧
      (∀ e ∈ d.hierarchy.elements, e ∈ d.columns.map Column.name) ∧
      { s with dimensions := s.dimensions ++ [d] } = s' := by
    simp only [addDimension, after_check_ok_iff, checkName_ok_iff, refuse_ok_iff,
      firstRepeated_eq_none_iff, List.find?_eq_none, Dimension.isNone_column?, not_not,
      List.not_mem_nil, not_false_eq_true, implies_true, and_true, Except.ok.injEq]
  rw [checks]
  constructor
  · rintro ⟨free, distinct, identifiers, elements, rfl⟩
    exact ⟨⟨free, distinct, identifiers, elements⟩, rfl⟩
  · rintro ⟨⟨free, distinct, identifiers, elements⟩, rfl⟩
    exact ⟨free, distinct, identifiers, elements, rfl⟩

theorem addFact_ok_iff :
    s.addFact f = .ok s' ↔ s.Admits (.fact f) ∧ s' = { s with facts := s.facts ++ [f] } := by
  have registered (name : String) :
      (s.dimension? name).isNone = true ↔ name ∉ s.dimensions.map Dimension.name := by
    simp [dimension?]
  have checks : s.addFact f = .ok s' ↔ f.name ∉ s.tableNames ∧
      (f.columns.map FactColumn.name).Nodup ∧
      (∀ r ∈ f.roles, r.dimension.name ∈ s.dimensions.map Dimension.name) ∧
      (∀ e ∈ f.hierarchy.elements, e ∈ f.columns.map FactColumn.name) ∧
      { s with facts := s.facts ++ [f] } = s' := by
    simp only [addFact, after_check_ok_iff, checkName_ok_iff, refuse_ok_iff,
      firstRepeated_eq_none_iff, List.find?_eq_none, Fact.isNone_column?, registered, not_not,
      List.not_mem_nil, not_false_eq_true, implies_true, and_true, Except.ok.injEq,
      List.forall_mem_map]
  rw [checks]
  constructor
  · rintro ⟨free, distinct, roles, elements, rfl⟩
    exact ⟨⟨free, ⟨distinct, elements⟩, roles⟩, rfl⟩
  · rintro ⟨⟨free, ⟨distinct, elements⟩, roles⟩, rfl⟩
    exact ⟨free, distinct, roles, elements, rfl⟩

section

variable {r : Registration}

theorem apply_ok_iff : (∃ s', r.apply s = .ok s') ↔ s.Admits r.table := by
  cases r with
  | dimension name clauses =>
    exact ⟨fun ⟨_, added⟩ => (addDimension_ok_iff.mp added).1,
      fun admitted => ⟨_, addDimension_ok_iff.mpr ⟨admitted, rfl⟩⟩⟩
  | fact name clauses =>
    exact ⟨fun ⟨_, added⟩ => (addFact_ok_iff.mp added).1,
      fun admitted => ⟨_, addFact_ok_iff.mpr ⟨admitted, rfl⟩⟩⟩

theorem Built.apply (built : s.Built) (added : r.apply s = .ok s') : s'.Built := by
  cases r with
  | dimension name clauses => exact .dimension built added
  | fact name clauses => exact .fact built added

theorem mem_entries_apply (added : r.apply s = .ok s') :
    t ∈ s'.entries ↔ t ∈ s.entries ∨ t = r.table := by
  cases r with
  | dimension name clauses =>
    obtain ⟨-, rfl⟩ := addDimension_ok_iff.mp added
    simp [entries, Registration.table, or_assoc]
  | fact name clauses =>
    obtain ⟨-, rfl⟩ := addFact_ok_iff.mp added
    simp [entries, Registration.table, or_assoc, or_comm]

theorem WellFormed.apply (wellFormed : s.WellFormed) (added : r.apply s = .ok s') :
    s'.WellFormed := by
  cases r with
  | dimension name clauses =>
    have distinct := (tableNames_addDimension added).nodup_iff
    obtain ⟨⟨free, sound⟩, rfl⟩ := addDimension_ok_iff.mp added
    have declared := Dimension.keyDeclared_define name clauses
    exact {
      tables := distinct.mpr (List.nodup_cons.mpr ⟨free, wellFormed.tables⟩)
      dimensions := List.forall_mem_append.mpr
        ⟨wellFormed.dimensions, List.forall_mem_singleton.mpr sound⟩
      naturalKeys := by
        refine List.forall_mem_append.mpr
          ⟨wellFormed.naturalKeys, List.forall_mem_singleton.mpr fun key natural => ?_⟩
        by_contra missing
        have := declared key natural
        rw [← Dimension.isNone_column?, Option.isNone_iff_eq_none] at missing
        rw [missing] at this
        cases this
      facts := wellFormed.facts
      roles := fun f hf role hr => by
        rw [List.map_append]
        exact List.mem_append_left _ (wellFormed.roles f hf role hr) }
  | fact name clauses =>
    have distinct := (tableNames_addFact added).nodup_iff
    obtain ⟨⟨free, sound, roles⟩, rfl⟩ := addFact_ok_iff.mp added
    exact {
      tables := distinct.mpr (List.nodup_cons.mpr ⟨free, wellFormed.tables⟩)
      dimensions := wellFormed.dimensions
      naturalKeys := wellFormed.naturalKeys
      facts := List.forall_mem_append.mpr
        ⟨wellFormed.facts, List.forall_mem_singleton.mpr sound⟩
      roles := List.forall_mem_append.mpr
        ⟨wellFormed.roles, List.forall_mem_singleton.mpr roles⟩ }

end

theorem after_keeps {P : Schema → Prop}
    (step : ∀ (r : Registration) s s', P s → r.apply s = .ok s' → P s') (start : P s)
    (rs : List Registration) : P (s.after rs) := by
  induction rs generalizing s with
  | nil => exact start
  | cons r rest ih =>
    rw [after]
    split
    · next s' added => exact ih (step r s s' start added)
    · exact ih start

theorem after_append (s : Schema) (rs more : List Registration) :
    s.after (rs ++ more) = (s.after rs).after more := by
  induction rs generalizing s with
  | nil => rfl
  | cons r rest ih =>
    rw [List.cons_append, after, after]
    split
    · exact ih _
    · exact ih s

theorem mem_entries_after (rs : List Registration) :
    t ∈ (s.after rs).entries ↔ t ∈ s.entries ∨ t ∈ s.accepted rs := by
  induction rs generalizing s with
  | nil => simp [after, accepted]
  | cons r rest ih =>
    rw [after, accepted]
    split
    · next s' added => rw [ih, mem_entries_apply added, List.mem_cons, or_assoc]
    · exact ih

theorem Built.table?_eq_some_iff (built : s.Built) :
    s.table? name = some t ↔ t ∈ s.entries ∧ t.name = name := by
  constructor
  · intro found
    refine ⟨?_, name_of_table? found⟩
    have held := holds_of_table? found
    cases t with
    | fact f => exact List.mem_append_left _ (List.mem_map_of_mem held)
    | dimension d => exact List.mem_append_right _ (List.mem_map_of_mem held)
    | role r =>
      unfold table? at found
      split at found
      · cases found
      · obtain ⟨d, -, made⟩ := Option.map_eq_some_iff.mp found
        cases made
  · rintro ⟨member, rfl⟩
    rcases List.mem_append.mp member with fact | dimension
    · obtain ⟨f, held, rfl⟩ := List.mem_map.mp fact
      exact (built.table?_name (t := .fact f) held).resolve_right nofun
    · obtain ⟨d, held, rfl⟩ := List.mem_map.mp dimension
      exact (built.table?_name (t := .dimension d) held).resolve_right nofun

theorem wellFormed_empty : empty.WellFormed where
  tables := List.nodup_nil
  dimensions := nofun
  naturalKeys := nofun
  facts := nofun
  roles := nofun

theorem built_after (rs : List Registration) : (empty.after rs).Built :=
  after_keeps (fun _ _ _ built added => built.apply added) Built.empty rs

theorem wellFormed_after (rs : List Registration) : (empty.after rs).WellFormed :=
  after_keeps (fun _ _ _ wellFormed added => wellFormed.apply added) wellFormed_empty rs

/-- After registrations the schema is well formed, and each name finds the table that was registered
under it. A registration succeeds just if the rules admit its table, which is found under its name
whatever is registered later; one that is refused might as well not have been made. -/
theorem after_registrations (rs : List Registration) :
    (empty.after rs).WellFormed ∧
    (∀ name t, (empty.after rs).table? name = some t ↔ t ∈ empty.accepted rs ∧ t.name = name) ∧
    (∀ r : Registration,
      (∃ s, r.apply (empty.after rs) = .ok s) ↔ (empty.after rs).Admits r.table) ∧
    (∀ r s, r.apply (empty.after rs) = .ok s →
      s = empty.after (rs ++ [r]) ∧
        ∀ more, (empty.after (rs ++ r :: more)).table? r.table.name = some r.table) ∧
    ∀ r e, r.apply (empty.after rs) = .error e →
      empty.after (rs ++ [r]) = empty.after rs ∧
        ∀ more, empty.after (rs ++ r :: more) = empty.after (rs ++ more) := by
  refine ⟨wellFormed_after rs, fun name t => ?_, fun r => apply_ok_iff, ?_, ?_⟩
  · rw [(built_after rs).table?_eq_some_iff, mem_entries_after]
    simp [entries, empty]
  · intro r s added
    have next (more : List Registration) : empty.after (rs ++ r :: more) = s.after more := by
      rw [after_append, after, added]
    refine ⟨(next []).symm, fun more => ?_⟩
    rw [(built_after _).table?_eq_some_iff, next, mem_entries_after, mem_entries_apply added]
    exact ⟨Or.inl (Or.inr rfl), rfl⟩
  · intro r e refused
    have next (more : List Registration) :
        empty.after (rs ++ r :: more) = empty.after (rs ++ more) := by
      rw [after_append, after, refused, after_append]
    refine ⟨?_, next⟩
    rw [next, List.append_nil]

def storeRegistrations : List Registration := [
  .dimension "product" [.identifiable, .column (.ofType "name" .string), .identifier "name"],
  .dimension "product" [],
  .fact "returns" [.role (.ofDimension (.named "store"))],
  .fact "sales" [.role (.ofDimension (.named "product")), .measure (.ofType "total" .money),
    .implies "total" ["product"]]]

theorem after_registrations_store :
    (empty.accepted storeRegistrations).map Table.name = ["product", "sales"] ∧
      (empty.after storeRegistrations).WellFormed ∧
      ∃ t, (empty.after storeRegistrations).table? "sales" = some t := by
  have names : (empty.accepted storeRegistrations).map Table.name = ["product", "sales"] := by
    decide +kernel
  obtain ⟨wellFormed, found, -⟩ := after_registrations storeRegistrations
  have sales : "sales" ∈ (empty.accepted storeRegistrations).map Table.name := by
    rw [names]
    decide
  obtain ⟨t, member, name⟩ := List.mem_map.mp sales
  exact ⟨names, wellFormed, t, (found "sales" t).mpr ⟨member, name⟩⟩

end Schema

end StarQuery.Model
