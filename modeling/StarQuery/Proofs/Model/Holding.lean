import StarQuery.Model.Table

/-!
The tables that a schema holds, directly or through the roles of its facts, and their columns. Main
statement: a column that is found in such a table is one of the schema's.
-/
namespace StarQuery.Model

def Fact.reachedColumns (f : Fact) : List Column :=
  f.degenerates ++ f.measures ++ f.roles.flatMap (·.dimension.columns)

theorem Fact.name_of_role? {f : Fact} {name : String} {r : Role} (found : f.role? name = some r) :
    r.name = name := by
  simpa using List.find?_some found

def Table.columns : Table → List Column
  | .fact f => f.degenerates ++ f.measures
  | .dimension d => d.columns
  | .role r => r.dimension.columns

theorem Table.mem_columns {t : Table} {name : String} {c : Column}
    (found : t.column? name = some c) : c ∈ t.columns := by
  cases t with
  | fact f =>
    obtain ⟨entry, hentry, hc⟩ := Option.bind_eq_some_iff.mp found
    have member := List.mem_of_find?_eq_some hentry
    cases entry with
    | dimension r => cases hc
    | degenerate c' =>
      cases hc
      exact List.mem_append_left _ (by simpa [Fact.columns] using member)
    | measure c' =>
      cases hc
      exact List.mem_append_right _ (by simpa [Fact.columns] using member)
  | dimension d => exact List.mem_of_find?_eq_some found
  | role r => exact List.mem_of_find?_eq_some found

namespace Schema

def columns (s : Schema) : List Column :=
  s.facts.flatMap Fact.reachedColumns ++ s.dimensions.flatMap (·.columns)

def Holds (s : Schema) : Table → Prop
  | .fact f => f ∈ s.facts
  | .dimension d => d ∈ s.dimensions
  | .role r => ∃ f ∈ s.facts, r ∈ f.roles

/-- All tables that a query can meet. -/
def tables (s : Schema) : List Table :=
  s.facts.map .fact ++ s.dimensions.map .dimension ++ s.facts.flatMap fun f => f.roles.map .role

variable {s : Schema} {t : Table} {name : String} {c : Column}

theorem mem_tables (holds : s.Holds t) : t ∈ s.tables := by
  cases t with
  | fact f => exact List.mem_append_left _ (List.mem_append_left _ (List.mem_map_of_mem holds))
  | dimension d => exact List.mem_append_left _ (List.mem_append_right _ (List.mem_map_of_mem holds))
  | role r =>
    obtain ⟨f, hf, hr⟩ := holds
    exact List.mem_append_right _ (List.mem_flatMap.mpr ⟨f, hf, List.mem_map_of_mem hr⟩)

theorem holds_of_table? (found : s.table? name = some t) : s.Holds t := by
  unfold table? at found
  split at found
  · next f hf =>
    cases found
    exact List.mem_of_find?_eq_some hf
  · obtain ⟨d, hd, rfl⟩ := Option.map_eq_some_iff.mp found
    exact List.mem_of_find?_eq_some hd

theorem name_of_table? (found : s.table? name = some t) : t.name = name := by
  unfold table? at found
  split at found
  · next f hf =>
    cases found
    simpa [Table.name] using List.find?_some hf
  · obtain ⟨d, hd, rfl⟩ := Option.map_eq_some_iff.mp found
    simpa [Table.name] using List.find?_some hd

theorem Holds.mem_columns (held : s.Holds t) (found : t.column? name = some c) :
    c ∈ s.columns := by
  have declared := Table.mem_columns found
  cases t with
  | fact f =>
    exact List.mem_append_left _ (List.mem_flatMap.mpr ⟨f, held, List.mem_append_left _ declared⟩)
  | dimension d => exact List.mem_append_right _ (List.mem_flatMap.mpr ⟨d, held, declared⟩)
  | role r =>
    obtain ⟨f, hf, hr⟩ := held
    refine List.mem_append_left _ (List.mem_flatMap.mpr ⟨f, hf, List.mem_append_right _ ?_⟩)
    exact List.mem_flatMap.mpr ⟨r, hr, declared⟩

def sales : Schema :=
  let product := Dimension.define "product" [
    .column (.ofType "name" .string), .column (.ofType "sku" .string),
    .column (.ofType "maker" .string), .column (.ofType "address" .string),
    .identifier "name", .identifiable, .bidirectional "sku" "name", .implies "maker" ["address"]]
  let fact := Fact.define "sales" [
    .role (.ofDimension product), .measure (.ofType "total" .money),
    .measure ((Column.ofType "share" .float).calculated
      (.binary .div (.function "SUM" (.ofTable "sales" "total")) (.literal (.int 100))))]
  { facts := [fact], dimensions := [product] }

end Schema

end StarQuery.Model
