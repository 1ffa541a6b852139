import StarQuery.Proofs.FirstOccurrence
import StarQuery.Proofs.Model.Holding
import StarQuery.Proofs.Success

/-!
Tables of one name. Registered tables have different names, but a role brings a name of its own,
which is checked within its fact only. Main statement: where roles keep to names that nothing else
has, tables of one name are one fact or one dimension.
-/
namespace StarQuery.Model

deriving instance DecidableEq for Schema

namespace Schema

/-- The schemas that registering tables one by one can make. -/
inductive Built : Schema → Prop where
  | empty : Built Schema.empty
  | dimension {s s' : Schema} {d : Dimension} (built : Built s)
      (added : s.addDimension d = .ok s') : Built s'
  | fact {s s' : Schema} {f : Fact} (built : Built s) (added : s.addFact f = .ok s') : Built s'

def register (ds : List Dimension) (fs : List Fact) : Except SchemaError Schema := do
  fs.foldlM addFact (← ds.foldlM addDimension empty)

def tableNames (s : Schema) : List String :=
  s.facts.map Fact.name ++ s.dimensions.map Dimension.name

/-- A role has the name of a registered table only if that is its dimension, and the name of another
role only if both are of one dimension. -/
structure RolesApart (s : Schema) : Prop where
  tables : ∀ f ∈ s.facts, ∀ r ∈ f.roles, ∀ t ∈ s.table? r.name, t = .dimension r.dimension
  roles : ∀ f ∈ s.facts, ∀ r ∈ f.roles, ∀ g ∈ s.facts, ∀ r' ∈ g.roles, r.name = r'.name →
    r.dimension = r'.dimension

section

variable {s s' : Schema} {d : Dimension} {f : Fact} {t : Table}

theorem checkName_ok {name : String} (checked : s.checkName name = .ok ()) :
    name ∉ s.tableNames := by
  unfold checkName at checked
  split at checked
  · cases checked
  · next free => simpa [tableNames, hasTable, fact?, dimension?] using free

theorem addDimension_ok (added : s.addDimension d = .ok s') :
    d.name ∉ s.tableNames ∧ s' = { s with dimensions := s.dimensions ++ [d] } := by
  obtain ⟨_, free, added⟩ := bind_ok added
  obtain ⟨_, _, added⟩ := bind_ok added
  obtain ⟨_, _, added⟩ := bind_ok added
  obtain ⟨_, _, made⟩ := bind_ok added
  cases made
  exact ⟨checkName_ok free, rfl⟩

theorem addFact_ok (added : s.addFact f = .ok s') :
    f.name ∉ s.tableNames ∧ s' = { s with facts := s.facts ++ [f] } := by
  obtain ⟨_, free, added⟩ := bind_ok added
  obtain ⟨_, _, added⟩ := bind_ok added
  obtain ⟨_, _, added⟩ := bind_ok added
  obtain ⟨_, _, made⟩ := bind_ok added
  cases made
  exact ⟨checkName_ok free, rfl⟩

theorem tableNames_addDimension (added : s.addDimension d = .ok s') :
    s'.tableNames.Perm (d.name :: s.tableNames) := by
  obtain ⟨-, rfl⟩ := addDimension_ok added
  rw [tableNames, tableNames, List.map_append, List.map_singleton, ← List.append_assoc]
  exact List.perm_append_singleton d.name s.tableNames

theorem tableNames_addFact (added : s.addFact f = .ok s') :
    s'.tableNames.Perm (f.name :: s.tableNames) := by
  obtain ⟨-, rfl⟩ := addFact_ok added
  rw [tableNames, tableNames, List.map_append, List.map_singleton, List.append_assoc]
  exact List.perm_middle

theorem Built.nodup (built : s.Built) : s.tableNames.Nodup := by
  induction built with
  | empty => exact List.nodup_nil
  | dimension _ added ih =>
    rw [(tableNames_addDimension added).nodup_iff]
    exact List.nodup_cons.mpr ⟨(addDimension_ok added).1, ih⟩
  | fact _ added ih =>
    rw [(tableNames_addFact added).nodup_iff]
    exact List.nodup_cons.mpr ⟨(addFact_ok added).1, ih⟩

theorem Built.foldlM {α : Type} {add : Schema → α → Except SchemaError Schema}
    (step : ∀ s a s', s.Built → add s a = .ok s' → s'.Built) {as : List α} (built : s.Built)
    (added : as.foldlM add s = .ok s') : s'.Built := by
  induction as generalizing s with
  | nil =>
    cases added
    exact built
  | cons a as ih =>
    rw [List.foldlM_cons] at added
    obtain ⟨between, first, rest⟩ := bind_ok added
    exact ih (step s a between built first) rest

theorem built_register (ds : List Dimension) (fs : List Fact)
    (registered : register ds fs = .ok s) : s.Built := by
  obtain ⟨between, dimensions, facts⟩ := bind_ok registered
  exact (Built.empty.foldlM (fun _ _ _ => .dimension) dimensions).foldlM (fun _ _ _ => .fact) facts

theorem Built.table?_name (built : s.Built) (holds : s.Holds t) :
    s.table? t.name = some t ∨ ∃ r, t = .role r := by
  obtain ⟨facts, dimensions, apart⟩ := List.nodup_append.mp built.nodup
  cases t with
  | fact f =>
    have found : s.fact? f.name = some f := find?_key_of_nodup facts holds
    exact Or.inl (by rw [Table.name, table?, found])
  | dimension d =>
    have found : s.dimension? d.name = some d := find?_key_of_nodup dimensions holds
    have noFact : s.fact? d.name = none := by
      refine List.find?_eq_none.mpr fun f hf sameName => ?_
      exact apart f.name (List.mem_map_of_mem hf) d.name (List.mem_map_of_mem holds)
        (eq_of_beq sameName)
    exact Or.inl (by rw [Table.name, table?, noFact, found, Option.map_some])
  | role r => exact Or.inr ⟨r, rfl⟩

end

end Schema

structure Table.Alike (t u : Table) : Prop where
  fact : t.fact? = u.fact?
  dimension : t.dimension? = u.dimension?

namespace Table

variable {t u : Table}

theorem Alike.symm (alike : t.Alike u) : u.Alike t := ⟨alike.fact.symm, alike.dimension.symm⟩

theorem Alike.physicalName (alike : t.Alike u) : t.physicalName = u.physicalName := by
  obtain ⟨fact, dimension⟩ := alike
  cases t <;> cases u <;> simp_all [fact?, dimension?, Table.physicalName]

theorem Alike.column? (alike : t.Alike u) (name : String) : t.column? name = u.column? name := by
  obtain ⟨fact, dimension⟩ := alike
  cases t <;> cases u <;> simp_all [fact?, dimension?, Table.column?]

end Table

namespace Schema

variable {s : Schema} {t u : Table}

theorem RolesApart.alike_role (built : s.Built) (apart : s.RolesApart) {r : Role}
    (holdsRole : s.Holds (.role r)) (holds : s.Holds t) (sameName : r.name = t.name) :
    (Table.role r).Alike t := by
  obtain ⟨f, hf, hr⟩ := holdsRole
  rcases built.table?_name holds with found | ⟨r', rfl⟩
  · rw [← sameName] at found
    obtain rfl := apart.tables f hf r hr t found
    exact ⟨rfl, rfl⟩
  · obtain ⟨g, hg, hr'⟩ := holds
    exact ⟨rfl, congrArg some (apart.roles f hf r hr g hg r' hr' sameName)⟩

theorem RolesApart.alike (built : s.Built) (apart : s.RolesApart) (ht : s.Holds t)
    (hu : s.Holds u) (sameName : t.name = u.name) : t.Alike u := by
  rcases built.table?_name ht with foundT | ⟨r, rfl⟩
  · rcases built.table?_name hu with foundU | ⟨r, rfl⟩
    · rw [sameName, foundU] at foundT
      cases foundT
      exact ⟨rfl, rfl⟩
    · exact (apart.alike_role built hu ht sameName.symm).symm
  · exact apart.alike_role built ht hu sameName

def shipments : Schema :=
  let date := Dimension.define "date" [
    .column (.ofType "year" .year),
    .column ((Column.ofType "decade" .integer).calculated
      (.binary .div (.ofTable "date" "year") (.literal (.int 10))))]
  let sales := Fact.define "sales" [
    .role { dimension := date, name := "order_date" },
    .role { dimension := date, name := "ship_date" }, .measure (.ofType "total" .money)]
  { facts := [sales], dimensions := [date] }

theorem shipments_built : shipments.Built :=
  built_register shipments.dimensions shipments.facts rfl

theorem shipments_apart : shipments.RolesApart := ⟨by decide, by decide⟩

end Schema

end StarQuery.Model
