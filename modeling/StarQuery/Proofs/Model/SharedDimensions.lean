import StarQuery.Proofs.Model.Registration

/-!
The dimensions that facts hold. A role brings a dimension along, and registering its fact looks only
at the name of that dimension. Main statement: after any registrations the facts hold registered
dimensions exactly if each fact came with dimensions that had been registered before it.
-/
namespace StarQuery.Model

def Table.original : Table → Table
  | .role r => .dimension r.dimension
  | .fact f => .fact f
  | .dimension d => .dimension d

theorem Table.name_original (t : Table) : t.original.name = t.physicalName := by
  cases t <;> rfl

theorem Table.alike_original (t : Table) : t.Alike t.original := by
  cases t <;> exact ⟨rfl, rfl⟩

theorem Table.Alike.hierarchy {t u : Table} (alike : t.Alike u) : t.hierarchy = u.hierarchy := by
  obtain ⟨fact, dimension⟩ := alike
  cases t <;> cases u <;> simp_all [fact?, dimension?, Table.hierarchy]

def Registration.handles : Registration → List Dimension
  | .dimension _ _ => []
  | .fact name clauses => (Fact.define name clauses).roles.map Role.dimension

namespace Schema

/-- Facts hold registered dimensions. -/
def SharesDimensions (s : Schema) : Prop :=
  ∀ f ∈ s.facts, ∀ r ∈ f.roles, r.dimension ∈ s.dimensions

instance (s : Schema) : Decidable s.SharesDimensions :=
  inferInstanceAs (Decidable (∀ f ∈ s.facts, ∀ r ∈ f.roles, r.dimension ∈ s.dimensions))

/-- Each table that is not refused brings along registered dimensions only. -/
def HandsOut (s : Schema) : List Registration → Prop
  | [] => True
  | r :: rest =>
    match r.apply s with
    | .ok s' => (∀ d ∈ r.handles, d ∈ s.dimensions) ∧ s'.HandsOut rest
    | .error _ => s.HandsOut rest

variable {s s' : Schema} {t u : Table} {d : Dimension} {name : String}

theorem Built.dimension?_eq_some_iff (built : s.Built) :
    s.dimension? name = some d ↔ d ∈ s.dimensions ∧ d.name = name := by
  constructor
  · intro found
    exact ⟨List.mem_of_find?_eq_some found, by simpa using List.find?_some found⟩
  · rintro ⟨member, rfl⟩
    exact find?_key_of_nodup (List.nodup_append.mp built.nodup).2.1 member

theorem exists_namesake (built : s.Built) (wellFormed : s.WellFormed) {f : Fact} (hf : f ∈ s.facts)
    {r : Role} (hr : r ∈ f.roles) :
    ∃ d, s.dimension? r.dimension.name = some d ∧
      (r.dimension = d ↔ r.dimension ∈ s.dimensions) := by
  obtain ⟨d, registered, sameName⟩ := List.mem_map.mp (wellFormed.roles f hf r hr)
  have found := built.dimension?_eq_some_iff.mpr ⟨registered, sameName⟩
  refine ⟨d, found, ?_⟩
  constructor
  · rintro rfl
    exact registered
  · intro own
    exact Option.some.inj ((built.dimension?_eq_some_iff.mpr ⟨own, rfl⟩).symm.trans found)

theorem SharesDimensions.original (shares : s.SharesDimensions) (holds : s.Holds t) :
    t.original ∈ s.entries := by
  cases t with
  | fact f => exact List.mem_append_left _ (List.mem_map_of_mem holds)
  | dimension d => exact List.mem_append_right _ (List.mem_map_of_mem holds)
  | role r =>
    obtain ⟨f, hf, hr⟩ := holds
    exact List.mem_append_right _ (List.mem_map_of_mem (shares f hf r hr))

theorem SharesDimensions.table?_original (built : s.Built) (shares : s.SharesDimensions)
    (holds : s.Holds t) : s.table? t.physicalName = some t.original :=
  built.table?_eq_some_iff.mpr ⟨shares.original holds, t.name_original⟩

theorem SharesDimensions.hierarchy_eq (built : s.Built) (shares : s.SharesDimensions)
    (ht : s.Holds t) (hu : s.Holds u) (same : t.physicalName = u.physicalName) :
    t.hierarchy = u.hierarchy := by
  have found := shares.table?_original built ht
  rw [same, shares.table?_original built hu] at found
  rw [t.alike_original.hierarchy, u.alike_original.hierarchy, Option.some.inj found]

theorem sharesDimensions_apply_iff (wellFormed : s.WellFormed) {r : Registration}
    (added : r.apply s = .ok s') :
    s'.SharesDimensions ↔ s.SharesDimensions ∧ ∀ d ∈ r.handles, d ∈ s.dimensions := by
  cases r with
  | dimension name clauses =>
    obtain ⟨⟨free, -⟩, rfl⟩ := addDimension_ok_iff.mp added
    rw [Registration.handles, and_iff_left nofun]
    refine forall₂_congr fun f hf => forall₂_congr fun role hr => ?_
    rw [List.mem_append, List.mem_singleton, or_iff_left]
    -- A dimension that no fact could name yet is held by none.
    intro new
    refine free (List.mem_append_right _ ?_)
    rw [← new]
    exact wellFormed.roles f hf role hr
  | fact name clauses =>
    obtain ⟨-, rfl⟩ := addFact_ok_iff.mp added
    rw [Registration.handles, List.forall_mem_map]
    exact List.forall_mem_append.trans (and_congr Iff.rfl List.forall_mem_singleton)

theorem sharesDimensions_after_iff (wellFormed : s.WellFormed) (rs : List Registration) :
    (s.after rs).SharesDimensions ↔ s.SharesDimensions ∧ s.HandsOut rs := by
  induction rs generalizing s with
  | nil => exact (and_iff_left trivial).symm
  | cons r rest ih =>
    cases outcome : r.apply s with
    | error e =>
      simp only [after, HandsOut, outcome]
      exact ih wellFormed
    | ok s' =>
      simp only [after, HandsOut, outcome]
      rw [ih (wellFormed.apply outcome), sharesDimensions_apply_iff wellFormed outcome, and_assoc]

/-- Facts hold registered dimensions exactly if they came with them. -/
theorem sharesDimensions_iff_handsOut (rs : List Registration) :
    (empty.after rs).SharesDimensions ↔ empty.HandsOut rs := by
  rw [sharesDimensions_after_iff wellFormed_empty, and_iff_right]
  exact nofun

theorem sales_built : sales.Built := built_register sales.dimensions sales.facts rfl

theorem sales_shares : sales.SharesDimensions := by decide

end Schema

end StarQuery.Model
