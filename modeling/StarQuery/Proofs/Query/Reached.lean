import StarQuery.Proofs.Model.SharedDimensions
import StarQuery.Proofs.Query.Spellings

/-!
What references reach through roles. Main statement: through a role a path finds what it finds in
the dimension that the role holds, and that is the registered dimension of its name exactly if the
fact was registered with it. A fact with a namesake of a registered dimension is registered as well.
-/
namespace StarQuery.Query

open Model (Column Dimension Fact Registration Role Schema Table)

variable {t u : Table} {p : Projection}

def Projection.ownedBy (t : Table) : Projection → Projection
  | .attribute _ column => .attribute t column
  | .dimension _ main key => .dimension t main key
  | .identifier _ column key => .identifier t column key
  | .calculated _ column => .calculated t column
  | .aggregate inner op => .aggregate inner op
  | .pivoted value pivot index key => .pivoted value pivot index key

def Target.ownedBy (t : Table) (target : Target) : Target :=
  { target with projection := target.projection.ownedBy t }

/-- Paths find in `t` what they find in `u`: the same columns with the same keys, which take the
same values in a crosstab and settle each other alike. -/
structure Scope.Mirrors (s : Scope) (t u : Table) : Prop where
  columns : ∀ path leading names,
    SameOutcome (s.denote path leading t names)
      ((s.denote path leading u names).map (Target.ownedBy t))
  domains : ∀ p : Projection, p.owner? = some u →
    SameOutcome (s.pivotDomain (p.ownedBy t)) (s.pivotDomain p)
  implications : ∀ p q : Projection, p.owner? = some u → q.owner? = some u →
    (p.ownedBy t).determines (q.ownedBy t) = p.determines q

theorem Projection.owner?_ownedBy (owner : p.owner? = some u) :
    (p.ownedBy t).owner? = some t ∧ (p.ownedBy t).hierarchyName? = p.hierarchyName? := by
  cases p
  case aggregate => cases owner
  case pivoted => cases owner
  all_goals exact ⟨rfl, rfl⟩

namespace Scope

variable {s : Scope}

theorem columnOf_ownedBy (alike : t.Alike u) (c : Column) :
    s.columnOf t c = (s.columnOf u c).ownedBy t := by
  have identified : identified? t c = identified? u c := by
    rw [identified?, identified?, alike.dimension]
  unfold columnOf
  rw [identified]
  split
  · rfl
  · split <;> rfl

theorem denote_ownedBy (alike : t.Alike u) (path : String) (leading : Option Aggregate)
    (names : List String) :
    SameOutcome (s.denote path leading t names)
      ((s.denote path leading u names).map (Target.ownedBy t)) := by
  cases names with
  | nil =>
    simp only [denote, wholeTable, alike.dimension]
    split
    · exact .same _
    · exact .errors rfl
  | cons name rest =>
    simp only [denote, wholeTable, alike.column?, alike.dimension, columnOf_ownedBy alike]
    split
    · split
      · exact .same _
      · split
        · cases leading <;> exact .same _
        · exact .same _
      · exact .same _
    · split
      · cases leading
        · split
          · exact .same _
          · exact .errors rfl
        · exact .same _
      · exact .errors rfl

theorem pivotDomain_ownedBy (alike : t.Alike u) (owner : p.owner? = some u) :
    SameOutcome (s.pivotDomain (p.ownedBy t)) (s.pivotDomain p) := by
  have column : pivotColumn? (p.ownedBy t) = pivotColumn? p := by
    cases p
    case dimension =>
      cases owner
      rw [Projection.ownedBy, pivotColumn?, pivotColumn?, alike.dimension]
    all_goals rfl
  unfold pivotDomain
  rw [column]
  split
  · exact .errors rfl
  · cases domain s.settings.maxPivotSpan _ with
    | error fault => exact .errors rfl
    | ok keys => exact .same _

theorem mirrors_of_alike (s : Scope) (alike : t.Alike u) : s.Mirrors t u where
  columns := denote_ownedBy alike
  domains := fun _ => pivotDomain_ownedBy alike
  implications := by
    intro p q hp hq
    obtain ⟨ownerP, nameP⟩ := Projection.owner?_ownedBy (t := t) hp
    obtain ⟨ownerQ, nameQ⟩ := Projection.owner?_ownedBy (t := t) hq
    rw [Projection.determines, Projection.determines, ownerP, ownerQ, nameP, nameQ, hp, hq]
    cases p.hierarchyName? with
    | none => rfl
    | some x =>
      cases q.hierarchyName? with
      | none => rfl
      | some y => simp [Table.same, alike.hierarchy]

end Scope

/-- After registrations, facts hold registered dimensions exactly if they came with them; each
dimension that a fact holds has a registered namesake, which is it only if it is registered itself.
On any base, what a table shows under the name of a role is what it shows without; and where facts
came with registered dimensions, all that references denote belongs to registered tables. -/
theorem reached_dimensions (rs : List Registration) :
    ((Schema.empty.after rs).SharesDimensions ↔ Schema.empty.HandsOut rs) ∧
    (∀ f ∈ (Schema.empty.after rs).facts, ∀ r ∈ f.roles, ∃ d,
      (Schema.empty.after rs).dimension? r.dimension.name = some d ∧
        (r.dimension = d ↔ r.dimension ∈ (Schema.empty.after rs).dimensions)) ∧
    ∀ s : Scope, s.schema = Schema.empty.after rs → (∀ base ∈ s.base, s.schema.Holds base) →
      (∀ t, s.Mirrors t t.original) ∧
        (Schema.empty.HandsOut rs → ∀ p, s.Yields p → ∀ t ∈ p.owners,
          s.schema.table? t.physicalName = some t.original) := by
  have built := Schema.built_after rs
  refine ⟨Schema.sharesDimensions_iff_handsOut rs,
    fun f hf r hr => Schema.exists_namesake built (Schema.wellFormed_after rs) hf hr, ?_⟩
  intro s sameSchema heldBase
  refine ⟨fun t => Scope.mirrors_of_alike s t.alike_original, fun handed p yields t owner => ?_⟩
  have shares := (Schema.sharesDimensions_iff_handsOut rs).mpr handed
  rw [← sameSchema] at built shares
  exact shares.table?_original built ((yields.parsed.sees_owner owner).held heldBase)

def productSales (columns : List Column) : List Registration := [
  .dimension "product" [.column (.ofType "name" .string)],
  .fact "sales" [.role (.ofDimension (.define "product" (columns.map .column))),
    .measure (.ofType "total" .money)]]

theorem reached_dimensions_product :
    Schema.empty.HandsOut (productSales [.ofType "name" .string]) ∧
      ∃ (s : Scope) (c : Column) (r : Role),
        s.schema = Schema.empty.after (productSales [.ofType "name" .string]) ∧
        s.parse "product.name" = .ok [.attribute (.role r) c] ∧
        s.schema.table? "product" = some (.dimension r.dimension) ∧
        s.Mirrors (.role r) (.dimension r.dimension) := by
  obtain ⟨shares, -, reached⟩ := reached_dimensions (productSales [.ofType "name" .string])
  have handed := shares.mp (by decide +kernel)
  obtain ⟨s, c, r, sameSchema, heldBase, named, parsed⟩ : ∃ (s : Scope) (c : Column) (r : Role),
      s.schema = Schema.empty.after (productSales [.ofType "name" .string]) ∧
      (∀ base ∈ s.base, s.schema.Holds base) ∧ r.dimension.name = "product" ∧
      s.parse "product.name" = .ok [.attribute (.role r) c] := by
    let product := Model.Dimension.define "product" [.column (.ofType "name" .string)]
    let sales := Fact.define "sales"
      [.role (.ofDimension product), .measure (.ofType "total" .money)]
    refine ⟨scopeOf (Schema.empty.after (productSales [.ofType "name" .string])) (.fact sales) {},
      .ofType "name" .string, .ofDimension product, rfl, ?_, rfl, by decide +kernel⟩
    rintro _ ⟨⟩
    exact (by decide +kernel : sales ∈ (Schema.empty.after
      (productSales [.ofType "name" .string])).facts)
  obtain ⟨mirrors, found⟩ := reached s sameSchema heldBase
  have registered := found handed _ ⟨_, _, parsed, List.mem_singleton_self _⟩ (.role r)
    (List.mem_singleton_self _)
  rw [Table.physicalName, named] at registered
  exact ⟨handed, s, c, r, sameSchema, parsed, registered, mirrors (.role r)⟩

/-- A fact is registered with a namesake of a registered dimension, whatever columns that has. -/
theorem not_all_dimensions_registered :
    ¬∀ rs : List Registration, ∀ f ∈ (Schema.empty.after rs).facts, ∀ r ∈ f.roles, ∃ d,
      (Schema.empty.after rs).dimension? r.dimension.name = some d ∧
        r.dimension.columns = d.columns ∧ r.dimension.identifiers = d.identifiers ∧
        r.dimension.naturalKey = d.naturalKey ∧ r.dimension.hierarchy = d.hierarchy := by
  intro all
  have own : ∀ f ∈ (Schema.empty.after (productSales [.ofType "sku" .string])).facts,
      ∀ r ∈ f.roles, ∀ d ∈ (Schema.empty.after (productSales [.ofType "sku" .string])).dimension?
        r.dimension.name, r.dimension.columns = d.columns := by
    intro f hf r hr d found
    obtain ⟨d', found', columns, -⟩ := all _ f hf r hr
    rw [found'] at found
    cases found
    exact columns
  revert own
  decide +kernel

end StarQuery.Query
