import StarQuery.Proofs.Model.SharedDimensions
import StarQuery.Proofs.Query.Grouping
import StarQuery.Proofs.Query.History

/-!
Which selected columns a query is grouped by, whatever order they are selected in. Main statement:
where facts hold registered dimensions, tables that count as the same have one hierarchy, so that
the columns that stay are exactly those that prevail; none of them determines another, and each
column that is left out is determined by one that stays.
-/
namespace StarQuery.Query

open Model (Schema Table)

namespace Projection

variable {cs : List Projection} {x y k : Projection}

theorem mem_owners {p : Projection} {t : Table} (owner : p.owner? = some t) : t ∈ p.owners := by
  cases p
  case aggregate => cases owner
  case pivoted => cases owner
  all_goals
    cases owner
    exact List.mem_singleton_self _

theorem sameElement_iff_of_classmate (mates : x.classmate y = true) :
    y.sameElement x = true ↔ y.hierarchyName? = x.hierarchyName? := by
  obtain ⟨t, a, u, b, hy, hx, same⟩ :
      ∃ t a u b, y.At t a ∧ x.At u b ∧ t.same u = true := by
    rcases classmate_iff.mp mates with together | ⟨determined, -⟩
    · obtain ⟨t, a, u, hy, hx, same⟩ := sameElement_iff.mp together
      exact ⟨t, a, u, a, hy, hx, same⟩
    · obtain ⟨t, a, u, b, hy, hx, same, -⟩ := determines_iff.mp determined
      exact ⟨t, a, u, b, hy, hx, same⟩
  rw [hy.sameElement_iff hx, hy.2, hx.2, Option.some.injEq]
  exact and_iff_right same

namespace OneHierarchy

theorem prevails_of_sameElement (one : OneHierarchy cs) (hx : x ∈ cs) (hy : y ∈ cs)
    (same : x.sameElement y = true) (stays : prevails cs x = true) : prevails cs y = true := by
  obtain ⟨back, first⟩ := prevails_iff.mp stays
  rw [prevails_iff]
  constructor
  · intro z hz determined
    have := back z hz (determines_sameElement determined (sameElement_symm same))
    exact one.sameElement_determines hy hx (sameElement_symm same) this
  · intro z found
    have mates : y.classmate x = true := classmate_iff.mpr (Or.inl same)
    rw [one.find_classmate hy hx mates (List.Subset.refl cs)] at found
    exact sameElement_trans (first z found) same

theorem not_determines_of_prevails (one : OneHierarchy cs) (hx : x ∈ cs) (hy : y ∈ cs)
    (staysX : prevails cs x = true) (staysY : prevails cs y = true) : x.determines y = false := by
  rw [← Bool.not_eq_true]
  intro determined
  have back := (prevails_iff.mp staysY).1 x hx determined
  have mates : y.classmate x = true := classmate_iff.mpr (Or.inr ⟨determined, back⟩)
  -- The first of their class has the name of both.
  obtain ⟨first, found⟩ := Option.isSome_iff_exists.mp (List.find?_isSome.mpr ⟨x, hx, mates⟩)
  have sameY := (prevails_iff.mp staysY).2 first found
  rw [one.find_classmate hy hx mates (List.Subset.refl cs)] at found
  have sameX := (prevails_iff.mp staysX).2 first found
  exact not_determines_of_sameElement (sameElement_trans (sameElement_symm sameX) sameY) determined

theorem exists_prevailing (one : OneHierarchy cs) (self : ∀ p ∈ cs, p.sameElement p = true)
    (hx : x ∈ cs) (left : prevails cs x ≠ true) :
    ∃ k ∈ cs, prevails cs k = true ∧ k.determines x = true := by
  obtain ⟨k, kept, covers⟩ := exists_kept_covering
    (fun a b => a.sameElement b = true ∨ a.determines b = true) (fun a ha => Or.inl (self a ha))
    one.covers_trans (fun _ _ _ _ => Or.inr) hx
  rw [foldl_keep_eq_filter one self, List.mem_filter] at kept
  obtain ⟨hk, stays⟩ := kept
  rcases covers with same | determined
  · exact absurd (one.prevails_of_sameElement hk hx same stays) left
  · exact ⟨k, hk, stays, determined⟩

end OneHierarchy

end Projection

namespace Draft

/-- The grouping is by the columns that prevail: all that determine one of them are determined by
it, and the first selected column of its class has its name. -/
structure GroupsByPrevailing (d : Draft) : Prop where
  kept : d.groupedColumns = d.candidates.filter (Projection.prevails d.candidates)
  stays_iff : ∀ x ∈ d.candidates, x ∈ d.groupedColumns ↔
    (¬∃ y ∈ d.candidates, y.determines x = true ∧ x.determines y = false) ∧
      ∃ y, d.candidates.find? x.classmate = some y ∧ y.hierarchyName? = x.hierarchyName?
  undetermined : ∀ x ∈ d.groupedColumns, ∀ y ∈ d.groupedColumns, x.determines y = false
  covered : ∀ x ∈ d.candidates, x ∉ d.groupedColumns →
    ∃ k ∈ d.groupedColumns, k.determines x = true

variable {d : Draft} {s : Schema} {base : Table} {filters : List Filter}

theorem sameElement_of_candidate {x : Projection} (member : x ∈ d.candidates) :
    x.sameElement x = true :=
  Projection.sameElement_self (mem_candidates.mp member).2

theorem prevails_iff_first {x : Projection} (member : x ∈ d.candidates) :
    Projection.prevails d.candidates x = true ↔
      (¬∃ y ∈ d.candidates, y.determines x = true ∧ x.determines y = false) ∧
        ∃ y, d.candidates.find? x.classmate = some y ∧ y.hierarchyName? = x.hierarchyName? := by
  have own : x.classmate x = true :=
    Projection.classmate_iff.mpr (Or.inl (sameElement_of_candidate member))
  obtain ⟨first, found⟩ :=
    Option.isSome_iff_exists.mp (List.find?_isSome.mpr ⟨x, member, own⟩)
  rw [Projection.prevails_iff, found]
  refine and_congr ?_ ?_
  · simp
  · simp [Projection.sameElement_iff_of_classmate (List.find?_some found)]

theorem groupsByPrevailing (one : Projection.OneHierarchy d.candidates) :
    d.GroupsByPrevailing := by
  have kept := groupedColumns_eq_filter one
  have stays {x : Projection} : x ∈ d.groupedColumns ↔
      x ∈ d.candidates ∧ Projection.prevails d.candidates x = true := by
    rw [kept, List.mem_filter]
  exact {
    kept
    stays_iff := fun x hx => by rw [stays, and_iff_right hx, prevails_iff_first hx]
    undetermined := fun x hx y hy =>
      one.not_determines_of_prevails (stays.mp hx).1 (stays.mp hy).1 (stays.mp hx).2 (stays.mp hy).2
    covered := fun x hx left => by
      obtain ⟨k, hk, staysK, determined⟩ := one.exists_prevailing
        (fun p => sameElement_of_candidate) hx fun staysX => left (stays.mpr ⟨hx, staysX⟩)
      exact ⟨k, stays.mpr ⟨hk, staysK⟩, determined⟩ }

theorem Built.holds_owner (made : d.Built s base filters) (held : s.Holds base) {p : Projection}
    (member : p ∈ d.selected) {t : Table} (owner : p.owner? = some t) : s.Holds t := by
  obtain ⟨settings, yields⟩ := made.selected p member
  exact (yields.parsed.sees_owner (Projection.mem_owners owner)).holds rfl held

theorem Built.oneHierarchy (made : d.Built s base filters) (built : s.Built)
    (shares : s.SharesDimensions) (held : s.Holds base) :
    Projection.OneHierarchy d.candidates := by
  intro a ha b hb t ht u hu same
  exact shares.hierarchy_eq built (made.holds_owner held (mem_candidates.mp ha).1 ht)
    (made.holds_owner held (mem_candidates.mp hb).1 hu) (same_iff.mp same).2

end Draft

/-- Whatever operations led to it, a draft is grouped by the columns that prevail, if the facts of
its schema hold registered dimensions. -/
theorem groupsByPrevailing_after {s : Schema} (built : s.Built) (shares : s.SharesDimensions)
    {name : String} {start : Draft} (started : Draft.start s name = .ok start)
    (ops : List Operation) : (start.after ops).GroupsByPrevailing := by
  obtain ⟨base, found, made⟩ := built_after_start started ops
  exact Draft.groupsByPrevailing
    (made.oneHierarchy built shares (Schema.holds_of_table? found))

def productOperations : List Operation := [
  .call (.select ["product", "product.sku", "product.name"]),
  .call (.select ["product.address", "product.maker"])]

theorem groupsByPrevailing_after_sales :
    ∃ start, Draft.start Schema.sales "sales" = .ok start ∧
      (start.after productOperations).GroupsByPrevailing ∧
      (start.after productOperations).groupedColumns.map Projection.name =
        ["product", "product.name", "product.maker"] := by
  obtain ⟨start, started, names⟩ : ∃ start, Draft.start Schema.sales "sales" = .ok start ∧
      (start.after productOperations).groupedColumns.map Projection.name =
        ["product", "product.name", "product.maker"] :=
    ⟨{ schema := Schema.sales, base := .fact (Schema.sales.facts.head (by decide)) },
      rfl, by decide +kernel⟩
  exact ⟨start, started, groupsByPrevailing_after Schema.sales_built Schema.sales_shares started _,
    names⟩

end StarQuery.Query
