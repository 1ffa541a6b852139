import Mathlib.Logic.Relation
import StarQuery.Model.Hierarchy

/-!
What a column determines, as reachability along the declared implications. Main statements: the
closure of a name holds exactly what can be reached from it in one or more steps, and `determines`
is transitive apart from its ends being different.
-/
namespace StarQuery.Model.Hierarchy

open Relation (ReflTransGen TransGen)

def Edge (edges : List (String × String)) (a b : String) : Prop := (a, b) ∈ edges

theorem mem_targets {edges : List (String × String)} {a b : String} :
    b ∈ targets edges a ↔ Edge edges a b := by
  constructor
  · intro h
    obtain ⟨⟨x, y⟩, hedge, rfl⟩ := List.mem_map.mp h
    obtain ⟨hmem, hx⟩ := List.mem_filter.mp hedge
    obtain rfl : x = a := by simpa using hx
    exact hmem
  · intro h
    exact List.mem_map.mpr ⟨(a, b), List.mem_filter.mpr ⟨h, by simp⟩, rfl⟩

theorem edge_without {edges : List (String × String)} {name a b : String} :
    Edge (without edges name) a b ↔ Edge edges a b ∧ a ≠ name := by
  simp [Edge, without]

/-- A path that leaves `name` for the last time does not need its implications any more. -/
theorem reflTransGen_without {edges : List (String × String)} (name : String) {a b : String}
    (path : ReflTransGen (Edge edges) a b) :
    b = name ∨ ReflTransGen (Edge (without edges name)) a b ∨
      ∃ t, Edge edges name t ∧ ReflTransGen (Edge (without edges name)) t b := by
  induction path with
  | refl => exact Or.inr (Or.inl ReflTransGen.refl)
  | @tail c d _ hedge ih =>
    by_cases hc : c = name
    · subst hc
      exact Or.inr (Or.inr ⟨d, hedge, ReflTransGen.refl⟩)
    · have hstep : Edge (without edges name) c d := edge_without.mpr ⟨hedge, hc⟩
      rcases ih with rfl | hpath | ⟨t, ht, hpath⟩
      · exact absurd rfl hc
      · exact Or.inr (Or.inl (hpath.tail hstep))
      · exact Or.inr (Or.inr ⟨t, ht, hpath.tail hstep⟩)

theorem reflTransGen_of_without {edges : List (String × String)} {name a b : String}
    (path : ReflTransGen (Edge (without edges name)) a b) : ReflTransGen (Edge edges) a b :=
  ReflTransGen.mono (fun _ _ h => (edge_without.mp h).1) a b path

theorem mem_reach_iff {edges : List (String × String)} {pending : List String} {b : String} :
    b ∈ reach edges pending ↔ ∃ a ∈ pending, ReflTransGen (Edge edges) a b := by
  induction edges, pending using reach.induct with
  | case1 edges => simp [reach]
  | case2 edges name pending ih =>
    rw [reach, List.mem_cons, ih]
    constructor
    · rintro (rfl | ⟨a, ha, path⟩)
      · exact ⟨b, List.mem_cons_self, ReflTransGen.refl⟩
      · have hpath := reflTransGen_of_without path
        rcases List.mem_append.mp ha with htarget | hpending
        · exact ⟨name, List.mem_cons_self, hpath.head (mem_targets.mp htarget)⟩
        · exact ⟨a, List.mem_cons_of_mem name hpending, hpath⟩
    · rintro ⟨a, ha, path⟩
      rcases reflTransGen_without name path with hb | hpath | ⟨t, ht, hpath⟩
      · exact Or.inl hb
      · rcases List.mem_cons.mp ha with rfl | hpending
        · -- the first step away from `name` is one of those that are followed now
          rcases hpath.cases_head with rfl | ⟨c, hedge, -⟩
          · exact Or.inl rfl
          · exact absurd rfl (edge_without.mp hedge).2
        · exact Or.inr ⟨a, List.mem_append_right _ hpending, hpath⟩
      · exact Or.inr ⟨t, List.mem_append_left _ (mem_targets.mpr ht), hpath⟩

theorem mem_closure_iff {h : Hierarchy} {a b : String} :
    b ∈ h.closure a ↔ TransGen (Edge h.implications) a b := by
  rw [closure, Ascending.mem_ofList, mem_reach_iff]
  constructor
  · rintro ⟨c, hc, path⟩
    exact TransGen.head' (mem_targets.mp hc) path
  · intro path
    obtain ⟨c, hedge, hpath⟩ := TransGen.head'_iff.mp path
    exact ⟨c, mem_targets.mpr hedge, hpath⟩

theorem determines_iff {h : Hierarchy} {a b : String} :
    h.determines a b = true ↔ a ≠ b ∧ TransGen (Edge h.implications) a b := by
  rw [determines, Bool.and_eq_true, List.contains_iff_mem, mem_closure_iff, bne_iff_ne]

theorem determines_trans {h : Hierarchy} {a b c : String} (hab : h.determines a b = true)
    (hbc : h.determines b c = true) (hac : a ≠ c) : h.determines a c = true :=
  determines_iff.mpr ⟨hac, (determines_iff.mp hab).2.trans (determines_iff.mp hbc).2⟩

end StarQuery.Model.Hierarchy
