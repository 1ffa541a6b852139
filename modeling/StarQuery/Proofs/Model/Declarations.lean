import Mathlib.Data.List.Chain
import Mathlib.Data.List.Sort
import StarQuery.Proofs.Ascending
import StarQuery.Proofs.Model.Reachability

/-!
Hierarchies as they are declared, one implication or pair of implications after another. Main
statement: the closures of a declared hierarchy are what can be reached along the declared
implications; so they depend on nothing but which implications there are, and grow with them.
-/
namespace StarQuery.Model

open Relation (TransGen)

inductive Declaration where
  | implies (element : String) (others : List String)
  | bidirectional (a b : String)
  deriving DecidableEq

namespace Declaration

def apply : Declaration → Hierarchy → Hierarchy
  | .implies element others, h => h.implies element others
  | .bidirectional a b, h => h.bidirectional a b

def edges : Declaration → List (String × String)
  | .implies element others => others.map fun other => (element, other)
  | .bidirectional a b => [(a, b), (b, a)]

end Declaration

def edgesOf (ds : List Declaration) : List (String × String) := ds.flatMap Declaration.edges

namespace Hierarchy

def declared (ds : List Declaration) : Hierarchy := ds.foldl (fun h d => d.apply h) .empty

/-- What the hierarchy says of its elements is what can be reached along the edges. -/
structure ClosedAlong (edges : List (String × String)) (h : Hierarchy) : Prop where
  reached : ∀ a b, b ∈ h.closure a ↔ TransGen (Edge edges) a b
  ascends : ∀ a, Ascending.Ascends (h.closure a)
  cyclic : ∀ a, a ∈ h.closure a ↔ ∃ between, (a :: (between ++ [a])).IsChain (Edge edges)
  unknown : ∀ a, h.contains a = false → h.closure a = []
  determines : ∀ a b, h.determines a b = true ↔ a ≠ b ∧ TransGen (Edge edges) a b
  transitive : ∀ a b c, h.determines a b = true → h.determines b c = true → a ≠ c →
    h.determines a c = true
  bounded : ∀ a, (reach h.implications (targets h.implications a)).length ≤
    2 * h.implications.length

variable {h : Hierarchy} {edge : String × String} {a b x : String} {ds ds' : List Declaration}

theorem mem_implications_link :
    edge ∈ (h.link a b).implications ↔ edge ∈ h.implications ∨ edge = (a, b) := by
  have mentioned : (h.mention b).implications = h.implications := by
    unfold mention
    split <;> rfl
  simp only [link, mentioned]
  split
  · next present =>
    rw [mentioned]
    exact (or_iff_left_of_imp fun same => same ▸ present).symm
  · rw [List.mem_append, List.mem_singleton]

theorem mem_elements_mention : x ∈ (h.mention a).elements ↔ x ∈ h.elements ∨ x = a := by
  unfold mention
  split
  · next present => exact (or_iff_left_of_imp fun same => same ▸ present).symm
  · rw [List.mem_append, List.mem_singleton]

theorem elements_link : (h.link a b).elements = (h.mention b).elements := by
  simp only [link]
  split <;> rfl

theorem mem_implications_implies {element : String} {others : List String} :
    edge ∈ (h.implies element others).implications ↔
      edge ∈ h.implications ∨ edge ∈ others.map fun other => (element, other) := by
  have mentioned : (h.mention element).implications = h.implications := by
    unfold mention
    split <;> rfl
  rw [implies, ← mentioned]
  generalize h.mention element = start
  induction others generalizing start with
  | nil => simp
  | cons other rest ih =>
    have more := ih (start.link element other)
    rw [mem_implications_link, or_assoc] at more
    rw [List.foldl_cons, List.map_cons, List.mem_cons]
    exact more

theorem mem_elements_implies {element : String} {others : List String} :
    x ∈ (h.implies element others).elements ↔ x ∈ h.elements ∨ x = element ∨ x ∈ others := by
  rw [implies, ← or_assoc, ← mem_elements_mention]
  generalize h.mention element = start
  induction others generalizing start with
  | nil => simp
  | cons other rest ih =>
    rw [List.foldl_cons, ih, elements_link, mem_elements_mention, List.mem_cons, or_assoc]

theorem mem_implications_apply {d : Declaration} :
    edge ∈ (d.apply h).implications ↔ edge ∈ h.implications ∨ edge ∈ d.edges := by
  cases d with
  | implies element others => exact mem_implications_implies
  | bidirectional a b =>
    rw [Declaration.apply, bidirectional, mem_implications_implies, mem_implications_implies,
      or_assoc]
    simp [Declaration.edges]

theorem mem_elements_of_edge {d : Declaration} (member : edge ∈ d.edges) :
    edge.1 ∈ (d.apply h).elements := by
  cases d with
  | implies element others =>
    obtain ⟨other, -, rfl⟩ := List.mem_map.mp member
    exact mem_elements_implies.mpr (Or.inr (Or.inl rfl))
  | bidirectional a b =>
    rw [Declaration.apply, bidirectional, mem_elements_implies, mem_elements_implies]
    rcases List.mem_cons.mp member with rfl | member
    · exact Or.inl (Or.inr (Or.inl rfl))
    · obtain rfl := List.mem_singleton.mp member
      exact Or.inr (Or.inl rfl)

theorem elements_subset_apply (d : Declaration) : h.elements ⊆ (d.apply h).elements := by
  intro x member
  cases d with
  | implies element others => exact mem_elements_implies.mpr (Or.inl member)
  | bidirectional a b =>
    exact mem_elements_implies.mpr (Or.inl (mem_elements_implies.mpr (Or.inl member)))

theorem declared_concat (ds : List Declaration) (d : Declaration) :
    declared (ds ++ [d]) = d.apply (declared ds) := by
  rw [declared, List.foldl_append]
  rfl

theorem mem_implications_declared : edge ∈ (declared ds).implications ↔ edge ∈ edgesOf ds := by
  induction ds using List.reverseRecOn with
  | nil => exact Iff.rfl
  | append_singleton ds d ih =>
    rw [declared_concat, mem_implications_apply, ih, edgesOf, edgesOf, List.flatMap_append,
      List.mem_append, List.flatMap_singleton]

theorem edge_declared : Edge (declared ds).implications = Edge (edgesOf ds) := by
  funext a b
  exact propext mem_implications_declared

theorem mem_elements_declared (member : edge ∈ edgesOf ds) : edge.1 ∈ (declared ds).elements := by
  induction ds using List.reverseRecOn with
  | nil => cases member
  | append_singleton ds d ih =>
    rw [declared_concat]
    rw [edgesOf, List.flatMap_append, List.mem_append, List.flatMap_singleton] at member
    rcases member with before | last
    · exact elements_subset_apply d (ih before)
    · exact mem_elements_of_edge last

/-- A name is taken up because it is pending or because an implication leads to it, and implications
are dropped once they have been followed. -/
theorem length_reach_le (edges : List (String × String)) (pending : List String) :
    (reach edges pending).length ≤ edges.length + pending.length := by
  induction edges, pending using reach.induct with
  | case1 edges => simp [reach]
  | case2 edges name pending ih =>
    -- What is taken up was pending or is the target of an edge, and edges are dropped once
    -- followed.
    have parts := targets_length_add_without_length edges name
    rw [List.length_append] at ih
    rw [reach, List.length_cons, List.length_cons]
    omega

theorem length_targets_le (edges : List (String × String)) (name : String) :
    (targets edges name).length ≤ edges.length := by
  have parts := targets_length_add_without_length edges name
  omega

theorem transGen_iff_path {r : String → String → Prop} :
    TransGen r a b ↔ ∃ between, (a :: (between ++ [b])).IsChain r := by
  constructor
  · intro path
    induction path with
    | single step => exact ⟨[], List.isChain_pair.mpr step⟩
    | @tail b c _ step ih =>
      obtain ⟨between, chain⟩ := ih
      refine ⟨between ++ [b], ?_⟩
      rw [List.append_assoc, List.singleton_append, List.isChain_cons_append_cons_cons]
      exact ⟨chain, step, List.isChain_singleton c⟩
  · rintro ⟨between, chain⟩
    induction between generalizing a with
    | nil => exact TransGen.single (List.isChain_pair.mp chain)
    | cons c between ih =>
      obtain ⟨step, rest⟩ := List.isChain_cons_cons.mp chain
      exact TransGen.head step (ih rest)

theorem closedAlong_declared (ds : List Declaration) : (declared ds).ClosedAlong (edgesOf ds) where
  reached a b := by rw [mem_closure_iff, edge_declared]
  ascends a := Ascending.ascends_ofList _
  cyclic a := by rw [mem_closure_iff, edge_declared, transGen_iff_path]
  unknown a absent := by
    rw [List.eq_nil_iff_forall_not_mem]
    intro b member
    rw [mem_closure_iff, edge_declared] at member
    obtain ⟨c, first, -⟩ := Relation.TransGen.head'_iff.mp member
    have present : (declared ds).contains a = true :=
      List.contains_iff_mem.mpr (mem_elements_declared first)
    rw [absent] at present
    cases present
  determines a b := by rw [determines_iff, edge_declared]
  transitive a b c := determines_trans
  bounded a := by
    have whole := length_reach_le (declared ds).implications (targets (declared ds).implications a)
    have first := length_targets_le (declared ds).implications a
    omega

/-- The closures of a declared hierarchy are what can be reached along the declared implications.
More implications take nothing out of them, and the same implications, in whatever order and however
often they are declared, make the same closures. -/
theorem closures_declared (ds ds' : List Declaration) :
    (declared ds).ClosedAlong (edgesOf ds) ∧
      (edgesOf ds ⊆ edgesOf ds' → ∀ a, (declared ds).closure a ⊆ (declared ds').closure a) ∧
      ((∀ edge, edge ∈ edgesOf ds ↔ edge ∈ edgesOf ds') →
        ∀ a, (declared ds).closure a = (declared ds').closure a) := by
  have closed := closedAlong_declared ds
  have closed' := closedAlong_declared ds'
  have grows {ds ds' : List Declaration} (more : edgesOf ds ⊆ edgesOf ds') (a : String) :
      (declared ds).closure a ⊆ (declared ds').closure a := by
    intro b member
    rw [(closedAlong_declared ds).reached] at member
    exact ((closedAlong_declared ds').reached a b).mpr
      (TransGen.mono (fun _ _ edge => more edge) a b member)
  refine ⟨closed, grows, fun same a => ?_⟩
  refine (closed.ascends a).eq_of_mem (closed'.ascends a) fun b => ?_
  exact ⟨fun member => grows (fun edge => (same edge).mp) a member,
    fun member => grows (fun edge => (same edge).mpr) a member⟩

def calendar : List Declaration :=
  [.implies "day" ["month", "year", "month"], .bidirectional "month" "month_name"]

def rearrangedCalendar : List Declaration :=
  [.implies "month_name" ["month"], .implies "day" ["year"], .implies "month" ["month_name"],
    .implies "day" ["month"], .implies "day" ["month"]]

theorem closures_declared_calendar :
    (declared calendar).closure "day" = ["month", "month_name", "year"] ∧
      "month" ∈ (declared calendar).closure "month" ∧
      (∀ a, (declared calendar).closure a = (declared rearrangedCalendar).closure a) ∧
      (declared calendar).ClosedAlong (edgesOf calendar) := by
  obtain ⟨closed, -, same⟩ := closures_declared calendar rearrangedCalendar
  refine ⟨by decide +kernel, ?_, same ?_, closed⟩
  · rw [closed.cyclic]
    exact ⟨["month_name"], by simp [Edge, edgesOf, calendar, Declaration.edges]⟩
  · intro edge
    simp [edgesOf, calendar, rearrangedCalendar, Declaration.edges]
    grind

end Hierarchy

end StarQuery.Model
