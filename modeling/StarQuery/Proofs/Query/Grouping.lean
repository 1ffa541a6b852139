import Mathlib.Data.List.Induction
import StarQuery.Proofs.Model.Reachability
import StarQuery.Query.Plan

/-!
The columns that a query is grouped by. Main statements: every column that could be grouped by is
covered by one that stays; and if tables of one name have one hierarchy, then a column stays exactly
when those that determine it are determined by it and the first of them has its name.
-/
namespace StarQuery.Query

open Model (Hierarchy Table)

theorem same_iff {t u : Table} :
    t.same u = true ↔ t.name = u.name ∧ t.physicalName = u.physicalName := by
  simp [Table.same]

theorem same_symm {t u : Table} (h : t.same u = true) : u.same t = true := by
  rw [same_iff] at h ⊢
  exact ⟨h.1.symm, h.2.symm⟩

theorem same_trans {t u v : Table} (htu : t.same u = true) (huv : u.same v = true) :
    t.same v = true := by
  rw [same_iff] at htu huv ⊢
  exact ⟨htu.1.trans huv.1, htu.2.trans huv.2⟩

namespace Projection

def sameElement (a b : Projection) : Bool :=
  match a.owner?, b.owner?, a.hierarchyName?, b.hierarchyName? with
  | some t, some u, some x, some y => t.same u && x == y
  | _, _, _, _ => false

def At (p : Projection) (t : Table) (x : String) : Prop :=
  p.owner? = some t ∧ p.hierarchyName? = some x

/-- What is shown of a column that can be grouped by, and its key, belong to its only table. -/
structure GroupedOn (p : Projection) (t : Table) (shown key : String) : Prop where
  owner : p.owner? = some t
  owners : p.owners = [t]
  element : p.hierarchyName? = some shown
  expr : p.expr = .ofTable t.name shown
  groupExpr : p.groupExpr? = some (.ofTable t.name key)

theorem exists_groupedOn {p : Projection} (groupable : p.groupExpr?.isSome = true) :
    ∃ t shown key, p.GroupedOn t shown key := by
  cases p
  · next owner column => exact ⟨owner, column.name, column.name, rfl, rfl, rfl, rfl, rfl⟩
  · next owner main key => exact ⟨owner, main.getD key, key, rfl, rfl, rfl, rfl, rfl⟩
  · next owner column key => exact ⟨owner, column.name, key, rfl, rfl, rfl, rfl, rfl⟩
  all_goals exact absurd groupable Bool.false_ne_true

theorem At.determines_iff {a b : Projection} {t u : Table} {x y : String} (ha : a.At t x)
    (hb : b.At u y) :
    a.determines b = true ↔ t.same u = true ∧ t.hierarchy.determines x y = true := by
  rw [determines, ha.1, ha.2, hb.1, hb.2]
  exact Bool.and_eq_true_iff

theorem At.sameElement_iff {a b : Projection} {t u : Table} {x y : String} (ha : a.At t x)
    (hb : b.At u y) : a.sameElement b = true ↔ t.same u = true ∧ x = y := by
  rw [sameElement, ha.1, ha.2, hb.1, hb.2]
  simp

theorem determines_iff {a b : Projection} :
    a.determines b = true ↔ ∃ t x u y,
      a.At t x ∧ b.At u y ∧ t.same u = true ∧ t.hierarchy.determines x y = true := by
  constructor
  · intro h
    unfold determines at h
    split at h
    · next t u x y ht hu hx hy =>
      exact ⟨t, x, u, y, ⟨ht, hx⟩, ⟨hu, hy⟩, Bool.and_eq_true_iff.mp h⟩
    · cases h
  · rintro ⟨t, x, u, y, ha, hb, h⟩
    exact (ha.determines_iff hb).mpr h

theorem sameElement_iff {a b : Projection} :
    a.sameElement b = true ↔ ∃ t x u, a.At t x ∧ b.At u x ∧ t.same u = true := by
  constructor
  · intro h
    unfold sameElement at h
    split at h
    · next t u x y ht hu hx hy =>
      obtain ⟨hsame, hxy⟩ := Bool.and_eq_true_iff.mp h
      obtain rfl : x = y := by simpa using hxy
      exact ⟨t, x, u, ⟨ht, hx⟩, ⟨hu, hy⟩, hsame⟩
    · cases h
  · rintro ⟨t, x, u, ha, hb, h⟩
    exact (ha.sameElement_iff hb).mpr ⟨h, rfl⟩

theorem At.unique {p : Projection} {t u : Table} {x y : String} (h : p.At t x) (h' : p.At u y) :
    t = u ∧ x = y :=
  ⟨Option.some.inj (h.1.symm.trans h'.1), Option.some.inj (h.2.symm.trans h'.2)⟩

theorem sameElement_self {p : Projection} (groupable : p.groupExpr?.isSome = true) :
    p.sameElement p = true := by
  obtain ⟨t, x, key, on⟩ := exists_groupedOn groupable
  have h : p.At t x := ⟨on.owner, on.element⟩
  exact sameElement_iff.mpr ⟨t, x, t, h, h, same_iff.mpr ⟨rfl, rfl⟩⟩

theorem sameElement_symm {a b : Projection} (h : a.sameElement b = true) :
    b.sameElement a = true := by
  obtain ⟨t, x, u, ha, hb, hsame⟩ := sameElement_iff.mp h
  exact sameElement_iff.mpr ⟨u, x, t, hb, ha, same_symm hsame⟩

theorem sameElement_trans {a b c : Projection} (hab : a.sameElement b = true)
    (hbc : b.sameElement c = true) : a.sameElement c = true := by
  obtain ⟨t, x, u, ha, hb, htu⟩ := sameElement_iff.mp hab
  obtain ⟨u', x', v, hb', hc, huv⟩ := sameElement_iff.mp hbc
  obtain ⟨rfl, rfl⟩ := hb.unique hb'
  exact sameElement_iff.mpr ⟨t, x, v, ha, hc, same_trans htu huv⟩

theorem not_determines_of_sameElement {a b : Projection} (h : a.sameElement b = true) :
    a.determines b ≠ true := by
  intro hdet
  obtain ⟨t, x, u, ha, hb, -⟩ := sameElement_iff.mp h
  exact (Hierarchy.determines_iff.mp ((ha.determines_iff hb).mp hdet).2).1 rfl

theorem determines_sameElement {a b c : Projection} (hab : a.determines b = true)
    (hbc : b.sameElement c = true) : a.determines c = true := by
  obtain ⟨t, x, u, y, ha, hb, htu, hdet⟩ := determines_iff.mp hab
  obtain ⟨u', y', v, hb', hc, huv⟩ := sameElement_iff.mp hbc
  obtain ⟨rfl, rfl⟩ := hb.unique hb'
  exact determines_iff.mpr ⟨t, x, v, y, ha, hc, same_trans htu huv, hdet⟩

/-- The columns of tables that count as the same have the same hierarchy. -/
def OneHierarchy (cs : List Projection) : Prop :=
  ∀ a ∈ cs, ∀ b ∈ cs, ∀ t ∈ a.owner?, ∀ u ∈ b.owner?, t.same u = true → t.hierarchy = u.hierarchy

instance (cs : List Projection) : Decidable (OneHierarchy cs) :=
  inferInstanceAs (Decidable (∀ a ∈ cs, ∀ b ∈ cs, ∀ t ∈ a.owner?, ∀ u ∈ b.owner?,
    t.same u = true → t.hierarchy = u.hierarchy))

namespace OneHierarchy

variable {cs : List Projection} {a b c : Projection}

theorem mono {front : List Projection} (one : OneHierarchy cs) (inside : front ⊆ cs) :
    OneHierarchy front :=
  fun a ha b hb => one a (inside ha) b (inside hb)

theorem sameElement_determines (one : OneHierarchy cs) (ha : a ∈ cs) (hb : b ∈ cs)
    (hab : a.sameElement b = true) (hbc : b.determines c = true) : a.determines c = true := by
  obtain ⟨t, x, u, hat, hbt, htu⟩ := sameElement_iff.mp hab
  obtain ⟨u', x', v, z, hbt', hct, huv, hdet⟩ := determines_iff.mp hbc
  obtain ⟨rfl, rfl⟩ := hbt.unique hbt'
  rw [← one a ha b hb t hat.1 u hbt.1 htu] at hdet
  exact determines_iff.mpr ⟨t, x, v, z, hat, hct, same_trans htu huv, hdet⟩

theorem determines_trans (one : OneHierarchy cs) (ha : a ∈ cs) (hb : b ∈ cs)
    (hab : a.determines b = true) (hbc : b.determines c = true) :
    a.sameElement c = true ∨ a.determines c = true := by
  obtain ⟨t, x, u, y, hat, hbt, htu, hxy⟩ := determines_iff.mp hab
  obtain ⟨u', y', v, z, hbt', hct, huv, hyz⟩ := determines_iff.mp hbc
  obtain ⟨rfl, rfl⟩ := hbt.unique hbt'
  rw [← one a ha b hb t hat.1 u hbt.1 htu] at hyz
  by_cases hxz : x = z
  · subst hxz
    exact Or.inl (sameElement_iff.mpr ⟨t, x, v, hat, hct, same_trans htu huv⟩)
  · exact Or.inr (determines_iff.mpr
      ⟨t, x, v, z, hat, hct, same_trans htu huv, Hierarchy.determines_trans hxy hyz hxz⟩)

theorem covers_trans (one : OneHierarchy cs) :
    ∀ a ∈ cs, ∀ b ∈ cs, ∀ c ∈ cs, (a.sameElement b = true ∨ a.determines b = true) →
      (b.sameElement c = true ∨ b.determines c = true) →
      (a.sameElement c = true ∨ a.determines c = true) := by
  rintro a ha b hb c _ (hab | hab) (hbc | hbc)
  · exact Or.inl (sameElement_trans hab hbc)
  · exact Or.inr (one.sameElement_determines ha hb hab hbc)
  · exact Or.inr (determines_sameElement hab hbc)
  · exact one.determines_trans ha hb hab hbc

end OneHierarchy

def classmate (x y : Projection) : Bool :=
  y.sameElement x || (y.determines x && x.determines y)

/-- Among the columns, those that determine `x` are determined by it, and the first of its class has
its name. -/
def prevails (cs : List Projection) (x : Projection) : Bool :=
  cs.all (fun y => !y.determines x || x.determines y) &&
    (cs.find? x.classmate).all (·.sameElement x)

theorem classmate_iff {x y : Projection} :
    x.classmate y = true ↔
      y.sameElement x = true ∨ (y.determines x = true ∧ x.determines y = true) := by
  rw [classmate, Bool.or_eq_true, Bool.and_eq_true]

theorem classmate_symm {x y : Projection} (h : x.classmate y = true) : y.classmate x = true := by
  rw [classmate_iff] at h ⊢
  exact h.imp sameElement_symm And.symm

theorem OneHierarchy.classmate_trans {cs : List Projection} {x y z : Projection}
    (one : OneHierarchy cs) (hx : x ∈ cs) (hy : y ∈ cs) (hz : z ∈ cs)
    (hxy : x.classmate y = true) (hyz : y.classmate z = true) : x.classmate z = true := by
  rw [classmate_iff] at hxy hyz ⊢
  rcases hxy with hyx | ⟨hyx, hxy⟩ <;> rcases hyz with hzy | ⟨hzy, hyz⟩
  · exact Or.inl (sameElement_trans hzy hyx)
  · exact Or.inr ⟨determines_sameElement hzy hyx,
      one.sameElement_determines hx hy (sameElement_symm hyx) hyz⟩
  · exact Or.inr ⟨one.sameElement_determines hz hy hzy hyx,
      determines_sameElement hxy (sameElement_symm hzy)⟩
  · rcases one.determines_trans hz hy hzy hyx with hsame | hzx
    · exact Or.inl hsame
    · rcases one.determines_trans hx hy hxy hyz with hsame | hxz
      · exact Or.inl (sameElement_symm hsame)
      · exact Or.inr ⟨hzx, hxz⟩

theorem OneHierarchy.find_classmate {cs : List Projection} {x y : Projection}
    (one : OneHierarchy cs) (hx : x ∈ cs) (hy : y ∈ cs) (h : x.classmate y = true)
    {front : List Projection} (inside : front ⊆ cs) :
    front.find? x.classmate = front.find? y.classmate := by
  induction front with
  | nil => rfl
  | cons z rest ih =>
    obtain ⟨hz, hrest⟩ := List.cons_subset.mp inside
    have hsame : x.classmate z = y.classmate z := by
      rw [Bool.eq_iff_iff]
      exact ⟨one.classmate_trans hy hx hz (classmate_symm h), one.classmate_trans hx hy hz h⟩
    rw [List.find?_cons, List.find?_cons, hsame, ih hrest]

theorem prevails_iff {cs : List Projection} {x : Projection} :
    prevails cs x = true ↔
      (∀ y ∈ cs, y.determines x = true → x.determines y = true) ∧
        ∀ y, cs.find? x.classmate = some y → y.sameElement x = true := by
  rw [prevails, Bool.and_eq_true, List.all_eq_true, Option.all_eq_true]
  refine and_congr (forall₂_congr fun y _ => ?_) Iff.rfl
  cases y.determines x <;> simp

end Projection

namespace Draft

def candidates (d : Draft) : List Projection := d.selected.filter (·.groupExpr?.isSome)

theorem mem_candidates {d : Draft} {p : Projection} :
    p ∈ d.candidates ↔ p ∈ d.selected ∧ p.groupExpr?.isSome = true :=
  List.mem_filter

end Draft

theorem mem_keep {kept : List Projection} {c k : Projection} (member : k ∈ keep kept c) :
    k ∈ kept ∨ k = c := by
  unfold keep at member
  split at member
  · exact Or.inl member
  · rcases List.mem_append.mp member with old | new
    · exact Or.inl (List.mem_filter.mp old).1
    · exact Or.inr (List.mem_singleton.mp new)

theorem mem_foldl_keep {cs : List Projection} {k : Projection} (member : k ∈ cs.foldl keep []) :
    k ∈ cs := by
  induction cs using List.reverseRecOn with
  | nil => exact member
  | append_singleton cs c ih =>
    rw [List.foldl_append] at member
    rcases mem_keep member with old | rfl
    · exact List.mem_append_left [c] (ih old)
    · exact List.mem_append_right cs (List.mem_singleton_self k)

/-- A column that is not added, or taken out again, is covered by the one that determines it. -/
theorem exists_kept_covering (covers : Projection → Projection → Prop) {cs : List Projection}
    (refl : ∀ a ∈ cs, covers a a)
    (trans : ∀ a ∈ cs, ∀ b ∈ cs, ∀ c ∈ cs, covers a b → covers b c → covers a c)
    (determined : ∀ a ∈ cs, ∀ b ∈ cs, a.determines b = true → covers a b)
    {c : Projection} (member : c ∈ cs) : ∃ k ∈ cs.foldl keep [], covers k c := by
  suffices h : ∀ front, front ⊆ cs → ∀ c ∈ front, ∃ k ∈ front.foldl keep [], covers k c from
    h cs (List.Subset.refl cs) c member
  intro front
  induction front using List.reverseRecOn with
  | nil =>
    intro _ c member
    cases member
  | append_singleton front last ih =>
    intro inside c member
    obtain ⟨insideFront, insideLast⟩ := List.append_subset.mp inside
    have hlast : last ∈ cs := insideLast (List.mem_singleton_self last)
    have hkept : ∀ k ∈ front.foldl keep [], k ∈ cs := fun k hk => insideFront (mem_foldl_keep hk)
    rw [List.foldl_append, List.foldl_cons, List.foldl_nil, keep]
    split
    · next implied =>
      rcases List.mem_append.mp member with old | new
      · exact ih insideFront c old
      · obtain rfl := List.mem_singleton.mp new
        obtain ⟨k, hk, hdet⟩ := List.any_eq_true.mp implied
        exact ⟨k, hk, determined k (hkept k hk) c hlast hdet⟩
    · rcases List.mem_append.mp member with old | new
      · obtain ⟨k, hk, hcover⟩ := ih insideFront c old
        -- What stood for the column may be taken out again, but only by one that determines it.
        by_cases replaced : last.determines k = true
        · refine ⟨last, List.mem_append_right _ (List.mem_singleton_self last), ?_⟩
          exact trans last hlast k (hkept k hk) c (insideFront old)
            (determined last hlast k (hkept k hk) replaced) hcover
        · exact ⟨k, List.mem_append_left [last]
            (List.mem_filter.mpr ⟨hk, by simpa using replaced⟩), hcover⟩
      · obtain rfl := List.mem_singleton.mp new
        exact ⟨c, List.mem_append_right _ (List.mem_singleton_self c), refl c hlast⟩

namespace Projection.OneHierarchy

variable {front : List Projection} {c k x : Projection}

theorem find_classmate_concat {y : Projection} (hy : y ∈ front) (h : x.classmate y = true) :
    (front ++ [c]).find? x.classmate = front.find? x.classmate := by
  have present : (front.find? x.classmate).isSome = true :=
    List.find?_isSome.mpr ⟨y, hy, h⟩
  rw [List.find?_append, Option.or_of_isSome present]

theorem prevails_concat (hx : x ∈ front) (self : x.sameElement x = true) :
    prevails (front ++ [c]) x = true ↔
      prevails front x = true ∧ (c.determines x = true → x.determines c = true) := by
  rw [prevails_iff, prevails_iff, find_classmate_concat hx (classmate_iff.mpr (Or.inl self))]
  simp only [List.mem_append, List.mem_singleton]
  constructor
  · rintro ⟨back, first⟩
    exact ⟨⟨fun y hy => back y (Or.inl hy), first⟩, back c (Or.inr rfl)⟩
  · rintro ⟨⟨back, first⟩, last⟩
    refine ⟨?_, first⟩
    rintro y (hy | rfl)
    · exact back y hy
    · exact last

theorem determined_back (one : OneHierarchy (front ++ [c])) (hk : k ∈ front)
    (hkc : k.determines c = true) (hx : x ∈ front) (stays : prevails front x = true)
    (hcx : c.determines x = true) :
    x.determines c = true := by
  have hk' := List.mem_append_left [c] hk
  have hx' := List.mem_append_left [c] hx
  have hc' : c ∈ front ++ [c] := List.mem_append_right front (List.mem_singleton_self c)
  -- By way of `c`, the column `k` is the element `x` or determines it.
  rcases one.determines_trans hk' hc' hkc hcx with hsame | hkx
  · exact one.sameElement_determines hx' hk' (sameElement_symm hsame) hkc
  · have hxk := (prevails_iff.mp stays).1 k hk hkx
    rcases one.determines_trans hx' hk' hxk hkc with hsame | hxc
    · exact absurd hcx (not_determines_of_sameElement (sameElement_symm hsame))
    · exact hxc

theorem not_prevails_of_determined (one : OneHierarchy (front ++ [c])) (hk : k ∈ front)
    (self : k.sameElement k = true) (stays : prevails front k = true)
    (hkc : k.determines c = true) : prevails (front ++ [c]) c ≠ true := by
  intro added
  have hk' := List.mem_append_left [c] hk
  have hc' : c ∈ front ++ [c] := List.mem_append_right front (List.mem_singleton_self c)
  have hck := (prevails_iff.mp added).1 k hk' hkc
  have mates : c.classmate k = true := classmate_iff.mpr (Or.inr ⟨hkc, hck⟩)
  -- the class has one first member, and it would have the names of both columns
  obtain ⟨y, found⟩ := Option.isSome_iff_exists.mp
    (List.find?_isSome.mpr ⟨k, hk, classmate_iff.mpr (Or.inl self)⟩)
  have hyk := (prevails_iff.mp stays).2 y found
  have hyc : y.sameElement c = true := by
    refine (prevails_iff.mp added).2 y ?_
    rw [find_classmate_concat hk mates,
      one.find_classmate hc' hk' mates (List.subset_append_left front [c])]
    exact found
  exact not_determines_of_sameElement (sameElement_trans (sameElement_symm hyk) hyc) hkc

theorem prevails_of_undetermined (one : OneHierarchy (front ++ [c]))
    (covered : ∀ y ∈ front, ∃ k ∈ front, prevails front k = true ∧ k.determines c ≠ true ∧
      (k.sameElement y = true ∨ k.determines y = true)) (self : c.sameElement c = true) :
    prevails (front ++ [c]) c = true := by
  have hc' : c ∈ front ++ [c] := List.mem_append_right front (List.mem_singleton_self c)
  -- What determines `c` is covered by one that stays; that does not determine `c`, so it is `c`.
  have standsIn : ∀ y ∈ front, y.determines c = true →
      ∃ k ∈ front, prevails front k = true ∧ k.sameElement c = true ∧ k.determines y = true := by
    intro y hy hyc
    obtain ⟨k, hk, stays, undetermined, hsame | hky⟩ := covered y hy
    · exact absurd (one.sameElement_determines (List.mem_append_left [c] hk)
        (List.mem_append_left [c] hy) hsame hyc) undetermined
    · have hk' := List.mem_append_left [c] hk
      have hy' := List.mem_append_left [c] hy
      rcases one.determines_trans hk' hy' hky hyc with hsame | hkc
      · exact ⟨k, hk, stays, hsame, hky⟩
      · exact absurd hkc undetermined
  rw [prevails_iff]
  constructor
  · intro y hy hyc
    rcases List.mem_append.mp hy with old | new
    · obtain ⟨k, hk, -, hsame, hky⟩ := standsIn y old hyc
      have hk' := List.mem_append_left [c] hk
      exact one.sameElement_determines hc' hk' (sameElement_symm hsame) hky
    · obtain rfl := List.mem_singleton.mp new
      exact hyc
  · intro y found
    rcases List.mem_append.mp (List.mem_of_find?_eq_some found) with old | new
    · rcases classmate_iff.mp (List.find?_some found) with hsame | ⟨hyc, hcy⟩
      · exact hsame
      · obtain ⟨k, hk, stays, hsame, -⟩ := standsIn y old hyc
        have mates : c.classmate k = true := classmate_iff.mpr (Or.inl hsame)
        rw [find_classmate_concat hk mates, one.find_classmate hc' (List.mem_append_left [c] hk)
          mates (List.subset_append_left front [c])] at found
        exact sameElement_trans ((prevails_iff.mp stays).2 y found) hsame
    · obtain rfl := List.mem_singleton.mp new
      exact self

end Projection.OneHierarchy

open Projection in
/-- The walk over the columns keeps exactly those that prevail. -/
theorem foldl_keep_eq_filter {cs : List Projection} (one : OneHierarchy cs)
    (self : ∀ p ∈ cs, p.sameElement p = true) : cs.foldl keep [] = cs.filter (prevails cs) := by
  induction cs using List.reverseRecOn with
  | nil => rfl
  | append_singleton front c ih =>
    have inside := List.subset_append_left front [c]
    have hc : c ∈ front ++ [c] := List.mem_append_right front (List.mem_singleton_self c)
    have before := ih (one.mono inside) fun p hp => self p (inside hp)
    have kept : ∀ k, k ∈ front.foldl keep [] ↔ k ∈ front ∧ prevails front k = true := by
      intro k
      rw [before, List.mem_filter]
    rw [List.foldl_append, List.foldl_cons, List.foldl_nil, keep, List.filter_append]
    split
    · next implied =>
      obtain ⟨k, hk, hkc⟩ := List.any_eq_true.mp implied
      obtain ⟨hkf, stays⟩ := (kept k).mp hk
      rw [List.filter_cons_of_neg
        (one.not_prevails_of_determined hkf (self k (inside hkf)) stays hkc), List.filter_nil,
        List.append_nil, before]
      -- A determined column takes out none that stays: what it determines, determines it.
      refine List.filter_congr fun x hx => ?_
      rw [Bool.eq_iff_iff, OneHierarchy.prevails_concat hx (self x (inside hx))]
      exact ⟨fun staysx => ⟨staysx, one.determined_back hkf hkc hx staysx⟩, And.left⟩
    · next fresh =>
      -- A column that nothing determines takes out those that it determines.
      have undetermined : ∀ k ∈ front.foldl keep [], k.determines c ≠ true := by
        simpa using fresh
      have covered : ∀ y ∈ front, ∃ k ∈ front, prevails front k = true ∧
          k.determines c ≠ true ∧ (k.sameElement y = true ∨ k.determines y = true) := by
        intro y hy
        obtain ⟨k, hk, hcover⟩ := exists_kept_covering
          (fun a b => a.sameElement b = true ∨ a.determines b = true)
          (fun a ha => Or.inl (self a (inside ha))) (one.mono inside).covers_trans
          (fun a _ b _ => Or.inr) hy
        obtain ⟨hkf, stays⟩ := (kept k).mp hk
        exact ⟨k, hkf, stays, undetermined k hk, hcover⟩
      have added := one.prevails_of_undetermined covered (self c hc)
      rw [List.filter_cons_of_pos added, List.filter_nil, before, List.filter_filter]
      congr 1
      refine List.filter_congr fun x hx => ?_
      rw [Bool.eq_iff_iff, OneHierarchy.prevails_concat hx (self x (inside hx)), Bool.and_eq_true]
      constructor
      · rintro ⟨free, stays⟩
        exact ⟨stays, fun hcx => by simp [hcx] at free⟩
      · rintro ⟨stays, back⟩
        refine ⟨?_, stays⟩
        have := undetermined x ((kept x).mpr ⟨hx, stays⟩)
        simpa using fun hcx => this (back hcx)

namespace Draft

theorem mem_groupedColumns {d : Draft} {k : Projection} (member : k ∈ d.groupedColumns) :
    k ∈ d.selected ∧ k.groupExpr?.isSome = true :=
  mem_candidates.mp (mem_foldl_keep member)

theorem groupedColumns_eq_filter {d : Draft} (one : Projection.OneHierarchy d.candidates) :
    d.groupedColumns = d.candidates.filter (Projection.prevails d.candidates) :=
  foldl_keep_eq_filter one fun _ hp => Projection.sameElement_self (mem_candidates.mp hp).2

end Draft

end StarQuery.Query
