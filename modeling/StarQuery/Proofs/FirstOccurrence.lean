import Mathlib.Data.List.Induction

/-!
Lists as they are when only the first of several elements that repeat each other is kept. Main
statement: an element added at the end stays unless it repeats one that is there.
-/
namespace StarQuery

variable {α β : Type}

theorem eraseDupsBy_concat (r : α → α → Bool) (as : List α) (a : α) :
    (as ++ [a]).eraseDupsBy r =
      if (as.eraseDupsBy r).any (r a) then as.eraseDupsBy r else as.eraseDupsBy r ++ [a] := by
  induction hn : as.length using Nat.strongRecOn generalizing as with
  | ind n ih =>
    cases as with
    | nil => simp [List.eraseDupsBy_cons]
    | cons b rest =>
      have hlength : (rest.filter fun c => r c b = false).length < n := by
        have := List.length_filter_le (fun c => decide (r c b = false)) rest
        simp only [List.length_cons] at hn
        omega
      have hrest := ih _ hlength (rest.filter fun c => r c b = false) rfl
      rw [List.cons_append, List.eraseDupsBy_cons, List.eraseDupsBy_cons, List.filter_append,
        List.any_cons]
      cases hab : r a b with
      | true => simp [hab]
      | false =>
        rw [List.filter_cons_of_pos (by simp [hab]), List.filter_nil, hrest, Bool.false_or]
        split <;> rfl

theorem eraseDupsBy_subset (r : α → α → Bool) (as : List α) : as.eraseDupsBy r ⊆ as := by
  induction as using List.reverseRecOn with
  | nil => simp
  | append_singleton as a ih =>
    rw [eraseDupsBy_concat]
    split
    · exact List.Subset.trans ih (List.subset_append_left as [a])
    · exact List.append_subset.mpr
        ⟨List.Subset.trans ih (List.subset_append_left as [a]), List.subset_append_right as [a]⟩

theorem pairwise_eraseDupsBy (r : α → α → Bool) (as : List α) :
    (as.eraseDupsBy r).Pairwise fun a b => r b a = false := by
  induction as using List.reverseRecOn with
  | nil => simp
  | append_singleton as a ih =>
    rw [eraseDupsBy_concat]
    split
    · exact ih
    · next fresh =>
      refine List.pairwise_append.mpr ⟨ih, List.pairwise_singleton _ a, ?_⟩
      intro b hb c hc
      obtain rfl := List.mem_singleton.mp hc
      have : ∀ x ∈ as.eraseDupsBy r, r c x = false := by simpa using fresh
      exact this b hb

theorem filter_eraseDupsBy {r : α → α → Bool} {keep : α → Bool}
    (alike : ∀ a b, r a b = true → keep a = keep b) (as : List α) :
    (as.eraseDupsBy r).filter keep = (as.filter keep).eraseDupsBy r := by
  induction as using List.reverseRecOn with
  | nil => simp
  | append_singleton as a ih =>
    rw [eraseDupsBy_concat, List.filter_append]
    cases kept : keep a with
    | true =>
      have repeated : (as.eraseDupsBy r).any (r a) =
          ((as.filter keep).eraseDupsBy r).any (r a) := by
        rw [← ih, List.any_filter]
        refine List.any_congr rfl fun b => ?_
        cases same : r a b with
        | true => rw [← alike a b same, kept]; rfl
        | false => rw [Bool.and_false]
      rw [List.filter_cons_of_pos kept, List.filter_nil, eraseDupsBy_concat, repeated]
      split
      · exact ih
      · rw [List.filter_append, ih, List.filter_cons_of_pos kept, List.filter_nil]
    | false =>
      have dropped : [a].filter keep = [] := List.filter_cons_of_neg (by simp [kept])
      rw [dropped, List.append_nil, ← ih]
      split
      · rfl
      · rw [List.filter_append, dropped, List.append_nil]

/-- A map under which elements repeat each other as before goes past the removal of repetitions. -/
theorem map_eraseDupsBy_of_respects {r : α → α → Bool} {r' : β → β → Bool} {f : α → β}
    (respects : ∀ a b, r' (f a) (f b) = r a b) (as : List α) :
    (as.eraseDupsBy r).map f = (as.map f).eraseDupsBy r' := by
  induction as using List.reverseRecOn with
  | nil => simp
  | append_singleton as a ih =>
    rw [List.map_append, List.map_singleton, eraseDupsBy_concat, eraseDupsBy_concat, ← ih,
      List.any_map]
    simp only [Function.comp_def, respects]
    split <;> simp

theorem map_eraseDupsBy [BEq β] [LawfulBEq β] (key : α → β) (as : List α) :
    (as.eraseDupsBy fun a b => key a == key b).map key = (as.map key).eraseDups :=
  map_eraseDupsBy_of_respects (fun _ _ => rfl) as

theorem filter_key_of_nodup [BEq β] [LawfulBEq β] {key : α → β} {as : List α} {a : α}
    (distinct : (as.map key).Nodup) (member : a ∈ as) : as.filter (key · == key a) = [a] := by
  induction as with
  | nil => cases member
  | cons b rest ih =>
    obtain ⟨fresh, distinct⟩ := List.nodup_cons.mp distinct
    rcases List.mem_cons.mp member with rfl | member
    · rw [List.filter_cons_of_pos (by simp)]
      refine congrArg (List.cons a) (List.filter_eq_nil_iff.mpr fun c hc same => fresh ?_)
      exact List.mem_map.mpr ⟨c, hc, eq_of_beq same⟩
    · have differs : key b ≠ key a := fun same =>
        fresh (List.mem_map.mpr ⟨a, member, same.symm⟩)
      rw [List.filter_cons_of_neg (by simpa using differs), ih distinct member]

theorem find?_key_of_nodup [BEq β] [LawfulBEq β] {key : α → β} {as : List α} {a : α}
    (distinct : (as.map key).Nodup) (member : a ∈ as) : as.find? (key · == key a) = some a := by
  rw [← List.head?_filter, filter_key_of_nodup distinct member, List.head?_cons]

theorem filterMap_concat (f : α → Option β) (as : List α) (a : α) :
    (as ++ [a]).filterMap f = as.filterMap f ++ (f a).toList := by
  rw [List.filterMap_append]
  cases h : f a <;> simp [h]

end StarQuery
