import Mathlib.Data.List.Induction
import Mathlib.Data.List.Perm.Basic
import Mathlib.Data.List.Sort
import StarQuery.Ascending

/-!
Entries in ascending order of their keys. Main statements: changing the entry of one key changes
what is found under that key, and under no other; and putting entries in order keeps one for each of
their keys, thus all of them just if no key repeats. Elements that are put in order ascend strictly.
-/
namespace StarQuery.Ascending

variable {κ α : Type} [Ord κ] {key k : κ} {a : α} {change : Option α → α} {entries : List (κ × α)}

def Sorted (entries : List (κ × α)) : Prop :=
  entries.Pairwise fun x y => compare x.1 y.1 = .lt

def Ascends (xs : List κ) : Prop := xs.Pairwise fun x y => compare x y = .lt

theorem sorted_nil : Sorted ([] : List (κ × α)) := List.Pairwise.nil

theorem ofEntries_concat (entries : List (κ × α)) (key : κ) (a : α) :
    ofEntries (entries ++ [(key, a)]) = put key a (ofEntries entries) := by
  rw [ofEntries, List.foldl_append]
  rfl

section Lawful

variable [Std.LawfulEqOrd κ]

theorem get?_cons_self (key : κ) (a : α) (entries : List (κ × α)) :
    get? key ((key, a) :: entries) = some a := by
  rw [get?, if_pos (by simp)]

theorem get?_cons_of_ne (other : key ≠ k) (a : α) (entries : List (κ × α)) :
    get? key ((k, a) :: entries) = get? key entries := by
  rw [get?, if_neg (by simpa using other)]

theorem mem_of_get? (found : get? key entries = some a) : (key, a) ∈ entries := by
  induction entries with
  | nil => cases found
  | cons entry rest ih =>
    obtain ⟨k, b⟩ := entry
    by_cases same : key = k
    · subst same
      rw [get?_cons_self, Option.some.injEq] at found
      rw [found]
      exact List.mem_cons_self
    · rw [get?_cons_of_ne same] at found
      exact List.mem_cons_of_mem _ (ih found)

theorem mem_alter {entry : κ × α} (member : entry ∈ alter key change entries) :
    entry = (key, change none) ∨
      (∃ a, (key, a) ∈ entries ∧ entry = (key, change (some a))) ∨ entry ∈ entries := by
  induction entries with
  | nil => exact Or.inl (List.mem_singleton.mp member)
  | cons head rest ih =>
    obtain ⟨k, a⟩ := head
    unfold alter at member
    split at member
    · exact (List.mem_cons.mp member).imp_right Or.inr
    · next same =>
      obtain rfl := Std.LawfulEqOrd.eq_of_compare same
      rcases List.mem_cons.mp member with rfl | member
      · exact Or.inr (Or.inl ⟨a, List.mem_cons_self, rfl⟩)
      · exact Or.inr (Or.inr (List.mem_cons_of_mem _ member))
    · rcases List.mem_cons.mp member with rfl | member
      · exact Or.inr (Or.inr List.mem_cons_self)
      · rcases ih member with fresh | ⟨b, before, changed⟩ | old
        · exact Or.inl fresh
        · exact Or.inr (Or.inl ⟨b, List.mem_cons_of_mem _ before, changed⟩)
        · exact Or.inr (Or.inr (List.mem_cons_of_mem _ old))

theorem mem_keys_alter :
    k ∈ (alter key change entries).map Prod.fst ↔ k = key ∨ k ∈ entries.map Prod.fst := by
  induction entries with
  | nil => exact List.mem_cons
  | cons entry rest ih =>
    obtain ⟨k', a⟩ := entry
    unfold alter
    split
    · exact List.mem_cons
    · next same =>
      obtain rfl := Std.LawfulEqOrd.eq_of_compare same
      rw [List.map_cons, List.map_cons, List.mem_cons]
      exact (or_iff_right_of_imp Or.inl).symm
    · rw [List.map_cons, List.map_cons, List.mem_cons, List.mem_cons, ih]
      exact or_left_comm

theorem get?_alter_of_ne (other : k ≠ key) :
    get? k (alter key change entries) = get? k entries := by
  induction entries with
  | nil => exact get?_cons_of_ne other _ _
  | cons entry rest ih =>
    obtain ⟨k', a⟩ := entry
    unfold alter
    split
    · exact get?_cons_of_ne other _ _
    · next same =>
      obtain rfl := Std.LawfulEqOrd.eq_of_compare same
      rw [get?_cons_of_ne other, get?_cons_of_ne other]
    · rw [get?, get?, ih]

theorem get?_of_before (before : ∀ entry ∈ entries, compare key entry.1 = .lt) :
    get? key entries = none := by
  cases found : get? key entries with
  | none => rfl
  | some a =>
    have least := before _ (mem_of_get? found)
    rw [Std.compare_self] at least
    cases least

theorem Sorted.nodup_keys (sorted : Sorted entries) : (entries.map Prod.fst).Nodup := by
  refine List.pairwise_map.mpr (sorted.imp fun before same => ?_)
  rw [same, Std.compare_self] at before
  cases before

theorem mem_keys_ofEntries :
    key ∈ (ofEntries entries).map Prod.fst ↔ key ∈ entries.map Prod.fst := by
  induction entries using List.reverseRecOn with
  | nil => exact Iff.rfl
  | append_singleton entries entry ih =>
    rw [ofEntries_concat, put, mem_keys_alter, ih, List.map_append, List.mem_append, or_comm,
      List.map_singleton, List.mem_singleton]

theorem Sorted.get?_of_mem (sorted : Sorted entries) (member : (key, a) ∈ entries) :
    get? key entries = some a := by
  induction entries with
  | nil => cases member
  | cons entry rest ih =>
    obtain ⟨k, b⟩ := entry
    obtain ⟨head, tail⟩ := List.pairwise_cons.mp sorted
    rcases List.mem_cons.mp member with same | later
    · obtain ⟨rfl, rfl⟩ := Prod.mk.inj same
      exact get?_cons_self key a rest
    · have other : key ≠ k := by
        rintro rfl
        have before := head _ later
        rw [Std.compare_self] at before
        cases before
      rw [get?_cons_of_ne other, ih tail later]

variable [Std.TransOrd κ]

theorem get?_alter_self (sorted : Sorted entries) :
    get? key (alter key change entries) = some (change (get? key entries)) := by
  induction entries with
  | nil => exact get?_cons_self _ _ _
  | cons entry rest ih =>
    obtain ⟨k, a⟩ := entry
    obtain ⟨head, tail⟩ := List.pairwise_cons.mp sorted
    unfold alter
    split
    · next least =>
      have before : ∀ entry ∈ (k, a) :: rest, compare key entry.1 = .lt := by
        intro entry member
        rcases List.mem_cons.mp member with rfl | member
        · exact least
        · exact Std.TransCmp.lt_trans least (head entry member)
      rw [get?_cons_self, get?_of_before before]
    · next same =>
      obtain rfl := Std.LawfulEqOrd.eq_of_compare same
      rw [get?_cons_self, get?_cons_self]
    · next after =>
      have other : key ≠ k := by
        rintro rfl
        rw [Std.compare_self] at after
        cases after
      rw [get?_cons_of_ne other, get?_cons_of_ne other, ih tail]

theorem Sorted.alter (sorted : Sorted entries) : Sorted (alter key change entries) := by
  induction entries with
  | nil => exact List.pairwise_singleton _ _
  | cons entry rest ih =>
    obtain ⟨k, a⟩ := entry
    obtain ⟨head, tail⟩ := List.pairwise_cons.mp sorted
    unfold Ascending.alter
    split
    · next least =>
      refine List.pairwise_cons.mpr ⟨fun entry member => ?_, sorted⟩
      rcases List.mem_cons.mp member with rfl | member
      · exact least
      · exact Std.TransCmp.lt_trans least (head entry member)
    · exact List.pairwise_cons.mpr ⟨head, tail⟩
    · next after =>
      refine List.pairwise_cons.mpr ⟨fun entry member => ?_, ih tail⟩
      rcases mem_alter member with rfl | ⟨a, -, rfl⟩ | member
      · exact Std.OrientedCmp.lt_of_gt after
      · exact Std.OrientedCmp.lt_of_gt after
      · exact head entry member

omit [Std.LawfulEqOrd κ] [Std.TransOrd κ] in
theorem ofList_concat (xs : List κ) (x : κ) : ofList (xs ++ [x]) = insert x (ofList xs) := by
  rw [ofList, List.foldl_append]
  rfl

theorem Ascends.insert {xs : List κ} (ascends : Ascends xs) (x : κ) : Ascends (insert x xs) := by
  induction xs with
  | nil => exact List.pairwise_singleton _ _
  | cons y rest ih =>
    obtain ⟨head, tail⟩ := List.pairwise_cons.mp ascends
    unfold Ascending.insert
    split
    · next least =>
      refine List.pairwise_cons.mpr ⟨fun z member => ?_, ascends⟩
      rcases List.mem_cons.mp member with rfl | member
      · exact least
      · exact Std.TransCmp.lt_trans least (head z member)
    · exact ascends
    · next after =>
      refine List.pairwise_cons.mpr ⟨fun z member => ?_, ih tail⟩
      rcases mem_insert.mp member with rfl | member
      · exact Std.OrientedCmp.lt_of_gt after
      · exact head z member

theorem ascends_ofList (xs : List κ) : Ascends (ofList xs) := by
  induction xs using List.reverseRecOn with
  | nil => exact List.Pairwise.nil
  | append_singleton xs x ih =>
    rw [ofList_concat]
    exact ih.insert x

theorem Ascends.eq_of_mem {xs ys : List κ} (ascends : Ascends xs) (ascends' : Ascends ys)
    (same : ∀ x, x ∈ xs ↔ x ∈ ys) : xs = ys := by
  have irrefl : Std.Irrefl fun x y : κ => compare x y = .lt :=
    ⟨fun x less => by simp at less⟩
  have antisymm : Std.Antisymm fun x y : κ => compare x y = .lt :=
    ⟨fun x y less greater => by simp [Std.OrientedCmp.gt_of_lt less] at greater⟩
  exact List.Pairwise.eq_of_mem_iff ascends ascends' same

theorem sorted_ofEntries (entries : List (κ × α)) : Sorted (ofEntries entries) := by
  induction entries using List.reverseRecOn with
  | nil => exact sorted_nil
  | append_singleton entries entry ih =>
    rw [ofEntries_concat]
    exact ih.alter

theorem keys_ofEntries_perm_iff :
    ((ofEntries entries).map Prod.fst).Perm (entries.map Prod.fst) ↔
      (entries.map Prod.fst).Nodup := by
  have distinct := (sorted_ofEntries entries).nodup_keys
  refine ⟨fun same => same.nodup_iff.mp distinct, fun apart => ?_⟩
  exact (List.perm_ext_iff_of_nodup distinct apart).mpr fun key => mem_keys_ofEntries

theorem get?_ofEntries (distinct : (entries.map Prod.fst).Nodup) (member : (key, a) ∈ entries) :
    get? key (ofEntries entries) = some a := by
  induction entries using List.reverseRecOn with
  | nil => cases member
  | append_singleton entries entry ih =>
    obtain ⟨last, b⟩ := entry
    rw [List.map_append] at distinct
    obtain ⟨before, -, apart⟩ := List.nodup_append.mp distinct
    rw [ofEntries_concat, put]
    rcases List.mem_append.mp member with member | member
    · have other : key ≠ last :=
        apart key (List.mem_map_of_mem member) last (List.mem_singleton_self last)
      rw [get?_alter_of_ne other, ih before member]
    · obtain ⟨rfl, rfl⟩ := Prod.mk.inj (List.mem_singleton.mp member)
      exact get?_alter_self (sorted_ofEntries entries)

end Lawful

end StarQuery.Ascending
