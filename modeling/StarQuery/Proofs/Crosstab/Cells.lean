import StarQuery.Crosstab.Cell
import StarQuery.Proofs.Ascending
import StarQuery.Proofs.Value.Order

/-!
Cells under as many keys as there are pivot keys. Main statements: putting values at paths of one
length keeps all values at that depth, so that no value stands where a level is meant and no level
where a value is, and what is put at one path is found there and changes no other.
-/
namespace StarQuery.Crosstab

variable {n : Nat} {key next : Value} {v : Value} {path other : List Value} {cells : Cells}
  {cell : Cell}

/-- A value after `n` more keys, with the keys of each level in ascending order. -/
def Cell.Uniform : Nat → Cell → Prop
  | 0, .value _ => True
  | n + 1, .nested cells => Ascending.Sorted cells ∧ ∀ entry ∈ cells, entry.2.Uniform n
  | _, _ => False

/-- The path meets a level at its end, or a value before its end. -/
inductive Clash : List Value → Cells → Prop where
  | level {key : Value} {cells inner : Cells}
      (found : Ascending.get? key cells = some (.nested inner)) : Clash [key] cells
  | value {key next v : Value} {path : List Value} {cells : Cells}
      (found : Ascending.get? key cells = some (.value v)) : Clash (key :: next :: path) cells
  | deeper {key next : Value} {path : List Value} {cells inner : Cells}
      (found : Ascending.get? key cells = some (.nested inner))
      (clash : Clash (next :: path) inner) : Clash (key :: next :: path) cells

namespace Cell

theorem uniform_empty (n : Nat) : (Cell.nested []).Uniform (n + 1) :=
  ⟨Ascending.sorted_nil, fun _ member => absurd member List.not_mem_nil⟩

theorem Uniform.sorted (uniform : (Cell.nested cells).Uniform n) : Ascending.Sorted cells := by
  cases n with
  | zero => cases uniform
  | succ n => exact uniform.1

theorem Uniform.value (uniform : cell.Uniform 0) : ∃ v, cell = .value v := by
  cases cell with
  | value v => exact ⟨v, rfl⟩
  | nested cells => cases uniform

theorem Uniform.nested (uniform : cell.Uniform (n + 1)) : ∃ inner, cell = .nested inner := by
  cases cell with
  | value v => cases uniform
  | nested cells => exact ⟨cells, rfl⟩

theorem Uniform.found (uniform : (Cell.nested cells).Uniform (n + 1))
    (found : Ascending.get? key cells = some cell) : cell.Uniform n :=
  uniform.2 (key, cell) (Ascending.mem_of_get? found)

end Cell

open Cell

def below (key : Value) (cells : Cells) : Cells :=
  ((Ascending.get? key cells).map Cell.inner).getD []

theorem uniform_below (uniform : (Cell.nested cells).Uniform (n + 2)) :
    (Cell.nested (below key cells)).Uniform (n + 1) := by
  unfold below
  cases found : Ascending.get? key cells with
  | none => exact uniform_empty n
  | some cell =>
    have inside := uniform.found found
    obtain ⟨inner, rfl⟩ := inside.nested
    exact inside

theorem valueAt?_nil (path : List Value) : valueAt? path [] = none := by
  cases path with
  | nil => rfl
  | cons key rest => cases rest <;> rfl

theorem valueAt?_below (uniform : (Cell.nested cells).Uniform (n + 2)) :
    valueAt? (key :: next :: path) cells = valueAt? (next :: path) (below key cells) := by
  unfold below
  rw [valueAt?]
  cases found : Ascending.get? key cells with
  | none => exact (valueAt?_nil (next :: path)).symm
  | some cell =>
    obtain ⟨inner, rfl⟩ := (uniform.found found).nested
    rfl

theorem below_place_self (sorted : Ascending.Sorted cells) :
    below key (place v (key :: next :: path) cells) = place v (next :: path) (below key cells) := by
  rw [below, place, Ascending.get?_alter_self sorted]
  rfl

theorem below_place_of_ne {key' : Value} (elsewhere : key' ≠ key) :
    below key' (place v (key :: next :: path) cells) = below key' cells := by
  rw [below, place, Ascending.get?_alter_of_ne elsewhere, below]

theorem uniform_place (uniform : (Cell.nested cells).Uniform path.length) :
    (Cell.nested (place v path cells)).Uniform path.length := by
  induction path generalizing cells with
  | nil => cases uniform
  | cons key rest ih =>
    cases rest with
    | nil =>
      refine ⟨uniform.sorted.alter, fun entry member => ?_⟩
      rcases Ascending.mem_alter member with rfl | ⟨a, -, rfl⟩ | member
      · trivial
      · trivial
      · exact uniform.2 entry member
    | cons next path =>
      rw [place]
      refine ⟨uniform.sorted.alter, fun entry member => ?_⟩
      rcases Ascending.mem_alter member with rfl | ⟨cell, before, rfl⟩ | member
      · exact ih (uniform_empty path.length)
      · have inside : cell.Uniform (next :: path).length := uniform.2 (key, cell) before
        obtain ⟨inner, rfl⟩ := inside.nested
        exact ih inside
      · exact uniform.2 entry member

theorem valueAt?_place (uniform : (Cell.nested cells).Uniform path.length)
    (same : other.length = path.length) :
    valueAt? other (place v path cells) =
      if other = path then some v else valueAt? other cells := by
  induction path generalizing other cells with
  | nil => cases uniform
  | cons key rest ih =>
    obtain ⟨key', rest', rfl⟩ := List.exists_cons_of_length_eq_add_one same
    -- The last key of a path leads to values, any other one to a level on which the path goes on.
    cases rest with
    | nil =>
      obtain rfl : rest' = [] := List.eq_nil_of_length_eq_zero (Nat.succ.inj same)
      rw [place, Ascending.put, valueAt?, valueAt?]
      by_cases here : key' = key
      · rw [here, Ascending.get?_alter_self uniform.sorted, if_pos rfl]
      · rw [Ascending.get?_alter_of_ne here, if_neg (by simpa using here)]
    | cons next path =>
      obtain ⟨next', path', rfl⟩ := List.exists_cons_of_length_eq_add_one (Nat.succ.inj same)
      have placed : (Cell.nested (place v (key :: next :: path) cells)).Uniform (path.length + 2) :=
        uniform_place uniform
      rw [valueAt?_below placed, valueAt?_below uniform]
      by_cases here : key' = key
      · rw [here, below_place_self uniform.sorted, ih (uniform_below uniform) (Nat.succ.inj same)]
        simp
      · rw [below_place_of_ne here, if_neg (by simp [here])]

theorem valueAt?_of_length_ne (uniform : (Cell.nested cells).Uniform n) (other : path.length ≠ n) :
    valueAt? path cells = none := by
  induction path generalizing n cells with
  | nil => rfl
  | cons key rest ih =>
    cases n with
    | zero => cases uniform
    | succ n =>
      cases rest with
      | nil =>
        rw [valueAt?]
        split
        · next v found =>
          have inside := uniform.found found
          cases n with
          | zero => exact absurd rfl other
          | succ n => cases inside
        · rfl
      | cons next path =>
        rw [valueAt?]
        split
        · next inner found =>
          have inside := uniform.found found
          exact ih inside fun same => other (congrArg Nat.succ same)
        · rfl

theorem not_clash (uniform : (Cell.nested cells).Uniform path.length) : ¬Clash path cells := by
  intro clash
  induction clash with
  | level found =>
    obtain ⟨v, same⟩ := (uniform.found found).value
    cases same
  | value found =>
    obtain ⟨inner, same⟩ := (uniform.found found).nested
    cases same
  | deeper found clash ih => exact ih (uniform.found found)

end StarQuery.Crosstab
