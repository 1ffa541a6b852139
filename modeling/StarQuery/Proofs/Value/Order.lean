import StarQuery.Value.Basic

/-!
The order of values. Main statements: it is a total order, in which equal places are equal values
and kinds come one after the other, and it is what values are compared by.
-/
namespace StarQuery.Value

variable {a b c : Value}

theorem order_swap : order a b = (order b a).swap := by
  cases a <;> cases b
  case bool.bool a b => exact Std.OrientedOrd.eq_swap (a := a) (b := b)
  case int.int a b => exact Std.OrientedOrd.eq_swap (a := a) (b := b)
  case float.float x y => exact Std.OrientedOrd.eq_swap (a := x.rank) (b := y.rank)
  case text.text s t => exact Std.OrientedOrd.eq_swap (a := s) (b := t)
  all_goals rfl

theorem order_isLE_trans (first : (order a b).isLE) (second : (order b c).isLE) :
    (order a c).isLE := by
  cases a <;> cases b <;> cases c
  case bool.bool.bool a b c => exact Std.TransOrd.isLE_trans (a := a) (b := b) first second
  case int.int.int a b c => exact Std.TransOrd.isLE_trans (a := a) (b := b) first second
  case float.float.float x y z =>
    exact Std.TransOrd.isLE_trans (a := x.rank) (b := y.rank) first second
  case text.text.text s t u => exact Std.TransOrd.isLE_trans (a := s) (b := t) first second
  -- Between kinds the order is that of numbers.
  all_goals first | rfl | (cases first; done) | cases second

theorem order_self : order a a = .eq := by
  cases a with
  | null => rfl
  | bool b => exact Std.compare_self (a := b)
  | int n => exact Std.compare_self (a := n)
  | float x => exact Std.compare_self (a := x.rank)
  | text s => exact Std.compare_self (a := s)

instance : Std.TransOrd Value where
  eq_swap := order_swap
  isLE_trans := order_isLE_trans

instance : Std.LawfulEqOrd Value where
  compare_self := order_self
  eq_of_compare := eq_of_order_eq

theorem le_iff : a ≤ b ↔ (compare a b).isLE := Iff.rfl

theorem lt_iff : a < b ↔ compare a b = .lt := Ordering.isLT_iff_eq_lt

instance : Std.LawfulOrderOrd Value where
  isLE_compare _ _ := Iff.rfl
  isGE_compare a b := by rw [le_iff, Std.OrientedOrd.eq_swap (a := b), Ordering.isLE_swap]

instance : Std.IsLinearOrder Value := .of_ord

instance : Std.LawfulOrderLT Value := .of_ord Value fun _ _ => lt_iff

theorem beq_eq (a b : Value) : (a == b) = (compare a b == .eq) := by
  rw [Bool.eq_iff_iff, beq_iff_eq, beq_iff_eq, Std.LawfulEqOrd.compare_eq_iff_eq]

theorem order_of_rank_ne (other : a.rank ≠ b.rank) : order a b = compare a.rank b.rank := by
  cases a <;> cases b <;> first | rfl | exact absurd rfl other

theorem lt_of_rank_lt (below : a.rank < b.rank) : a < b := by
  rw [lt_iff, ← Nat.compare_eq_lt.mpr below]
  exact order_of_rank_ne (Nat.ne_of_lt below)

theorem kinds_ascend (p : Bool) (n : Int64) (x : Double) (s : String) :
    [null, bool p, int n, float x, text s].Pairwise (· < ·) := by
  refine List.Pairwise.imp lt_of_rank_lt ?_
  simp [rank]

end StarQuery.Value
