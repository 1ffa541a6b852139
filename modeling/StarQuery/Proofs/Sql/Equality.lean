import StarQuery.Number.Nearest
import StarQuery.Proofs.Sql.Evaluation

/-!
Equality as databases compute it, in three values. Null is not compared, and numbers are compared by
what they count, a whole number and a float as floats. Main statement: apart from floats, values are
equal just if they are the same and not null.
-/
namespace StarQuery.Value

variable {a b : Value}

def equals : Value → Value → Bool
  | .null, _ | _, .null => false
  | .float x, .float y => x.numericallyEqual y
  | .float x, .int n => x.numericallyEqual (.ofInt n.toInt)
  | .int n, .float x => (Double.ofInt n.toInt).numericallyEqual x
  | a, b => a == b

/-- What a comparison for equality gives; unknown, thus null, if a value is null. -/
def equality (a b : Value) : Value := if a = .null ∨ b = .null then .null else .bool (a.equals b)

def isNaN : Value → Bool
  | .float x => x.isNaN
  | _ => false

def isFloat : Value → Bool
  | .float _ => true
  | _ => false

theorem null_equals (b : Value) : Value.null.equals b = false := by
  cases b <;> rfl

theorem equals_null (a : Value) : a.equals .null = false := by
  cases a <;> rfl

theorem equality_eq_true_iff : a.equality b = .bool true ↔ a.equals b = true := by
  unfold equality
  split
  · next unknown =>
    rcases unknown with rfl | rfl
    · simp [null_equals]
    · simp [equals_null]
  · simp

theorem equals_self_iff : a.equals a = true ↔ a ≠ .null ∧ a.isNaN = false := by
  cases a <;> simp [equals, isNaN, Double.numericallyEqual]

theorem equals_self_of_equals (equal : a.equals b = true) : a.equals a = true := by
  rw [equals_self_iff]
  constructor
  · rintro rfl
    rw [null_equals] at equal
    cases equal
  · cases a with
    | float x =>
      cases b <;> simp_all [equals, isNaN, Double.numericallyEqual]
    | _ => rfl

theorem equals_eq_false (different : a ≠ b) (exactLeft : a.isFloat = false)
    (exactRight : b.isFloat = false) : a.equals b = false := by
  cases a <;> cases b <;> simp_all [equals, isFloat]

end StarQuery.Value
