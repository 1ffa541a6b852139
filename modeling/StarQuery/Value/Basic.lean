import StarQuery.Json.Basic

/-!
The scalar values of filters, declared elements and result rows, with their total order and their
place in data documents. Main statement: values that compare as equal are the same value.
-/
namespace StarQuery

inductive Value where
  | null
  | bool (b : Bool)
  | int (n : Int64)
  | float (x : Double)
  | text (s : String)
  deriving DecidableEq

namespace Value

instance : Inhabited Value := ⟨.null⟩

def rank : Value → Nat
  | .null => 0
  | .bool _ => 1
  | .int _ => 2
  | .float _ => 3
  | .text _ => 4

/-- Kinds by rank; within a kind false before true, numbers ascending and texts by code point. -/
def order : Value → Value → Ordering
  | .bool a, .bool b => compare a b
  | .int a, .int b => compare a b
  | .float x, .float y => x.totalCompare y
  | .text s, .text t => compare s t
  | a, b => compare a.rank b.rank

instance : Ord Value := ⟨order⟩

def compare? (a b : Value) : Option Ordering := some (order a b)

instance : LT Value := ⟨fun a b => (compare? a b).any Ordering.isLT⟩

instance : LE Value := ⟨fun a b => (compare? a b).any Ordering.isLE⟩

def isNull : Value → Bool
  | .null => true
  | _ => false

inductive HashItem where
  | kind (rank : Nat)
  | flag (b : Bool)
  | word (w : UInt64)
  | chars (s : String)
  deriving DecidableEq, Hashable

/-- The kind, then the contents: a whole number and a float by their 64 bits. -/
def hashItems : Value → List HashItem
  | .null => [.kind 0]
  | .bool b => [.kind 1, .flag b]
  | .int n => [.kind 2, .word n.toUInt64]
  | .float x => [.kind 3, .word x.bits]
  | .text s => [.kind 4, .chars s]

instance : Hashable Value := ⟨fun v => hash v.hashItems⟩

def display : Value → String
  | .null => "null"
  | .bool true => "true"
  | .bool false => "false"
  | .int n => String.ofList (intDigits n.toInt)
  | .float x => String.ofList x.text
  | .text s => s

/-- A whole number of the signed range stays whole; any other number becomes a float. -/
def ofNumber : JsonNumber → Value
  | .whole n =>
    if Int64.minValue.toInt ≤ n ∧ n ≤ Int64.maxValue.toInt then .int (Int64.ofInt n)
    else .float (Double.ofInt n)
  | .real x => .float x

def ofScalar? : Json → Option Value
  | .null => some .null
  | .bool b => some (.bool b)
  | .number n => some (ofNumber n)
  | .text s => some (.text s)
  | .list _ => none
  | .object _ => none

def ofJson (j : Json) : Value := (ofScalar? j).getD (.text j.compact)

/-- A float that is not finite has no number in a document and becomes null. -/
def toJson : Value → Json
  | .null => .null
  | .bool b => .bool b
  | .int n => .int n.toInt
  | .float x => if x.isFinite then .number (.real x) else .null
  | .text s => .text s

theorem eq_of_order_eq {a b : Value} (h : order a b = .eq) : a = b := by
  cases a <;> cases b <;> simp only [order] at h
  case null.null => rfl
  case bool.bool => exact congrArg _ (Std.LawfulEqOrd.eq_of_compare h)
  case int.int => exact congrArg _ (Std.LawfulEqOrd.eq_of_compare h)
  case float.float => exact congrArg _ (Double.rank_injective (Std.LawfulEqOrd.eq_of_compare h))
  case text.text => exact congrArg _ (Std.LawfulEqOrd.eq_of_compare h)
  all_goals exact absurd h (by simp [rank])

end Value

end StarQuery
