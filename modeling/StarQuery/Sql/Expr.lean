import StarQuery.Text.Casing
import StarQuery.Value.Basic

/-!
The expressions of a query: columns, literals, arithmetic and comparisons, function calls, cells of
a crosstab and membership in a list.
-/
namespace StarQuery.Sql

inductive Literal where
  | int (n : Int64)
  | float (x : Double)
  | text (s : String)
  | bool (b : Bool)
  | null
  deriving DecidableEq

inductive Operator where
  | eq
  | ne
  | lt
  | gt
  | le
  | ge
  | and
  | add
  | sub
  | mul
  | div
  deriving DecidableEq

namespace Operator

def symbol : Operator → String
  | .eq => "="
  | .ne => "<>"
  | .lt => "<"
  | .gt => ">"
  | .le => "<="
  | .ge => ">="
  | .and => "AND"
  | .add => "+"
  | .sub => "-"
  | .mul => "*"
  | .div => "/"

def level : Operator → Nat
  | .and => 1
  | .eq | .ne | .lt | .gt | .le | .ge => 2
  | .add | .sub => 3
  | .mul | .div => 4

end Operator

inductive Expr where
  | column (table : Option String) (name : String)
  | literal (l : Literal)
  | binary (op : Operator) (left right : Expr)
  | call (name : String) (distinct : Bool) (argument : Expr)
  | caseWhen (condition result : Expr)
  | isIn (subject : Expr) (choices : List Expr)

namespace Expr

instance : Inhabited Expr := ⟨.literal .null⟩

def ofTable (table name : String) : Expr := .column (some table) name

def equals (left right : Expr) : Expr := .binary .eq left right

def function (name : String) (argument : Expr) : Expr := .call name false argument

def aggregateNames : List String :=
  ["COUNT", "SUM", "AVG", "MIN", "MAX", "VAR_SAMP", "STDDEV_SAMP"]

def isAggregateName (name : String) : Bool :=
  aggregateNames.any fun known => Text.sameIgnoringAsciiCase known name

mutual

def hasAggregate : Expr → Bool
  | .column _ _ => false
  | .literal _ => false
  | .binary _ left right => left.hasAggregate || right.hasAggregate
  | .call name _ argument => isAggregateName name || argument.hasAggregate
  | .caseWhen condition result => condition.hasAggregate || result.hasAggregate
  | .isIn subject choices => subject.hasAggregate || anyAggregate choices

def anyAggregate : List Expr → Bool
  | [] => false
  | choice :: choices => choice.hasAggregate || anyAggregate choices

end

mutual

def alike (same : Literal → Literal → Bool) : Expr → Expr → Bool
  | .column t n, .column t' n' => t == t' && n == n'
  | .literal l, .literal l' => same l l'
  | .binary op a b, .binary op' a' b' => op == op' && alike same a a' && alike same b b'
  | .call n d a, .call n' d' a' => n == n' && d == d' && alike same a a'
  | .caseWhen c r, .caseWhen c' r' => alike same c c' && alike same r r'
  | .isIn s cs, .isIn s' cs' => alike same s s' && allAlike same cs cs'
  | _, _ => false

def allAlike (same : Literal → Literal → Bool) : List Expr → List Expr → Bool
  | [], [] => true
  | c :: cs, c' :: cs' => alike same c c' && allAlike same cs cs'
  | _, _ => false

end

mutual

theorem eq_of_alike {a b : Expr} (h : alike (· == ·) a b = true) : a = b := by
  cases a <;> cases b <;> simp only [alike, Bool.and_eq_true, beq_iff_eq, Bool.false_eq_true] at h
  case column.column => rw [h.1, h.2]
  case literal.literal => rw [h]
  case binary.binary => rw [h.1.1, eq_of_alike h.1.2, eq_of_alike h.2]
  case call.call => rw [h.1.1, h.1.2, eq_of_alike h.2]
  case caseWhen.caseWhen => rw [eq_of_alike h.1, eq_of_alike h.2]
  case isIn.isIn => rw [eq_of_alike h.1, eq_of_allAlike h.2]

theorem eq_of_allAlike {as bs : List Expr} (h : allAlike (· == ·) as bs = true) : as = bs := by
  cases as <;> cases bs <;> simp only [allAlike, Bool.and_eq_true, Bool.false_eq_true] at h
  case nil.nil => rfl
  case cons.cons => rw [eq_of_alike h.1, eq_of_allAlike h.2]

end

mutual

theorem alike_self (a : Expr) : alike (· == ·) a a = true := by
  cases a <;> simp only [alike, beq_self_eq_true, Bool.and_eq_true, true_and]
  case binary => exact ⟨alike_self _, alike_self _⟩
  case call => exact alike_self _
  case caseWhen => exact ⟨alike_self _, alike_self _⟩
  case isIn => exact ⟨alike_self _, allAlike_self _⟩

theorem allAlike_self (as : List Expr) : allAlike (· == ·) as as = true := by
  cases as <;> simp only [allAlike, Bool.and_eq_true]
  exact ⟨alike_self _, allAlike_self _⟩

end

instance : DecidableEq Expr := fun a b =>
  decidable_of_iff (alike (· == ·) a b = true)
    ⟨eq_of_alike, fun h => h ▸ alike_self a⟩

end Expr

def Literal.numericallyEqual : Literal → Literal → Bool
  | .float x, .float y => x.numericallyEqual y
  | l, l' => l == l'

/-- Two calculations agree when they differ in nothing but the spelling of a float. -/
def Expr.agrees (a b : Expr) : Bool := Expr.alike Literal.numericallyEqual a b

def Literal.ofValue : Value → Literal
  | .null => .null
  | .bool b => .bool b
  | .int n => .int n
  | .float x => .float x
  | .text s => .text s

def Expr.ofValue (v : Value) : Expr := .literal (.ofValue v)

end StarQuery.Sql
