import StarQuery.Ascending

/-!
Which columns of one table determine which others. An implication from `a` to `b` says that once
rows are grouped by `a`, the value of `b` is settled. What a column determines is found by following
each implication at most once.
-/
namespace StarQuery.Model

/-- The elements in the order in which they were first mentioned, and the implications between
them. -/
structure Hierarchy where
  elements : List String := []
  implications : List (String × String) := []
  deriving DecidableEq

namespace Hierarchy

def empty : Hierarchy := {}

def mention (name : String) (h : Hierarchy) : Hierarchy :=
  if name ∈ h.elements then h else { h with elements := h.elements ++ [name] }

def link (a b : String) (h : Hierarchy) : Hierarchy :=
  let h := h.mention b
  if (a, b) ∈ h.implications then h else { h with implications := h.implications ++ [(a, b)] }

def implies (element : String) (others : List String) (h : Hierarchy) : Hierarchy :=
  others.foldl (fun h other => h.link element other) (h.mention element)

def bidirectional (a b : String) (h : Hierarchy) : Hierarchy :=
  (h.implies a [b]).implies b [a]

def contains (h : Hierarchy) (name : String) : Bool := h.elements.contains name

def isEmpty (h : Hierarchy) : Bool := h.implications.isEmpty

def targets (edges : List (String × String)) (name : String) : List String :=
  (edges.filter (·.1 == name)).map (·.2)

def without (edges : List (String × String)) (name : String) : List (String × String) :=
  edges.filter (·.1 != name)

theorem targets_length_add_without_length (edges : List (String × String)) (name : String) :
    (targets edges name).length + (without edges name).length = edges.length := by
  induction edges with
  | nil => rfl
  | cons edge edges ih =>
    by_cases h : edge.1 = name
    · simp [targets, without, h] at ih ⊢
      omega
    · simp [targets, without, h] at ih ⊢
      omega

/-- Everything that can be reached from the pending names, the names themselves included. The
implications of a name are dropped once they have been followed. -/
def reach (edges : List (String × String)) : List String → List String
  | [] => []
  | name :: pending => name :: reach (without edges name) (targets edges name ++ pending)
  termination_by pending => edges.length + pending.length
  decreasing_by
    have := targets_length_add_without_length edges name
    simp only [List.length_append, List.length_cons]
    omega

/-- All that `name` determines, in ascending order; `name` itself only if it lies on a cycle. -/
def closure (h : Hierarchy) (name : String) : List String :=
  Ascending.ofList (reach h.implications (targets h.implications name))

def determines (h : Hierarchy) (a b : String) : Bool := a != b && (h.closure a).contains b

end Hierarchy

end StarQuery.Model
