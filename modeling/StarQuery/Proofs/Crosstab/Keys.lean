import Std.Data.HashSet.Lemmas
import StarQuery.Proofs.Crosstab.Runs
import StarQuery.Proofs.Number.TotalOrder
import StarQuery.Proofs.Value.Hashing

/-!
Values as keys. The cells of a block and the observed values are kept by the order of values, and
the identities of closed blocks can be by their hashes. Main statements: a hash table of identities
has just those that were put in, whatever the hash function is; and all of these tell rows apart by
whether the order finds a difference.
-/
namespace StarQuery

/-- The order of values is total and goes by kinds first, by the sign-adjusted bits for floats; the
other comparisons go by it, and values that it takes for equal are the ones that hash alike. -/
structure Value.Lawful : Prop where
  antisymm : ∀ a b : Value, a ≤ b → b ≤ a → a = b
  trans : ∀ a b c : Value, a ≤ b → b ≤ c → a ≤ c
  total : ∀ a b : Value, a ≤ b ∨ b ≤ a
  le : ∀ a b : Value, a ≤ b ↔ (compare a b).isLE
  lt : ∀ a b : Value, a < b ↔ compare a b = .lt
  gt : ∀ a b : Value, b < a ↔ compare a b = .gt
  eq : ∀ a b : Value, a = b ↔ compare a b = .eq
  beq : ∀ a b : Value, (a == b) = (compare a b == .eq)
  compare? : ∀ a b : Value, a.compare? b = some (compare a b)
  kinds : ∀ (p : Bool) (n : Int64) (x : Double) (s : String),
    [.null, .bool p, .int n, .float x, .text s].Pairwise fun a b : Value => a < b
  floats : ∀ x y : Double,
    compare (Value.float x) (.float y) = compare x.signAdjusted y.signAdjusted
  hash : ∀ a b : Value, a.hashBytes = b.hashBytes ↔ compare a b = .eq

theorem Value.lawful : Value.Lawful where
  antisymm _ _ := Std.le_antisymm
  trans _ _ _ := Std.le_trans
  total _ _ := Std.le_total
  le _ _ := Value.le_iff
  lt _ _ := Value.lt_iff
  gt _ _ := by rw [Value.lt_iff, Std.OrientedCmp.gt_iff_lt]
  eq _ _ := Std.LawfulEqOrd.compare_eq_iff_eq.symm
  beq := Value.beq_eq
  compare? _ _ := rfl
  kinds := Value.kinds_ascend
  floats := Double.totalCompare_eq
  hash _ _ := by rw [Value.hashBytes_eq_iff, Std.LawfulEqOrd.compare_eq_iff_eq]

namespace Crosstab

def sameIdentity : List Value → List Value → Bool
  | [], [] => true
  | a :: as, b :: bs => compare a b == .eq && sameIdentity as bs
  | _, _ => false

theorem sameIdentity_iff {as bs : List Value} : sameIdentity as bs = true ↔ as = bs := by
  induction as generalizing bs with
  | nil => cases bs <;> simp [sameIdentity]
  | cons a as ih => cases bs <;> simp [sameIdentity, ih]

/-- An identity that is found by what `digest` makes of its bytes, and then by the order. -/
structure HashedIdentity (digest : List UInt8 → UInt64) where
  values : List Value

section HashedIdentity

variable {digest : List UInt8 → UInt64}

instance : BEq (HashedIdentity digest) := ⟨fun a b => sameIdentity a.values b.values⟩

instance : Hashable (HashedIdentity digest) := ⟨fun a => digest (Value.listBytes a.values)⟩

instance : LawfulBEq (HashedIdentity digest) where
  eq_of_beq {a b} same := by
    cases a
    cases b
    exact congrArg HashedIdentity.mk (sameIdentity_iff.mp same)
  rfl := sameIdentity_iff.mpr rfl

def hashedSet (digest : List UInt8 → UInt64) (identities : List (List Value)) :
    Std.HashSet (HashedIdentity digest) :=
  Std.HashSet.ofList (identities.map HashedIdentity.mk)

theorem contains_hashedSet (digest : List UInt8 → UInt64) (identities : List (List Value))
    (identity : List Value) :
    (hashedSet digest identities).contains ⟨identity⟩ = identities.contains identity := by
  rw [hashedSet, Std.HashSet.contains_ofList, Bool.eq_iff_iff, List.contains_iff_mem,
    List.contains_iff_mem]
  simp

end HashedIdentity

def Row.agrees (columns : List String) (a b : Row) : Bool :=
  columns.all fun name => compare (a.value name) (b.value name) == .eq

theorem Row.agrees_iff {columns : List String} {a b : Row} :
    a.agrees columns b = true ↔ columns.map b.value = columns.map a.value := by
  rw [Row.agrees, List.all_eq_true, List.map_inj_left]
  refine forall₂_congr fun name _ => ?_
  rw [beq_iff_eq, Std.LawfulEqOrd.compare_eq_iff_eq, eq_comm]

/-- For a row among the rows of a run, the cell under its pivot values is that of the last row which
agrees with it there; each of its values has been observed just if it agrees with a row in that
column; and it belongs to a block, or to a closed one, just if it agrees with it in the identifying
columns. Observed values are in ascending order, each once. -/
structure Layout.Identifies (digest : List UInt8 → UInt64) (l : Layout) (run : List Row)
    (row : Row) : Prop where
  cell : valueAt? (l.path row) (l.cells run) =
    (run.filter (row.agrees l.pivotKeys)).getLast?.map l.value
  observed : ∀ key, row.value key ∈ Ascending.ofList (run.map (·.value key)) ↔
    run.any (row.agrees [key])
  once : ∀ key, (Ascending.ofList (run.map (·.value key))).Pairwise (· < ·)
  block : ∀ other, (l.identity other == l.identity row) = row.agrees l.columns other
  closed : (hashedSet digest (run.map l.identity)).contains ⟨l.identity row⟩ =
    run.any (row.agrees l.columns)
  listed : ∀ identities : List (List Value),
    (hashedSet digest identities).contains ⟨l.identity row⟩ = identities.contains (l.identity row)

/-- Values are lawful keys, and what a crosstab keeps by them tells rows apart by their order. -/
theorem keys_identify (digest : List UInt8 → UInt64) {l : Layout} (keyed : l.pivotKeys ≠ [])
    (run : List Row) (row : Row) : Value.Lawful ∧ l.Identifies digest run row := by
  refine ⟨Value.lawful, ?_, fun key => ?_, fun key => ?_, fun other => ?_, ?_,
    fun identities => contains_hashedSet digest identities _⟩
  · rw [Layout.valueAt?_cells keyed run (l.length_path row)]
    congr 2
    refine List.filter_congr fun other _ => ?_
    rw [Bool.eq_iff_iff, Row.agrees_iff, decide_eq_true_eq, Layout.path, Layout.path]
  · rw [Ascending.mem_ofList, List.mem_map, List.any_eq_true]
    simp only [Row.agrees_iff, List.map_singleton, List.singleton_inj]
  · exact (Ascending.ascends_ofList _).imp Value.lt_iff.mpr
  · rw [Bool.eq_iff_iff, Row.agrees_iff, beq_iff_eq, Layout.identity, Layout.identity]
  · rw [contains_hashedSet, Bool.eq_iff_iff, List.contains_iff_mem, List.mem_map, List.any_eq_true]
    simp only [Row.agrees_iff, Layout.identity]

def readings : List Row := [
  .ofList [("probe", .text "a"), ("reading", .float ⟨0⟩), ("value", .int 1)],
  .ofList [("probe", .text "a"), ("reading", .float ⟨0x8000000000000000⟩), ("value", .int 2)],
  .ofList [("probe", .text "a"), ("reading", .int 0), ("value", .int 3)],
  .ofList [("probe", .text "a"), ("reading", .float ⟨0x7ff8000000000000⟩), ("value", .int 4)],
  .ofList [("probe", .text "a"), ("reading", .float ⟨0x7ff8000000000001⟩), ("value", .int 5)]]

theorem keys_identify_readings :
    let l := Layout.ofRows readings ["reading"] {}
    l.pivotKeys ≠ [] ∧ Value.Lawful ∧ (∀ row, l.Identifies (fun _ => 0) readings row) ∧
      readings.map (fun row => valueAt? (l.path row) (l.cells readings)) =
        [some (.int 1), some (.int 2), some (.int 3), some (.int 4), some (.int 5)] := by
  intro l
  have keyed : l.pivotKeys ≠ [] := List.cons_ne_nil _ _
  have identifies (row : Row) := keys_identify (fun _ => 0) keyed readings row
  refine ⟨keyed, (identifies .empty).1, fun row => (identifies row).2, ?_⟩
  simp only [(identifies _).2.cell]
  decide +kernel

end Crosstab

end StarQuery
