import Mathlib.Data.List.Induction
import StarQuery.Model.Table

/-!
The columns by which the members of a dimension are known: its identifiers and its natural key. Main
statement: a dimension that is defined by clauses has the column of its natural key.
-/
namespace StarQuery.Model

namespace Dimension

/-- The columns by which the members of a dimension are known. -/
def memberColumns (d : Dimension) : List String := d.identifiers ++ d.naturalKey.toList

def KeyDeclared (d : Dimension) : Prop := ∀ key ∈ d.naturalKey, (d.column? key).isSome = true

variable {d : Dimension} {name : String}

theorem column?_append (columns : List Column) (declared : (d.column? name).isSome = true) :
    (({ d with columns := d.columns ++ columns } : Dimension).column? name).isSome = true := by
  rw [column?] at declared ⊢
  rw [List.find?_append, Option.isSome_or, declared, Bool.true_or]

theorem keyDeclared_withNaturalKey (d : Dimension) (column : String) :
    (d.withNaturalKey column).KeyDeclared := by
  intro key natural
  obtain rfl : column = key := Option.some.inj natural
  rw [withNaturalKey]
  split
  · next declared => exact declared
  · simp [column?]

theorem KeyDeclared.extend (declared : d.KeyDeclared) (clause : DimensionClause) :
    (d.extend clause).KeyDeclared := by
  cases clause with
  | column c => exact fun key natural => column?_append [c] (declared key natural)
  | naturalKey column => exact keyDeclared_withNaturalKey d column
  | identifiable => exact keyDeclared_withNaturalKey d usualNaturalKey
  | _ => exact declared

theorem keyDeclared_define (name : String) (clauses : List DimensionClause) :
    (define name clauses).KeyDeclared := by
  induction clauses using List.reverseRecOn with
  | nil => exact nofun
  | append_singleton clauses clause ih =>
    rw [define, List.foldl_append]
    exact ih.extend clause

end Dimension

namespace Table

def memberColumns (t : Table) : List String := t.dimension?.elim [] Dimension.memberColumns

def hasPhysical (t : Table) (name : String) : Bool := (t.column? name).any fun c => !c.isVirtual

variable {t : Table} {d : Dimension} {c : Column} {name : String}

theorem column?_of_dimension (isDimension : t.dimension? = some d) (name : String) :
    t.column? name = d.column? name := by
  cases t with
  | fact f => cases isDimension
  | dimension d' =>
    cases isDimension
    rfl
  | role r =>
    cases isDimension
    rfl

theorem memberColumns_of_dimension (isDimension : t.dimension? = some d) :
    t.memberColumns = d.memberColumns := by
  rw [memberColumns, isDimension, Option.elim_some]

theorem calculation_of_physical (physical : t.hasPhysical name = true)
    (declared : t.column? name = some c) : c.calculation = none := by
  rw [hasPhysical, declared, Option.any_some, Column.isVirtual] at physical
  simpa using physical

end Table

end StarQuery.Model
