import StarQuery.Proofs.FirstOccurrence
import StarQuery.Proofs.Success
import StarQuery.Query.Plan

/-!
Runs of calls on a draft, and the uses of columns that they come down to. Main statement: a
successful run of calls is a successful run of the uses that the calls ask for, all of them resolved
in the scope of the draft at the start.
-/
namespace StarQuery.Query

open Model (Schema Table)
open Settings (CompilerSettings)
open Sql (Direction Expr)

inductive Call where
  | select (references : List String)
  | filter (predicates : List String)
  | order (references : List String)
  | limit (rows : UInt64)

def Call.apply : Call → Draft → Outcome
  | .select references, d => d.select references
  | .filter predicates, d => d.filter predicates
  | .order references, d => d.order references
  | .limit rows, d => ⟨d.withLimit rows, none⟩

def Outcome.result (o : Outcome) : Except CompileError Draft :=
  match o.error? with
  | some e => .error e
  | none => .ok o.draft

def Draft.run (d : Draft) (calls : List Call) : Outcome := Outcome.each Call.apply calls d

def draftOf (s : Schema) (base : String) (settings : CompilerSettings) (calls : List Call) :
    Except CompileError Draft := do
  let start ← Draft.start s base
  ((start.withSettings settings).run calls).result

def planOf (s : Schema) (base : String) (settings : CompilerSettings) (calls : List Call) :
    Except CompileError Plan := do
  let d ← draftOf s base settings calls
  d.plan

/-- What a draft is asked to take in, once references are resolved. -/
inductive Use where
  | select (p : Projection)
  | filter (f : Filter)
  | order (p : Projection) (direction : Direction)
  | limit (rows : UInt64)
  deriving DecidableEq

namespace Use

def apply : Use → Draft → Outcome
  | .select p, d => d.selectColumn p
  | .filter f, d => d.addFilter f
  | .order p direction, d => d.orderColumn direction p
  | .limit rows, d => ⟨d.withLimit rows, none⟩

def column? : Use → Option Projection
  | .select p | .order p _ => some p
  | .filter f => some f.column
  | .limit _ => none

def owners (u : Use) : List Table := u.column?.elim [] Projection.owners

def repeats : Use → Use → Bool
  | .select p, .select q => p.name == q.name
  | _, _ => false

def selected? : Use → Option Projection
  | .select p => some p
  | _ => none

def condition? : Use → Option Expr
  | .filter f => if f.column.isAggregate then none else some f.condition
  | _ => none

def groupCondition? : Use → Option Expr
  | .filter f => if f.column.isAggregate then some f.condition else none
  | _ => none

def orderTerm? : Use → Option (Projection × Direction)
  | .order p direction => some (p, direction)
  | _ => none

def limit? : Use → Option UInt64
  | .limit rows => some rows
  | _ => none

end Use

def Scope.columns (s : Scope) (reference : String) : List Projection :=
  (s.parse reference).toOption.getD []

def Scope.selections (s : Scope) (reference : String) : List Use :=
  (s.columns reference).map Use.select

def Scope.filterings (s : Scope) (predicate : String) : List Use :=
  (s.readFilter predicate).toOption.toList.map Use.filter

def Scope.orderings (s : Scope) (reference : String) : List Use :=
  (s.columns (readOrder reference).1).map fun p => Use.order p (readOrder reference).2

def Call.uses (s : Scope) : Call → List Use
  | .select references => references.flatMap s.selections
  | .filter predicates => predicates.flatMap s.filterings
  | .order references => references.flatMap s.orderings
  | .limit rows => [.limit rows]

/-- The uses that calls ask for, without columns selected again. -/
def accepted (s : Scope) (calls : List Call) : List Use :=
  (calls.flatMap (Call.uses s)).eraseDupsBy Use.repeats

namespace Outcome

theorem andThen_ok {o : Outcome} {next : Draft → Outcome} {d : Draft}
    (success : o.andThen next = ⟨d, none⟩) :
    ∃ between, o = ⟨between, none⟩ ∧ next between = ⟨d, none⟩ := by
  obtain ⟨between, error⟩ := o
  cases error with
  | none => exact ⟨between, rfl, success⟩
  | some e => cases success

theorem each_map {α β : Type} (step : β → Draft → Outcome) (f : α → β) (as : List α) (d : Draft) :
    each step (as.map f) d = each (fun a => step (f a)) as d := by
  induction as generalizing d with
  | nil => rfl
  | cons a as ih =>
    simp only [List.map_cons, each]
    congr 1
    funext between
    exact ih between

theorem each_flatMap {α β : Type} {step : α → Draft → Outcome} {small : β → Draft → Outcome}
    (parts : Scope → α → List β)
    (stepParts : ∀ a d d', step a d = ⟨d', none⟩ → each small (parts d.scope a) d = ⟨d', none⟩)
    (stepScope : ∀ a d d', step a d = ⟨d', none⟩ → d'.scope = d.scope)
    {as : List α} {d d' : Draft} (success : each step as d = ⟨d', none⟩) :
    each small (as.flatMap (parts d.scope)) d = ⟨d', none⟩ := by
  induction as generalizing d with
  | nil => exact success
  | cons a as ih =>
    obtain ⟨between, first, rest⟩ := andThen_ok success
    rw [List.flatMap_cons, each_append, stepParts a d between first]
    have tail := ih rest
    rw [stepScope a d between first] at tail
    exact tail

theorem result_ok {o : Outcome} {d : Draft} (success : o.result = .ok d) : o = ⟨d, none⟩ := by
  unfold result at success
  split at success
  · cases success
  next clean =>
    cases success
    exact congrArg (Outcome.mk o.draft) clean

theorem each_singleton {α : Type} (step : α → Draft → Outcome) (a : α) (d : Draft) :
    each step [a] d = step a d := by
  unfold each andThen
  split
  · next success =>
    rw [each]
    exact congrArg (Outcome.mk (step a d).draft) success.symm
  · rfl

theorem andThen_keeps {P : Draft → Prop} {o : Outcome} {next : Draft → Outcome}
    (first : P o.draft) (nextKeeps : ∀ d, P d → P (next d).draft) : P (o.andThen next).draft := by
  unfold andThen
  split
  · exact nextKeeps o.draft first
  · exact first

/-- What every step keeps, whether it fails or not, a run keeps. -/
theorem each_keeps {α : Type} {P : Draft → Prop} {step : α → Draft → Outcome}
    (stepKeeps : ∀ a d, P d → P (step a d).draft) (as : List α) {d : Draft} (start : P d) :
    P (each step as d).draft := by
  induction as generalizing d with
  | nil => exact start
  | cons a as ih => exact andThen_keeps (stepKeeps a d start) fun between h => ih h

end Outcome

namespace Draft

theorem joinOwner_scope (owner : Table) (d : Draft) :
    (joinOwner owner d).draft.scope = d.scope := by
  unfold joinOwner
  split
  · rfl
  · split <;> rfl

theorem joinOwners_scope (p : Projection) (d : Draft) : (d.joinOwners p).draft.scope = d.scope :=
  Outcome.each_keeps (P := fun x => x.scope = d.scope)
    (fun owner x h => (joinOwner_scope owner x).trans h) p.owners rfl

end Draft

theorem Use.apply_scope (u : Use) (d : Draft) : (u.apply d).draft.scope = d.scope := by
  cases u with
  | select p =>
    change (d.selectColumn p).draft.scope = d.scope
    unfold Draft.selectColumn
    split
    · rfl
    · exact Outcome.andThen_keeps (P := fun x => x.scope = d.scope) (d.joinOwners_scope p)
        fun x h => h
  | filter f =>
    refine Outcome.andThen_keeps (P := fun x => x.scope = d.scope) (d.joinOwners_scope f.column) ?_
    intro x h
    split <;> exact h
  | order p direction =>
    exact Outcome.andThen_keeps (P := fun x => x.scope = d.scope) (d.joinOwners_scope p)
      fun x h => h
  | limit rows => rfl

namespace Draft

theorem uses_scope (uses : List Use) (d : Draft) :
    (Outcome.each Use.apply uses d).draft.scope = d.scope :=
  Outcome.each_keeps (P := fun x => x.scope = d.scope)
    (fun u x h => (u.apply_scope x).trans h) uses rfl

theorem selectOne_ok {reference : String} {d d' : Draft}
    (success : selectOne reference d = ⟨d', none⟩) :
    Outcome.each Use.apply (d.scope.selections reference) d = ⟨d', none⟩ := by
  unfold selectOne at success
  split at success
  · next columns parsed =>
    rw [Scope.selections, Scope.columns, parsed, Outcome.each_map]
    exact success
  · cases success

theorem filterOne_ok {predicate : String} {d d' : Draft}
    (success : filterOne predicate d = ⟨d', none⟩) :
    Outcome.each Use.apply (d.scope.filterings predicate) d = ⟨d', none⟩ := by
  unfold filterOne at success
  split at success
  · next f read =>
    rw [Scope.filterings, read]
    exact (Outcome.each_singleton Use.apply (.filter f) d).trans success
  · cases success

theorem orderOne_ok {reference : String} {d d' : Draft}
    (success : orderOne reference d = ⟨d', none⟩) :
    Outcome.each Use.apply (d.scope.orderings reference) d = ⟨d', none⟩ := by
  simp only [orderOne] at success
  split at success
  · next columns parsed =>
    rw [Scope.orderings, Scope.columns, parsed, Outcome.each_map]
    exact success
  · cases success

end Draft

theorem scope_of_uses {d d' : Draft} {uses : List Use}
    (success : Outcome.each Use.apply uses d = ⟨d', none⟩) : d'.scope = d.scope := by
  have kept := Draft.uses_scope uses d
  rw [success] at kept
  exact kept

theorem Call.apply_ok {c : Call} {d d' : Draft} (success : c.apply d = ⟨d', none⟩) :
    Outcome.each Use.apply (c.uses d.scope) d = ⟨d', none⟩ := by
  cases c with
  | select references =>
    exact Outcome.each_flatMap Scope.selections (fun _ _ _ h => Draft.selectOne_ok h)
      (fun _ _ _ h => scope_of_uses (Draft.selectOne_ok h)) success
  | filter predicates =>
    exact Outcome.each_flatMap Scope.filterings (fun _ _ _ h => Draft.filterOne_ok h)
      (fun _ _ _ h => scope_of_uses (Draft.filterOne_ok h)) success
  | order references =>
    exact Outcome.each_flatMap Scope.orderings (fun _ _ _ h => Draft.orderOne_ok h)
      (fun _ _ _ h => scope_of_uses (Draft.orderOne_ok h)) success
  | limit rows => exact (Outcome.each_singleton Use.apply (.limit rows) d).trans success

namespace Draft

theorem run_ok {calls : List Call} {d d' : Draft} (success : d.run calls = ⟨d', none⟩) :
    Outcome.each Use.apply (calls.flatMap (Call.uses d.scope)) d = ⟨d', none⟩ :=
  Outcome.each_flatMap Call.uses (fun _ _ _ h => Call.apply_ok h)
    (fun _ _ _ h => scope_of_uses (Call.apply_ok h)) success

end Draft

end StarQuery.Query
