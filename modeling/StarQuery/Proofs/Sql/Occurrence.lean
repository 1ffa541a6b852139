import Mathlib.Tactic.Tauto
import StarQuery.Sql.Statement

/-!
Where columns occur in expressions and statements. Main statement: a column outside some places of
an expression occurs outside the same places of one of its operands.
-/
namespace StarQuery.Sql

namespace Expr

mutual

/-- The columns, each with its qualifier, that occur in an expression at places for which `skip`
does not hold and that lie within none for which it does. -/
def columnsOutside (skip : Expr → Bool) (e : Expr) : List (Option String × String) :=
  if skip e then []
  else
    match e with
    | .column table name => [(table, name)]
    | .literal _ => []
    | .binary _ left right => columnsOutside skip left ++ columnsOutside skip right
    | .call _ _ argument => columnsOutside skip argument
    | .caseWhen condition result => columnsOutside skip condition ++ columnsOutside skip result
    | .isIn subject choices => columnsOutside skip subject ++ allColumnsOutside skip choices

def allColumnsOutside (skip : Expr → Bool) : List Expr → List (Option String × String)
  | [] => []
  | choice :: choices => columnsOutside skip choice ++ allColumnsOutside skip choices

end

def isAggregateCall : Expr → Bool
  | .call name _ _ => isAggregateName name
  | _ => false

/-- The columns outside the arguments of aggregate calls. -/
def bareColumns (e : Expr) : List (Option String × String) := e.columnsOutside isAggregateCall

def qualifiersOutside (within : List Expr) (e : Expr) : List String :=
  (e.columnsOutside (within.contains ·)).filterMap Prod.fst

variable {skip : Expr → Bool}

theorem columnsOutside_of_skip {e : Expr} (skipped : skip e = true) :
    e.columnsOutside skip = [] := by
  unfold columnsOutside
  exact if_pos skipped

theorem mem_qualifiersOutside {within : List Expr} {e : Expr} {q : String} :
    q ∈ e.qualifiersOutside within ↔
      ∃ name, (some q, name) ∈ e.columnsOutside (within.contains ·) := by
  simp [qualifiersOutside]

theorem columnsOutside_column (table : Option String) (name : String) :
    columnsOutside skip (.column table name) ⊆ [(table, name)] := by
  rw [columnsOutside]
  split
  · exact List.nil_subset [(table, name)]
  · exact List.Subset.refl [(table, name)]

theorem columnsOutside_literal (l : Literal) : columnsOutside skip (.literal l) = [] := by
  rw [columnsOutside]
  exact ite_self []

theorem columnsOutside_binary (op : Operator) (left right : Expr) :
    columnsOutside skip (.binary op left right) ⊆
      left.columnsOutside skip ++ right.columnsOutside skip := by
  rw [columnsOutside]
  split
  · exact List.nil_subset _
  · exact List.Subset.refl _

theorem columnsOutside_call (name : String) (distinct : Bool) (argument : Expr) :
    columnsOutside skip (.call name distinct argument) ⊆ argument.columnsOutside skip := by
  rw [columnsOutside]
  split
  · exact List.nil_subset _
  · exact List.Subset.refl _

theorem columnsOutside_caseWhen (condition result : Expr) :
    columnsOutside skip (.caseWhen condition result) ⊆
      condition.columnsOutside skip ++ result.columnsOutside skip := by
  rw [columnsOutside]
  split
  · exact List.nil_subset _
  · exact List.Subset.refl _

theorem allColumnsOutside_literals (ls : List Literal) :
    allColumnsOutside skip (ls.map .literal) = [] := by
  induction ls with
  | nil => rfl
  | cons l ls ih => rw [List.map_cons, allColumnsOutside, columnsOutside_literal, ih]; rfl

theorem map_ofValue (values : List Value) :
    values.map ofValue = (values.map Literal.ofValue).map literal := by
  rw [List.map_map]
  rfl

theorem columnsOutside_isIn (subject : Expr) (ls : List Literal) :
    columnsOutside skip (.isIn subject (ls.map .literal)) ⊆ subject.columnsOutside skip := by
  rw [columnsOutside]
  split
  · exact List.nil_subset _
  · rw [allColumnsOutside_literals, List.append_nil]
    exact List.Subset.refl _

def mentions (e : Expr) : List (Option String × String) := e.columnsOutside fun _ => false

theorem mentions_column (table : Option String) (name : String) :
    (Expr.column table name).mentions = [(table, name)] := rfl

theorem mentions_binary (op : Operator) (left right : Expr) :
    (Expr.binary op left right).mentions = left.mentions ++ right.mentions := rfl

theorem mentions_call (name : String) (distinct : Bool) (argument : Expr) :
    (Expr.call name distinct argument).mentions = argument.mentions := rfl

theorem mentions_caseWhen (condition result : Expr) :
    (Expr.caseWhen condition result).mentions = condition.mentions ++ result.mentions := rfl

theorem mentions_isIn (subject : Expr) (choices : List Expr) :
    (Expr.isIn subject choices).mentions =
      subject.mentions ++ allColumnsOutside (fun _ => false) choices := rfl

mutual

theorem mentions_split (skip : Expr → Bool) {c : Option String × String} (e : Expr)
    (occurs : c ∈ e.mentions) :
    c ∈ e.columnsOutside skip ∨ ∃ place, skip place = true ∧ c ∈ place.mentions := by
  by_cases skipped : skip e = true
  · exact Or.inr ⟨e, skipped, occurs⟩
  · rw [columnsOutside.eq_def, if_neg skipped]
    cases e with
    | column table name =>
      rw [mentions_column] at occurs
      exact Or.inl occurs
    | literal l =>
      rw [mentions, columnsOutside_literal] at occurs
      cases occurs
    | binary op left right =>
      rw [mentions_binary] at occurs
      rcases List.mem_append.mp occurs with first | second
      · exact (mentions_split skip left first).imp (List.mem_append_left _) id
      · exact (mentions_split skip right second).imp (List.mem_append_right _) id
    | call name distinct argument =>
      rw [mentions_call] at occurs
      exact mentions_split skip argument occurs
    | caseWhen condition result =>
      rw [mentions_caseWhen] at occurs
      rcases List.mem_append.mp occurs with first | second
      · exact (mentions_split skip condition first).imp (List.mem_append_left _) id
      · exact (mentions_split skip result second).imp (List.mem_append_right _) id
    | isIn subject choices =>
      rw [mentions_isIn] at occurs
      rcases List.mem_append.mp occurs with first | second
      · exact (mentions_split skip subject first).imp (List.mem_append_left _) id
      · exact (allMentions_split skip choices second).imp (List.mem_append_right _) id

theorem allMentions_split (skip : Expr → Bool) {c : Option String × String} (es : List Expr)
    (occurs : c ∈ allColumnsOutside (fun _ => false) es) :
    c ∈ allColumnsOutside skip es ∨ ∃ place, skip place = true ∧ c ∈ place.mentions := by
  cases es with
  | nil => cases occurs
  | cons e es =>
    rw [allColumnsOutside] at occurs ⊢
    rcases List.mem_append.mp occurs with first | rest
    · exact (mentions_split skip e first).imp (List.mem_append_left _) id
    · exact (allMentions_split skip es rest).imp (List.mem_append_right _) id

end

theorem anyAggregate_literals (ls : List Literal) : anyAggregate (ls.map .literal) = false := by
  induction ls with
  | nil => rfl
  | cons l ls ih => rw [List.map_cons, anyAggregate, ih]; rfl

end Expr

namespace Statement

/-- The expressions by which a result row is computed, kept and placed: those of the items, of
HAVING and of ORDER BY. -/
def resultExprs (s : Statement) : List Expr :=
  s.items.map Item.expr ++ s.having.toList ++ s.orderBy.map OrderTerm.expr

def clauseExprs (s : Statement) : List Expr :=
  s.items.map Item.expr ++ s.condition.toList ++ s.groupBy ++ s.having.toList ++
    s.orderBy.map OrderTerm.expr

theorem mem_clauseExprs {s : Statement} {e : Expr} :
    e ∈ s.clauseExprs ↔ s.condition = some e ∨ e ∈ s.groupBy ∨ e ∈ s.resultExprs := by
  simp only [clauseExprs, resultExprs, List.mem_append, Option.mem_toList]
  tauto

theorem item_mem_clauseExprs {s : Statement} {i : Item} (member : i ∈ s.items) :
    i.expr ∈ s.clauseExprs := by
  simp only [clauseExprs, List.mem_append]
  exact Or.inl (Or.inl (Or.inl (Or.inl (List.mem_map_of_mem member))))

theorem having_mem_clauseExprs {s : Statement} {e : Expr} (having : s.having = some e) :
    e ∈ s.clauseExprs := by
  simp only [clauseExprs, List.mem_append]
  exact Or.inl (Or.inr (Option.mem_toList.mpr having))

theorem orderTerm_mem_clauseExprs {s : Statement} {t : OrderTerm} (member : t ∈ s.orderBy) :
    t.expr ∈ s.clauseExprs :=
  List.mem_append_right _ (List.mem_map_of_mem member)

def tableNames (s : Statement) : List String :=
  s.source.name :: s.joins.map fun join => join.source.name

def aggregates (s : Statement) : Bool := s.resultExprs.any Expr.hasAggregate

end Statement

end StarQuery.Sql
