import StarQuery.Proofs.Sql.Rendering

/-!
Where aggregates are called. A call can be at a place that is not written, because a membership in
an empty list is written as FALSE. Main statements: the test for aggregates looks at the whole
expression, and the tokens have just the calls that stand outside of memberships in empty lists.
-/
namespace StarQuery.Sql

def Token.callsAggregate : Token → Bool
  | .functionName s => Expr.isAggregateName s
  | _ => false

namespace Expr

/-- An aggregate function is called somewhere in the expression. Memberships are entered only if
their lists are `counted`. -/
inductive Calls (counted : List Expr → Prop) : Expr → Prop where
  | call {name : String} {distinct : Bool} {argument : Expr}
      (aggregate : isAggregateName name = true) : Calls counted (.call name distinct argument)
  | argument {name : String} {distinct : Bool} {argument : Expr} (calls : Calls counted argument) :
      Calls counted (.call name distinct argument)
  | left {op : Operator} {left right : Expr} (calls : Calls counted left) :
      Calls counted (.binary op left right)
  | right {op : Operator} {left right : Expr} (calls : Calls counted right) :
      Calls counted (.binary op left right)
  | condition {condition result : Expr} (calls : Calls counted condition) :
      Calls counted (.caseWhen condition result)
  | result {condition result : Expr} (calls : Calls counted result) :
      Calls counted (.caseWhen condition result)
  | subject {subject : Expr} {choices : List Expr} (enters : counted choices)
      (calls : Calls counted subject) : Calls counted (.isIn subject choices)
  | choice {subject choice : Expr} {choices : List Expr} (enters : counted choices)
      (member : choice ∈ choices) (calls : Calls counted choice) :
      Calls counted (.isIn subject choices)

def CallsAggregate (e : Expr) : Prop := e.Calls fun _ => True

/-- An aggregate is called outside of memberships in empty lists. -/
def WritesAggregate (e : Expr) : Prop := e.Calls (· ≠ [])

section

variable {counted : List Expr → Prop} {left right condition result subject argument : Expr}
  {choices : List Expr}

theorem calls_column (table : Option String) (name : String) :
    ¬Calls counted (.column table name) := nofun

theorem calls_literal (l : Literal) : ¬Calls counted (.literal l) := nofun

theorem calls_binary (op : Operator) :
    Calls counted (.binary op left right) ↔ left.Calls counted ∨ right.Calls counted := by
  constructor
  · intro calls
    cases calls with
    | left calls => exact Or.inl calls
    | right calls => exact Or.inr calls
  · rintro (calls | calls)
    · exact Calls.left calls
    · exact Calls.right calls

theorem calls_call (name : String) (distinct : Bool) :
    Calls counted (.call name distinct argument) ↔
      isAggregateName name = true ∨ argument.Calls counted := by
  constructor
  · intro calls
    cases calls with
    | call aggregate => exact Or.inl aggregate
    | argument calls => exact Or.inr calls
  · rintro (aggregate | calls)
    · exact Calls.call aggregate
    · exact Calls.argument calls

theorem calls_caseWhen :
    Calls counted (.caseWhen condition result) ↔
      condition.Calls counted ∨ result.Calls counted := by
  constructor
  · intro calls
    cases calls with
    | condition calls => exact Or.inl calls
    | result calls => exact Or.inr calls
  · rintro (calls | calls)
    · exact Calls.condition calls
    · exact Calls.result calls

theorem calls_isIn :
    Calls counted (.isIn subject choices) ↔
      counted choices ∧ (subject.Calls counted ∨ ∃ c ∈ choices, c.Calls counted) := by
  constructor
  · intro calls
    cases calls with
    | subject enters calls => exact ⟨enters, Or.inl calls⟩
    | choice enters member calls => exact ⟨enters, Or.inr ⟨_, member, calls⟩⟩
  · rintro ⟨enters, calls | ⟨c, member, calls⟩⟩
    · exact Calls.subject enters calls
    · exact Calls.choice enters member calls

end

theorem anyAggregate_iff (es : List Expr) :
    anyAggregate es = true ↔ ∃ e ∈ es, e.hasAggregate = true := by
  induction es with
  | nil => simp [anyAggregate]
  | cons e es ih => simp [anyAggregate, ih]

theorem hasAggregate_iff (e : Expr) : e.hasAggregate = true ↔ e.CallsAggregate := by
  unfold CallsAggregate
  induction e using Expr.induct with
  | column table name => simp [hasAggregate, calls_column]
  | literal l => simp [hasAggregate, calls_literal]
  | binary op left right ihLeft ihRight =>
    rw [hasAggregate, Bool.or_eq_true, ihLeft, ihRight, calls_binary]
  | call name distinct argument ih => rw [hasAggregate, Bool.or_eq_true, ih, calls_call]
  | caseWhen condition result ihCondition ihResult =>
    rw [hasAggregate, Bool.or_eq_true, ihCondition, ihResult, calls_caseWhen]
  | isIn subject choices ihSubject ihChoices =>
    have choices_iff : anyAggregate choices = true ↔ ∃ c ∈ choices, c.Calls fun _ => True := by
      rw [anyAggregate_iff]
      exact exists_congr fun c => and_congr_right (ihChoices c)
    rw [hasAggregate, Bool.or_eq_true, ihSubject, choices_iff, calls_isIn, true_and]

theorem any_parenthesized (ts : List Token) :
    (parenthesized ts).any Token.callsAggregate = ts.any Token.callsAggregate := by
  simp [parenthesized, Token.callsAggregate]

theorem any_operand (e : Expr) (level : Nat) :
    (if e.needsParens level then parenthesized e.tokens else e.tokens).any Token.callsAggregate =
      e.tokens.any Token.callsAggregate := by
  split
  · exact any_parenthesized e.tokens
  · rfl

theorem any_choiceTokens (es : List Expr) :
    (choiceTokens es).any Token.callsAggregate = true ↔
      ∃ e ∈ es, e.tokens.any Token.callsAggregate = true := by
  induction es with
  | nil => simp [choiceTokens]
  | cons e es ih =>
    cases es with
    | nil => simp [choiceTokens]
    | cons next es =>
      have whole : choiceTokens (e :: next :: es) =
          e.tokens ++ .comma :: .space :: choiceTokens (next :: es) := rfl
      rw [whole, List.any_append, Bool.or_eq_true, List.exists_mem_cons_iff, ← ih]
      rfl

/-- What is written of an expression calls an aggregate just if the expression does outside of
memberships in empty lists. -/
theorem any_tokens_iff (e : Expr) :
    e.tokens.any Token.callsAggregate = true ↔ e.WritesAggregate := by
  unfold WritesAggregate
  induction e using Expr.induct with
  | column table name => cases table <;> simp [tokens, Token.callsAggregate, calls_column]
  | literal l => simp [tokens, Token.callsAggregate, calls_literal]
  | binary op left right ihLeft ihRight =>
    rw [calls_binary, ← ihLeft, ← ihRight, tokens, List.any_append, List.any_append, any_operand,
      any_operand]
    simp [Token.callsAggregate]
  | call name distinct argument ih =>
    rw [calls_call, ← ih, tokens]
    cases distinct <;> simp [Token.callsAggregate]
  | caseWhen condition result ihCondition ihResult =>
    rw [calls_caseWhen, ← ihCondition, ← ihResult, tokens]
    simp [Token.callsAggregate]
  | isIn subject choices ihSubject ihChoices =>
    cases choices with
    | nil => simp [tokens, Token.callsAggregate, calls_isIn]
    | cons choice choices =>
      have choices_iff : (choiceTokens (choice :: choices)).any Token.callsAggregate = true ↔
          ∃ c ∈ choice :: choices, c.Calls (· ≠ []) := by
        rw [any_choiceTokens]
        exact exists_congr fun c => and_congr_right (ihChoices c)
      rw [calls_isIn, ← ihSubject, ← choices_iff, tokens, List.any_append, List.any_append,
        List.any_append]
      simp [Token.callsAggregate]

end Expr

end StarQuery.Sql
