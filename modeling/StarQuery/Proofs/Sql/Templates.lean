import Mathlib.Data.List.Forall2
import StarQuery.Sql.Statement

/-!
Statements whose literals are left open. Main statement: two statements that are the same but for
their conditions, where these are one template with other literals, are one template as a whole.
-/
namespace StarQuery.Sql

inductive LiteralKind where
  | int
  | float
  | text
  | bool
  | null
  deriving DecidableEq

def Literal.kind : Literal → LiteralKind
  | .int _ => .int
  | .float _ => .float
  | .text _ => .text
  | .bool _ => .bool
  | .null => .null

/-- A place in a template: a token that is given, or a gap for a literal of the kind. -/
inductive Place where
  | given (t : Token)
  | gap (k : LiteralKind)

inductive Fills : List Place → List Literal → List Token → Prop where
  | nil : Fills [] [] []
  | given {places ls ts} (t : Token) (rest : Fills places ls ts) :
    Fills (.given t :: places) ls (t :: ts)
  | gap {places ls ts} (l : Literal) (rest : Fills places ls ts) :
    Fills (.gap l.kind :: places) (l :: ls) (.literal l :: ts)

/-- One template gives the tokens `ts` with the literals `ls`, and `ts'` with `ls'`. -/
def InStep (ls ls' : List Literal) (ts ts' : List Token) : Prop :=
  ∃ places, Fills places ls ts ∧ Fills places ls' ts'

def Token.Agrees (t t' : Token) : Prop :=
  t' = t ∨ ∃ l l', t = .literal l ∧ t' = .literal l' ∧ l'.kind = l.kind

section

variable {ls ls' ms ms' : List Literal} {ts ts' us us' : List Token}

namespace Fills

theorem of_given (ts : List Token) : Fills (ts.map .given) [] ts := by
  induction ts with
  | nil => exact .nil
  | cons t ts ih => exact .given t ih

theorem append {places places' : List Place} (first : Fills places ls ts)
    (second : Fills places' ms us) : Fills (places ++ places') (ls ++ ms) (ts ++ us) := by
  induction first with
  | nil => exact second
  | given t _ ih => exact .given t ih
  | gap l _ ih => exact .gap l ih

/-- The gaps of a template alone tell its fillings apart. -/
theorem agree {places : List Place} (fills : Fills places ls ts) (fills' : Fills places ls' ts') :
    List.Forall₂ Token.Agrees ts ts' := by
  induction fills generalizing ls' ts' with
  | nil =>
    cases fills'
    exact .nil
  | given t _ ih =>
    cases fills' with
    | given _ rest => exact .cons (.inl rfl) (ih rest)
  | gap l _ ih =>
    generalize sameKind : l.kind = k at fills'
    cases fills' with
    | gap l' rest => exact .cons (.inr ⟨l, l', rfl, rfl, sameKind.symm⟩) (ih rest)

end Fills

namespace InStep

theorem refl (ts : List Token) : InStep [] [] ts ts := ⟨ts.map .given, .of_given ts, .of_given ts⟩

theorem append (first : InStep ls ls' ts ts') (second : InStep ms ms' us us') :
    InStep (ls ++ ms) (ls' ++ ms') (ts ++ us) (ts' ++ us') := by
  obtain ⟨places, fills, fills'⟩ := first
  obtain ⟨more, fillsMore, fillsMore'⟩ := second
  exact ⟨places ++ more, fills.append fillsMore, fills'.append fillsMore'⟩

theorem behind (us : List Token) (step : InStep ls ls' ts ts') :
    InStep ls ls' (us ++ ts) (us ++ ts') :=
  (refl us).append step

theorem before (us : List Token) (step : InStep ls ls' ts ts') :
    InStep ls ls' (ts ++ us) (ts' ++ us) := by
  have whole := step.append (refl us)
  rw [List.append_nil, List.append_nil] at whole
  exact whole

theorem literal {l l' : Literal} (sameKind : l'.kind = l.kind) :
    InStep [l] [l'] [.literal l] [.literal l'] :=
  ⟨[.gap l.kind], .gap l .nil, sameKind ▸ .gap l' .nil⟩

theorem agree (step : InStep ls ls' ts ts') : List.Forall₂ Token.Agrees ts ts' := by
  obtain ⟨places, fills, fills'⟩ := step
  exact fills.agree fills'

theorem equals (subject : Expr) {l l' : Literal} (sameKind : l'.kind = l.kind) :
    InStep [l] [l'] (subject.equals (.literal l)).tokens (subject.equals (.literal l')).tokens := by
  simp only [Expr.equals, Expr.tokens, Expr.needsParens, Bool.false_eq_true, if_false]
  exact (literal sameKind).behind _

theorem choices (sameKinds : List.Forall₂ (fun l l' => l'.kind = l.kind) ls ls') :
    InStep ls ls' (Expr.choiceTokens (ls.map .literal))
      (Expr.choiceTokens (ls'.map .literal)) := by
  induction sameKinds with
  | nil => exact refl _
  | @cons l l' ls ls' sameKind rest ih =>
    cases rest with
    | nil =>
      simp only [List.map_cons, List.map_nil, Expr.choiceTokens, Expr.tokens]
      exact literal sameKind
    | cons next more =>
      simp only [List.map_cons, Expr.choiceTokens, Expr.tokens] at ih ⊢
      exact (literal sameKind).append (ih.behind [.comma, .space])

theorem isIn (subject : Expr) (sameKinds : List.Forall₂ (fun l l' => l'.kind = l.kind) ls ls') :
    InStep ls ls' (Expr.isIn subject (ls.map .literal)).tokens
      (Expr.isIn subject (ls'.map .literal)).tokens := by
  have listed := choices sameKinds
  cases sameKinds with
  | nil => exact refl _
  | cons sameKind rest =>
    rw [List.map_cons, List.map_cons] at listed ⊢
    rw [Expr.tokens, Expr.tokens]
    exact (listed.behind _).before _

theorem and {left left' right right' : Expr} (first : InStep ls ls' left.tokens left'.tokens)
    (second : InStep ms ms' right.tokens right'.tokens) (bare : right.needsParens 2 = false)
    (bare' : right'.needsParens 2 = false) :
    InStep (ls ++ ms) (ls' ++ ms') (Expr.binary .and left right).tokens
      (Expr.binary .and left' right').tokens := by
  have loosest (e : Expr) : e.needsParens Operator.and.level = false := by
    cases e with
    | binary op _ _ => cases op <;> rfl
    | _ => rfl
  rw [Expr.tokens, Expr.tokens, loosest, loosest, Operator.level, bare, bare']
  exact (first.before _).append second

theorem clause (k : Keyword) {e e' : Expr} (step : InStep ls ls' e.tokens e'.tokens) :
    InStep ls ls' (Statement.conditionClause k (some e)) (Statement.conditionClause k (some e')) :=
  step.behind [.newline, .keyword k, .space]

theorem statement {s s' : Statement}
    (rest : s' = { s with condition := s'.condition, having := s'.having })
    (rows : InStep ls ls' (Statement.conditionClause .filter s.condition)
      (Statement.conditionClause .filter s'.condition))
    (groups : InStep ms ms' (Statement.conditionClause .having s.having)
      (Statement.conditionClause .having s'.having)) :
    InStep (ls ++ ms) (ls' ++ ms') s.tokens s'.tokens := by
  rw [rest, Statement.tokens, Statement.tokens]
  exact ((((rows.behind _).before _).append groups).before _).before _

end InStep

end

end StarQuery.Sql
