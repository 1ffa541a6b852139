import Mathlib.Data.List.Chain
import StarQuery.Sql.Statement

/-!
The spacing of tokens. Main statement: in a statement every name, text and operator has a separator
behind it, so that neighbouring quotes do not fuse and operators do not open comments.
-/
namespace StarQuery.Sql

namespace Token

def separates : Token → Bool
  | .comma | .dot | .rightParen | .space | .newline => true
  | _ => false

/-- A quote would fuse with a quote right behind it, and a minus sign with that of a number. -/
def needsSpace : Token → Bool
  | .name _ | .literal (.text _) | .operator _ => true
  | _ => false

def Apart (t u : Token) : Prop := t.needsSpace = true → u.separates = true

end Token

/-- Behind every token that needs one stands a separator, or nothing. -/
def Spaced (ts : List Token) : Prop := ts.IsChain Token.Apart

def Led (ts : List Token) : Prop := ∀ t ∈ ts.head?, t.separates = true

section

variable {t : Token} {ts us : List Token}

theorem Led.nil : Led [] := fun _ member => nomatch member

theorem Led.cons (separates : t.separates = true) : Led (t :: ts) := by
  intro u first
  obtain rfl : t = u := by simpa using first
  exact separates

theorem Led.append (first : Led ts) (second : Led us) : Led (ts ++ us) := by
  cases ts with
  | nil => exact second
  | cons t ts => exact first

namespace Spaced

theorem nil : Spaced [] := List.isChain_nil

theorem cons (free : t.needsSpace = false) (spaced : Spaced ts) : Spaced (t :: ts) := by
  refine List.isChain_cons.mpr ⟨fun u _ needs => ?_, spaced⟩
  rw [free] at needs
  cases needs

theorem cons_led (led : Led ts) (spaced : Spaced ts) : Spaced (t :: ts) :=
  List.isChain_cons.mpr ⟨fun u first _ => led u first, spaced⟩

theorem append (first : Spaced ts) (led : Led us) (second : Spaced us) : Spaced (ts ++ us) :=
  List.IsChain.append first second fun _ _ u head _ => led u head

theorem parenthesized (spaced : Spaced ts) : Spaced (Expr.parenthesized ts) :=
  cons rfl (spaced.append (Led.cons rfl) (cons rfl nil))

theorem operation {left right : List Token} (op : Operator) (spacedLeft : Spaced left)
    (spacedRight : Spaced right) : Spaced (left ++ [.space, .operator op, .space] ++ right) := by
  rw [List.append_assoc]
  exact spacedLeft.append (Led.cons rfl)
    (cons rfl (cons_led (Led.cons rfl) (cons rfl spacedRight)))

end Spaced

end

namespace Expr

theorem spaced_operand {e : Expr} (level : Nat) (spaced : Spaced e.tokens) :
    Spaced (if e.needsParens level then parenthesized e.tokens else e.tokens) := by
  split
  · exact spaced.parenthesized
  · exact spaced

mutual

theorem spaced_tokens : ∀ e : Expr, Spaced e.tokens
  | .column none name => by
    rw [tokens]
    exact Spaced.cons_led Led.nil Spaced.nil
  | .column (some table) name => by
    rw [tokens]
    exact Spaced.cons_led (Led.cons rfl) (Spaced.cons rfl (Spaced.cons_led Led.nil Spaced.nil))
  | .literal l => by
    rw [tokens]
    exact Spaced.cons_led Led.nil Spaced.nil
  | .binary op left right => by
    rw [tokens]
    exact Spaced.operation op (spaced_operand op.level (spaced_tokens left))
      (spaced_operand (op.level + 1) (spaced_tokens right))
  | .call name distinct argument => by
    have body : Spaced (argument.tokens ++ [.rightParen]) :=
      (spaced_tokens argument).append (Led.cons rfl) (Spaced.cons rfl Spaced.nil)
    rw [tokens, List.append_assoc]
    cases distinct with
    | false => exact Spaced.cons rfl (Spaced.cons rfl body)
    | true => exact Spaced.cons rfl (Spaced.cons rfl (Spaced.cons rfl (Spaced.cons rfl body)))
  | .caseWhen condition result => by
    have last : Spaced (result.tokens ++ [.space, .keyword .ends]) :=
      (spaced_tokens result).append (Led.cons rfl) (Spaced.cons rfl (Spaced.cons rfl Spaced.nil))
    have first : Spaced (condition.tokens ++ .space :: .keyword .then :: .space ::
        (result.tokens ++ [.space, .keyword .ends])) :=
      (spaced_tokens condition).append (Led.cons rfl)
        (Spaced.cons rfl (Spaced.cons rfl (Spaced.cons rfl last)))
    rw [tokens, List.append_assoc, List.append_assoc, List.append_assoc]
    exact Spaced.cons rfl (Spaced.cons rfl (Spaced.cons rfl (Spaced.cons rfl first)))
  | .isIn subject [] => by
    rw [tokens]
    exact Spaced.cons rfl Spaced.nil
  | .isIn subject (choice :: choices) => by
    have list : Spaced (choiceTokens (choice :: choices) ++ [.rightParen]) :=
      (spaced_choiceTokens (choice :: choices)).append (Led.cons rfl) (Spaced.cons rfl Spaced.nil)
    rw [tokens, List.append_assoc, List.append_assoc]
    exact (spaced_tokens subject).append (Led.cons rfl)
      (Spaced.cons rfl (Spaced.cons rfl (Spaced.cons rfl (Spaced.cons rfl list))))

theorem spaced_choiceTokens : ∀ choices : List Expr, Spaced (choiceTokens choices)
  | [] => by
    rw [choiceTokens]
    exact Spaced.nil
  | [choice] => by
    rw [choiceTokens]
    exact spaced_tokens choice
  | choice :: next :: choices => by
    rw [choiceTokens.eq_3 _ _ (by simp)]
    exact (spaced_tokens choice).append (Led.cons rfl)
      (Spaced.cons rfl (Spaced.cons rfl (spaced_choiceTokens (next :: choices))))

end

end Expr

theorem spaced_commaSeparated {entries : List (List Token)}
    (spaced : ∀ ts ∈ entries, Spaced ts) : Spaced (commaSeparated entries) := by
  induction entries with
  | nil => exact Spaced.nil
  | cons ts rest ih =>
    obtain ⟨first, more⟩ := List.forall_mem_cons.mp spaced
    cases rest with
    | nil => exact first
    | cons us rest =>
      rw [commaSeparated.eq_3 _ _ (by simp)]
      exact first.append (Led.cons rfl) (Spaced.cons rfl (Spaced.cons rfl (ih more)))

theorem Source.spaced_tokens (s : Source) : Spaced s.tokens := by
  unfold Source.tokens
  split
  · exact Spaced.cons_led Led.nil Spaced.nil
  · split
    · exact Spaced.cons_led Led.nil Spaced.nil
    · exact Spaced.cons_led (Led.cons rfl) (Spaced.cons rfl (Spaced.cons rfl (Spaced.cons rfl
        (Spaced.cons_led Led.nil Spaced.nil))))

theorem Item.spaced_tokens (i : Item) : Spaced i.tokens :=
  i.expr.spaced_tokens.append (Led.cons rfl) (Spaced.cons rfl (Spaced.cons rfl (Spaced.cons rfl
    (Spaced.cons_led Led.nil Spaced.nil))))

theorem Join.spaced_tokens (j : Join) : Spaced j.tokens := by
  have condition : Spaced (.space :: .keyword .on :: .space :: j.on.tokens) :=
    Spaced.cons rfl (Spaced.cons rfl (Spaced.cons rfl j.on.spaced_tokens))
  unfold Join.tokens
  rw [List.append_assoc, List.append_assoc]
  exact Spaced.cons rfl (Spaced.cons rfl (j.source.spaced_tokens.append (Led.cons rfl) condition))

theorem OrderTerm.spaced_tokens (t : OrderTerm) : Spaced t.tokens :=
  t.expr.spaced_tokens.append (Led.cons rfl) (Spaced.cons rfl (Spaced.cons rfl Spaced.nil))

namespace Statement

def Follows (ts : List Token) : Prop := Led ts ∧ Spaced ts

theorem Follows.nil : Follows [] := ⟨Led.nil, Spaced.nil⟩

theorem Follows.append {ts us : List Token} (first : Follows ts) (second : Follows us) :
    Follows (ts ++ us) :=
  ⟨first.1.append second.1, first.2.append second.1 second.2⟩

theorem follows_clause (k : Keyword) {body : List Token} (spaced : Spaced body) :
    Follows (clause k body) :=
  ⟨Led.cons rfl, Spaced.cons rfl (Spaced.cons rfl (Spaced.cons rfl spaced))⟩

theorem follows_itemLines (items : List Item) : Follows (itemLines items) := by
  induction items with
  | nil => exact Follows.nil
  | cons i rest ih =>
    have line : Follows ([.newline, .indent 1] ++ i.tokens) :=
      ⟨Led.cons rfl, Spaced.cons rfl (Spaced.cons rfl i.spaced_tokens)⟩
    cases rest with
    | nil => exact line
    | cons next rest =>
      rw [itemLines.eq_3 _ _ (by simp)]
      exact line.append ⟨Led.cons rfl, Spaced.cons rfl ih.2⟩

theorem follows_joins (joins : List Join) :
    Follows (joins.flatMap fun j => .newline :: j.tokens) := by
  induction joins with
  | nil => exact Follows.nil
  | cons j rest ih => exact Follows.append ⟨Led.cons rfl, Spaced.cons rfl j.spaced_tokens⟩ ih

theorem follows_conditionClause (k : Keyword) (condition : Option Expr) :
    Follows (conditionClause k condition) := by
  cases condition with
  | none => exact Follows.nil
  | some e => exact follows_clause k e.spaced_tokens

theorem follows_listClause (k : Keyword) {entries : List (List Token)}
    (spaced : ∀ ts ∈ entries, Spaced ts) : Follows (listClause k entries) := by
  cases entries with
  | nil => exact Follows.nil
  | cons ts rest => exact follows_clause k (spaced_commaSeparated spaced)

theorem follows_limitClause (ordered : Bool) (limit : Option UInt64) :
    Follows (limitClause ordered limit) := by
  cases limit with
  | none => exact Follows.nil
  | some rows => exact ⟨Led.cons rfl, Spaced.cons rfl (Spaced.cons rfl Spaced.nil)⟩

theorem spaced_tokens (s : Statement) : Spaced s.tokens := by
  have lines := follows_itemLines s.items
  have source := follows_clause .source s.source.spaced_tokens
  have joins := follows_joins s.joins
  have condition := follows_conditionClause .filter s.condition
  have groupBy : Follows (listClause .groupBy (s.groupBy.map Expr.tokens)) := by
    refine follows_listClause .groupBy ?_
    intro ts member
    obtain ⟨e, -, rfl⟩ := List.mem_map.mp member
    exact e.spaced_tokens
  have having := follows_conditionClause .having s.having
  have orderBy : Follows (listClause .orderBy (s.orderBy.map OrderTerm.tokens)) := by
    refine follows_listClause .orderBy ?_
    intro ts member
    obtain ⟨t, -, rfl⟩ := List.mem_map.mp member
    exact t.spaced_tokens
  have limit := follows_limitClause (!s.orderBy.isEmpty) s.limit
  have all := ((((((lines.append source).append joins).append condition).append groupBy).append
    having).append orderBy).append limit
  exact Spaced.cons rfl all.2

end Statement

end StarQuery.Sql
