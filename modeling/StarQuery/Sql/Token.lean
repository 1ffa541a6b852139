import StarQuery.Sql.Dialect
import StarQuery.Sql.Expr

/-!
The tokens of a statement, before the database is known. Quoting, literals, names of functions and
limits are settled when a token is written for a dialect.
-/
namespace StarQuery.Sql

inductive Keyword where
  | select
  | source
  | innerJoin
  | as
  | on
  | filter
  | groupBy
  | having
  | orderBy
  | asc
  | desc
  | case
  | when
  | then
  | ends
  | isIn
  | distinct
  | never
  deriving DecidableEq

def Keyword.text : Keyword → String
  | .select => "SELECT"
  | .source => "FROM"
  | .innerJoin => "INNER JOIN"
  | .as => "AS"
  | .on => "ON"
  | .filter => "WHERE"
  | .groupBy => "GROUP BY"
  | .having => "HAVING"
  | .orderBy => "ORDER BY"
  | .asc => "ASC"
  | .desc => "DESC"
  | .case => "CASE"
  | .when => "WHEN"
  | .then => "THEN"
  | .ends => "END"
  | .isIn => "IN"
  | .distinct => "DISTINCT"
  | .never => "FALSE"

inductive Token where
  | keyword (k : Keyword)
  | operator (op : Operator)
  | comma
  | dot
  | leftParen
  | rightParen
  | space
  | newline
  | indent (depth : Nat)
  | name (s : String)
  | literal (l : Literal)
  | functionName (s : String)
  | limit (rows : UInt64) (ordered : Bool)
  deriving DecidableEq

inductive RenderError where
  | nonFinite (x : Double)
  deriving DecidableEq

def RenderError.message : RenderError → String
  | .nonFinite x => "non-finite float literal " ++ String.ofList x.text

def Literal.render (d : Dialect) : Literal → Except RenderError (List Char)
  | .int n => .ok (intDigits n.toInt)
  | .float x => if x.isFinite then .ok (DoubleFormat.literal.write x) else .error (.nonFinite x)
  | .text s => .ok (d.quoteText s)
  | .bool b => .ok (d.boolText b).toList
  | .null => .ok "NULL".toList

def Token.render (d : Dialect) : Token → Except RenderError (List Char)
  | .keyword k => .ok k.text.toList
  | .operator op => .ok op.symbol.toList
  | .comma => .ok [',']
  | .dot => .ok ['.']
  | .leftParen => .ok ['(']
  | .rightParen => .ok [')']
  | .space => .ok [' ']
  | .newline => .ok ['\n']
  | .indent depth => .ok (List.replicate (2 * depth) ' ')
  | .name s => .ok (d.quoteName s)
  | .literal l => l.render d
  | .functionName s => .ok ((d.functionName? s).getD (Text.upper s)).toList
  | .limit rows ordered => .ok (d.limitText rows ordered)

def renderAll (d : Dialect) : List Token → Except RenderError (List Char)
  | [] => .ok []
  | t :: ts => do
    let first ← t.render d
    let rest ← renderAll d ts
    .ok (first ++ rest)

def toSql (d : Dialect) (ts : List Token) : Except RenderError String :=
  (renderAll d ts).map String.ofList

def commaSeparated : List (List Token) → List Token
  | [] => []
  | [ts] => ts
  | ts :: rest => ts ++ .comma :: .space :: commaSeparated rest

namespace Expr

def parenthesized (ts : List Token) : List Token := .leftParen :: ts ++ [.rightParen]

/-- Whether an operand needs parentheses where only operators of at least `level` may stand bare. -/
def needsParens (level : Nat) : Expr → Bool
  | .binary op _ _ => op.level < level
  | _ => false

mutual

/-- The right operand of an operator stands bare only if it binds tighter, so that differences and
quotients keep their grouping. Nothing is a member of an empty list. -/
def tokens : Expr → List Token
  | .column none name => [.name name]
  | .column (some table) name => [.name table, .dot, .name name]
  | .literal l => [.literal l]
  | .binary op left right =>
    (if left.needsParens op.level then parenthesized left.tokens else left.tokens) ++
      [.space, .operator op, .space] ++
      (if right.needsParens (op.level + 1) then parenthesized right.tokens else right.tokens)
  | .call name distinct argument =>
    [.functionName name, .leftParen] ++ (if distinct then [.keyword .distinct, .space] else []) ++
      argument.tokens ++ [.rightParen]
  | .caseWhen condition result =>
    [.keyword .case, .space, .keyword .when, .space] ++ condition.tokens ++
      [.space, .keyword .then, .space] ++ result.tokens ++ [.space, .keyword .ends]
  | .isIn _ [] => [.keyword .never]
  | .isIn subject (choice :: choices) =>
    subject.tokens ++ [.space, .keyword .isIn, .space, .leftParen] ++
      choiceTokens (choice :: choices) ++ [.rightParen]

def choiceTokens : List Expr → List Token
  | [] => []
  | [choice] => choice.tokens
  | choice :: choices => choice.tokens ++ .comma :: .space :: choiceTokens choices

end

end Expr

end StarQuery.Sql
