import StarQuery.Sql.Token

/-! A query statement: its clauses and their layout, one clause a line. -/
namespace StarQuery.Sql

structure Source where
  table : String
  rename : Option String
  deriving DecidableEq

def Source.name (s : Source) : String := s.rename.getD s.table

def Source.tokens (s : Source) : List Token :=
  .name s.table ::
    match s.rename with
    | none => []
    | some other =>
      if other = s.table then [] else [.space, .keyword .as, .space, .name other]

structure Item where
  expr : Expr
  name : String
  deriving DecidableEq

def Item.tokens (i : Item) : List Token :=
  i.expr.tokens ++ [.space, .keyword .as, .space, .name i.name]

/-- Every row of a fact has its row in each of its dimensions, so joins are inner joins. -/
structure Join where
  source : Source
  on : Expr
  deriving DecidableEq

def Join.tokens (j : Join) : List Token :=
  [.keyword .innerJoin, .space] ++ j.source.tokens ++ [.space, .keyword .on, .space] ++ j.on.tokens

inductive Direction where
  | ascending
  | descending
  deriving DecidableEq

def Direction.keyword : Direction → Keyword
  | .ascending => .asc
  | .descending => .desc

structure OrderTerm where
  expr : Expr
  direction : Direction
  deriving DecidableEq

def OrderTerm.tokens (t : OrderTerm) : List Token :=
  t.expr.tokens ++ [.space, .keyword t.direction.keyword]

structure Statement where
  source : Source
  items : List Item
  joins : List Join
  condition : Option Expr
  groupBy : List Expr
  having : Option Expr
  orderBy : List OrderTerm
  limit : Option UInt64
  deriving DecidableEq

namespace Statement

def clause (k : Keyword) (body : List Token) : List Token :=
  [.newline, .keyword k, .space] ++ body

def itemLines : List Item → List Token
  | [] => []
  | [i] => [.newline, .indent 1] ++ i.tokens
  | i :: items => [.newline, .indent 1] ++ i.tokens ++ .comma :: itemLines items

def conditionClause (k : Keyword) : Option Expr → List Token
  | none => []
  | some condition => clause k condition.tokens

def listClause (k : Keyword) : List (List Token) → List Token
  | [] => []
  | entries => clause k (commaSeparated entries)

def limitClause (ordered : Bool) : Option UInt64 → List Token
  | none => []
  | some rows => [.newline, .limit rows ordered]

def tokens (s : Statement) : List Token :=
  .keyword .select :: itemLines s.items ++
    clause .source s.source.tokens ++
    s.joins.flatMap (fun j => .newline :: j.tokens) ++
    conditionClause .filter s.condition ++
    listClause .groupBy (s.groupBy.map Expr.tokens) ++
    conditionClause .having s.having ++
    listClause .orderBy (s.orderBy.map OrderTerm.tokens) ++
    limitClause (!s.orderBy.isEmpty) s.limit

def sql (s : Statement) (d : Dialect) : Except RenderError String := toSql d s.tokens

end Statement

end StarQuery.Sql
