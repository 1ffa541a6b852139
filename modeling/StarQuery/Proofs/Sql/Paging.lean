import Mathlib.Data.List.Infix
import StarQuery.Proofs.Sql.Floats
import StarQuery.Proofs.Sql.Layout
import StarQuery.Proofs.Success

/-!
Statements with a limit in T-SQL, where rows are counted off behind an ORDER BY only. Main
statements: the layout of a statement can be read off its tokens, and with a limit one token brings
an ORDER BY: its own if the statement has an order, else the limit itself.
-/
namespace StarQuery.Sql

namespace Token

def isFixed : Token → Bool
  | .name _ | .literal _ | .functionName _ => false
  | _ => true

def writesOrder (t : Token) : Bool :=
  t.isFixed && (t.render .tSql).toOption.any fun text => decide ("ORDER BY".toList <:+: text)

end Token

/-- The limit of the statement comes behind one ORDER BY in T-SQL. -/
structure Statement.OrdersOnce (s : Statement) (rows : UInt64) : Prop where
  token : s.tokens.filter Token.writesOrder =
    [if s.orderBy.isEmpty then .limit rows false else .keyword .orderBy]
  written : (∀ x, .literal (.float x) ∈ s.tokens → x.isFinite = true) →
    ∃ sql, s.sql .tSql = .ok sql
  text : ∀ sql, s.sql .tSql = .ok sql → ∃ ahead order,
    ({ s with orderBy := [], limit := none } : Statement).sql .tSql = .ok ahead ∧
    (if s.orderBy.isEmpty then order = "(SELECT NULL)"
      else toSql .tSql (commaSeparated (s.orderBy.map OrderTerm.tokens)) = .ok order) ∧
    sql = ahead ++ "\nORDER BY " ++ order ++ "\nOFFSET 0 ROWS FETCH NEXT " ++
      String.ofList (natDigits rows.toNat) ++ " ROWS ONLY"

namespace Token

variable {t : Token} {text : List Char}

theorem writesOrder_of_text (fixed : t.isFixed = true) (written : t.render .tSql = .ok text) :
    t.writesOrder = decide ("ORDER BY".toList <:+: text) := by
  rw [writesOrder, fixed, written]
  rfl

theorem writesOrder_of_absent (fixed : t.isFixed = true) (written : t.render .tSql = .ok text)
    (absent : 'B' ∉ text) : t.writesOrder = false := by
  rw [writesOrder_of_text fixed written, decide_eq_false_iff_not]
  exact fun within => absent (within.subset (by decide))

theorem writesOrder_limit (rows : UInt64) (ordered : Bool) :
    (Token.limit rows ordered).writesOrder = !ordered := by
  cases ordered with
  | true =>
    refine writesOrder_of_absent rfl rfl fun member => ?_
    simp only [Dialect.limitText, if_true, List.nil_append, List.mem_append] at member
    rcases member with (fetch | digits) | rows
    · revert fetch
      decide
    · exact absurd (isDigit_of_mem_natDigits digits) (by decide)
    · revert rows
      decide
  | false =>
    rw [writesOrder_of_text rfl rfl, Bool.not_false, decide_eq_true_iff]
    have makes : "ORDER BY".toList <:+: "ORDER BY (SELECT NULL)\n".toList :=
      List.IsPrefix.isInfix ⟨" (SELECT NULL)\n".toList, rfl⟩
    exact makes.trans (List.prefix_append _ _).isInfix

theorem writesOrder_eq (t : Token) :
    t.writesOrder = match t with
      | .keyword k => k == .orderBy
      | .limit _ ordered => !ordered
      | _ => false := by
  cases t with
  | keyword k => cases k <;> decide +kernel
  | operator op => cases op <;> exact writesOrder_of_absent rfl rfl (by decide)
  | indent depth =>
    refine writesOrder_of_absent rfl rfl fun member => ?_
    exact absurd (List.eq_of_mem_replicate member) (by decide)
  | limit rows ordered => exact writesOrder_limit rows ordered
  | name s | literal l | functionName s => rfl
  | _ => exact writesOrder_of_absent rfl rfl (by decide)

end Token

section

variable {ts : List Token}

theorem filter_inner (inner : ∀ t ∈ ts, t.isInner = true) : ts.filter Token.writesOrder = [] := by
  refine List.filter_eq_nil_iff.mpr fun t member => ?_
  have isInner := inner t member
  rw [Token.writesOrder_eq]
  cases t with
  | keyword k => cases k <;> first | decide | cases isInner
  | limit rows ordered => cases isInner
  | _ => exact Bool.false_ne_true

theorem filter_commaSeparated {entries : List (List Token)}
    (none : ∀ ts ∈ entries, ts.filter Token.writesOrder = []) :
    (commaSeparated entries).filter Token.writesOrder = [] := by
  induction entries with
  | nil => rfl
  | cons ts rest ih =>
    obtain ⟨first, others⟩ := List.forall_mem_cons.mp none
    cases rest with
    | nil => exact first
    | cons us rest =>
      rw [commaSeparated.eq_3 _ _ (by simp), List.filter_append, first, List.nil_append]
      simpa [Token.writesOrder_eq] using ih others

end

namespace Line

def orders : Line → List Token
  | .orderBy _ => [.keyword .orderBy]
  | .limit rows false => [.limit rows false]
  | _ => []

theorem filter_tokens {line : Line} (legible : line.Legible) :
    line.tokens.filter Token.writesOrder = line.orders := by
  have table (table : String × String) : (tableTokens table).filter Token.writesOrder = [] := by
    rw [tableTokens]
    split <;> simp [Token.writesOrder_eq]
  cases line with
  | select => simp [tokens, orders, Token.writesOrder_eq]
  | item expr name more =>
    cases more <;> simp [tokens, orders, Token.writesOrder_eq, filter_inner legible.inner]
  | source t => simp [tokens, orders, Token.writesOrder_eq, table]
  | join t on => simp [tokens, orders, Token.writesOrder_eq, table, filter_inner legible.inner]
  | condition expr | having expr =>
    simp [tokens, orders, Token.writesOrder_eq, filter_inner legible.inner]
  | groupBy entries =>
    have list : (commaSeparated entries).filter Token.writesOrder = [] :=
      filter_commaSeparated fun ts member => filter_inner (legible.2 ts member).inner
    simp [tokens, orders, Token.writesOrder_eq, list]
  | orderBy terms =>
    have list : (commaSeparated (terms.map termTokens)).filter Token.writesOrder = [] := by
      refine filter_commaSeparated fun ts member => ?_
      obtain ⟨term, inside, rfl⟩ := List.mem_map.mp member
      rw [termTokens, List.filter_append, filter_inner (legible.2 term inside).inner]
      cases term.2 <;> simp [Direction.keyword, Token.writesOrder_eq]
    simp [tokens, orders, Token.writesOrder_eq, list]
  | limit rows ordered => cases ordered <;> simp [tokens, orders, Token.writesOrder_eq]

end Line

namespace Statement

variable {s : Statement} {rows : UInt64}

theorem filter_writtenLines {lines : List Line} (legible : ∀ line ∈ lines, line.Legible) :
    (writtenLines lines).filter Token.writesOrder = lines.flatMap Line.orders := by
  induction lines with
  | nil => rfl
  | cons line lines ih =>
    obtain ⟨first, rest⟩ := List.forall_mem_cons.mp legible
    have more := ih rest
    rw [writtenLines] at more
    simp [writtenLines, more, Line.filter_tokens first, Token.writesOrder_eq]

theorem filter_tokens (limited : s.limit = some rows) :
    s.tokens.filter Token.writesOrder =
      [if s.orderBy.isEmpty then .limit rows false else .keyword .orderBy] := by
  have items (items : List (List Token × String)) :
      (Line.items items).flatMap Line.orders = [] := by
    refine List.flatMap_eq_nil_iff.mpr fun line member => ?_
    obtain ⟨expr, name, more, -, rfl⟩ := Line.mem_items member
    rfl
  have first : Line.select.tokens.filter Token.writesOrder = [] := Line.filter_tokens trivial
  have joins (joins : List ((String × String) × List Token)) :
      (joins.map fun j => Line.join j.1 j.2).flatMap Line.orders = [] := by
    simp [List.flatMap_map, Line.orders]
  rw [tokens_layout, tokens_writtenLines, List.filter_append, filter_writtenLines s.legible_layout,
    first, Layout.clauses]
  simp only [List.flatMap_append, List.flatMap_cons, items, joins]
  obtain ⟨source, items, joins, condition, groupBy, having, orderBy, limit⟩ := s
  cases limited
  cases condition <;> cases groupBy <;> cases having <;> cases orderBy <;>
    simp [layout, Line.orders]

end Statement

theorem renderAll_append_ok {d : Dialect} {ts us : List Token} {cs : List Char}
    (written : renderAll d (ts ++ us) = .ok cs) :
    ∃ as bs, renderAll d ts = .ok as ∧ renderAll d us = .ok bs ∧ cs = as ++ bs := by
  induction ts generalizing cs with
  | nil => exact ⟨[], cs, rfl, written, rfl⟩
  | cons t ts ih =>
    obtain ⟨first, hfirst, written⟩ := bind_ok written
    obtain ⟨rest, hrest, made⟩ := bind_ok written
    cases made
    obtain ⟨as, bs, hts, hus, rfl⟩ := ih hrest
    refine ⟨first ++ as, bs, ?_, hus, by rw [List.append_assoc]⟩
    rw [renderAll, hfirst, hts]
    rfl

theorem toSql_append_ok {d : Dialect} {ts us : List Token} {sql : String}
    (written : toSql d (ts ++ us) = .ok sql) :
    ∃ a b, toSql d ts = .ok a ∧ toSql d us = .ok b ∧ sql = a ++ b := by
  obtain ⟨cs, rendered, rfl⟩ := map_ok written
  obtain ⟨as, bs, hts, hus, rfl⟩ := renderAll_append_ok rendered
  refine ⟨String.ofList as, String.ofList bs, ?_, ?_, String.ofList_append⟩
  · rw [toSql, hts]
    rfl
  · rw [toSql, hus]
    rfl

namespace Statement

variable {s : Statement} {rows : UInt64}

theorem tokens_eq_append (s : Statement) :
    s.tokens = ({ s with orderBy := [], limit := none } : Statement).tokens ++
      (listClause .orderBy (s.orderBy.map OrderTerm.tokens) ++
        limitClause (!s.orderBy.isEmpty) s.limit) := by
  simp [tokens, listClause, limitClause]

theorem ordersOnce (limited : s.limit = some rows) : s.OrdersOnce rows where
  token := filter_tokens limited
  written := by
    intro finite
    cases done : s.sql .tSql with
    | ok sql => exact ⟨sql, rfl⟩
    | error e =>
      obtain ⟨x, occurs, notFinite⟩ := exists_toSql_error_iff.mp ⟨e, done⟩
      rw [finite x occurs] at notFinite
      cases notFinite
  text := by
    intro text written
    rw [sql, tokens_eq_append] at written
    obtain ⟨ahead, behind, hahead, hbehind, rfl⟩ := toSql_append_ok written
    rw [limited] at hbehind
    cases terms : s.orderBy with
    | nil =>
      rw [terms] at hbehind
      obtain rfl := Except.ok.inj hbehind
      refine ⟨ahead, "(SELECT NULL)", hahead, rfl, ?_⟩
      apply String.toList_inj.mp
      simp [Dialect.limitText]
    | cons t rest =>
      rw [terms] at hbehind
      obtain ⟨ordering, paging, hordering, hpaging, rfl⟩ := toSql_append_ok hbehind
      have clauseTokens : listClause .orderBy ((t :: rest).map OrderTerm.tokens) =
        [.newline, .keyword .orderBy, .space] ++
          commaSeparated ((t :: rest).map OrderTerm.tokens) := rfl
      rw [clauseTokens] at hordering
      obtain ⟨opening, order, hopening, horder, rfl⟩ := toSql_append_ok hordering
      obtain rfl := Except.ok.inj hopening
      obtain rfl := Except.ok.inj hpaging
      refine ⟨ahead, order, hahead, horder, ?_⟩
      apply String.toList_inj.mp
      simp [Dialect.limitText, Keyword.text]

end Statement

/-- Tokens tell what a statement says: its layout is read back from them, so that statements with
the same tokens have the same clauses, and no others have. In T-SQL a limit comes behind one ORDER
BY. -/
theorem Statement.layout_unambiguous (s s' : Statement) :
    Layout.read s.tokens = some s.layout ∧ (s.tokens = s'.tokens ↔ s.layout = s'.layout) ∧
      ∀ rows, s.limit = some rows → s.OrdersOnce rows :=
  ⟨s.read_tokens, tokens_eq_iff, fun _ limited => ordersOnce limited⟩

def listing : Statement where
  source := ⟨"sales", none⟩
  items := [⟨.ofTable "shop" "name", "shop"⟩, ⟨.ofTable "sales" "total", "total"⟩]
  joins :=
    [⟨⟨"store", some "shop"⟩, (Expr.ofTable "shop" "id").equals (.ofTable "sales" "shop_id")⟩]
  condition := some (.isIn (.ofTable "shop" "region") [.literal (.text "north"), .literal .null])
  groupBy := []
  having := none
  orderBy := []
  limit := some 3

theorem Statement.layout_unambiguous_listing :
    listing.limit = some 3 ∧ listing.OrdersOnce 3 ∧
      Layout.read listing.tokens = some listing.layout ∧
      listing.sql .tSql = .ok
        ("SELECT\n  [shop].[name] AS [shop],\n  [sales].[total] AS [total]\nFROM [sales]\n" ++
        "INNER JOIN [store] AS [shop] ON [shop].[id] = [sales].[shop_id]\n" ++
        "WHERE [shop].[region] IN ('north', NULL)\n" ++
        "ORDER BY (SELECT NULL)\nOFFSET 0 ROWS FETCH NEXT 3 ROWS ONLY") := by
  obtain ⟨readBack, -, once⟩ := listing.layout_unambiguous listing
  exact ⟨rfl, once 3 rfl, readBack, by decide +kernel⟩

end StarQuery.Sql
