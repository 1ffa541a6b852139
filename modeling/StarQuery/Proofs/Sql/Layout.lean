import StarQuery.Proofs.Sql.Nesting
import StarQuery.Proofs.Sql.Rendering

/-!
The layout of a statement, one clause or item a line. Expressions have commas and parentheses of
their own, but neither commas nor newlines outside of brackets. Main statement: a reader that
splits tokens at bare newlines and lists at bare commas finds the clauses of the statement that was
written, with its expressions as they were written.
-/
namespace StarQuery.Sql

def Source.reference (s : Source) : String × String := (s.table, s.name)

/-- What a statement says, its expressions being lists of tokens. -/
structure Layout where
  source : String × String
  items : List (List Token × String)
  joins : List ((String × String) × List Token)
  condition : Option (List Token)
  groupBy : List (List Token)
  having : Option (List Token)
  orderBy : List (List Token × Direction)
  limit : Option UInt64
  deriving DecidableEq

def Statement.layout (s : Statement) : Layout where
  source := s.source.reference
  items := s.items.map fun i => (i.expr.tokens, i.name)
  joins := s.joins.map fun j => (j.source.reference, j.on.tokens)
  condition := s.condition.map Expr.tokens
  groupBy := s.groupBy.map Expr.tokens
  having := s.having.map Expr.tokens
  orderBy := s.orderBy.map fun t => (t.expr.tokens, t.direction)
  limit := s.limit

inductive Line where
  | select
  | item (expr : List Token) (name : String) (more : Bool)
  | source (table : String × String)
  | join (table : String × String) (on : List Token)
  | condition (expr : List Token)
  | groupBy (entries : List (List Token))
  | having (expr : List Token)
  | orderBy (terms : List (List Token × Direction))
  | limit (rows : UInt64) (ordered : Bool)
  deriving DecidableEq

def tableTokens (table : String × String) : List Token :=
  .name table.1 :: if table.2 = table.1 then [] else [.space, .keyword .as, .space, .name table.2]

def termTokens (term : List Token × Direction) : List Token :=
  term.1 ++ [.space, .keyword term.2.keyword]

namespace Line

def tokens : Line → List Token
  | .select => [.keyword .select]
  | .item expr name more =>
    .indent 1 :: (expr ++ .space :: .keyword .as :: .space :: .name name ::
      if more then [.comma] else [])
  | .source table => .keyword .source :: .space :: tableTokens table
  | .join table on =>
    .keyword .innerJoin :: .space :: (tableTokens table ++ .space :: .keyword .on :: .space :: on)
  | .condition expr => .keyword .filter :: .space :: expr
  | .groupBy entries => .keyword .groupBy :: .space :: commaSeparated entries
  | .having expr => .keyword .having :: .space :: expr
  | .orderBy terms => .keyword .orderBy :: .space :: commaSeparated (terms.map termTokens)
  | .limit rows ordered => [.limit rows ordered]

def items : List (List Token × String) → List Line
  | [] => []
  | [(expr, name)] => [.item expr name false]
  | (expr, name) :: rest => .item expr name true :: items rest

theorem mem_items {items : List (List Token × String)} {line : Line}
    (member : line ∈ Line.items items) :
    ∃ expr name more, (expr, name) ∈ items ∧ line = .item expr name more := by
  induction items with
  | nil => cases member
  | cons item rest ih =>
    cases rest with
    | nil => exact ⟨item.1, item.2, false, List.mem_cons_self, List.mem_singleton.mp member⟩
    | cons next rest =>
      rcases List.mem_cons.mp member with rfl | later
      · exact ⟨item.1, item.2, true, List.mem_cons_self, rfl⟩
      · obtain ⟨expr, name, more, inside, rfl⟩ := ih later
        exact ⟨expr, name, more, List.mem_cons_of_mem _ inside, rfl⟩

end Line

namespace Layout

def clauses (l : Layout) : List Line :=
  Line.items l.items ++ .source l.source :: l.joins.map (fun j => .join j.1 j.2) ++
    l.condition.toList.map .condition ++
    (if l.groupBy.isEmpty then [] else [.groupBy l.groupBy]) ++
    l.having.toList.map .having ++
    (if l.orderBy.isEmpty then [] else [.orderBy l.orderBy]) ++
    l.limit.toList.map (.limit · (!l.orderBy.isEmpty))

def tokens (l : Layout) : List Token :=
  Line.select.tokens ++ (l.clauses.map Line.tokens).flatMap (.newline :: ·)

end Layout

/-- The pieces between the tokens in `stop` that stand outside of brackets, in tokens that are
`outer` brackets deep. -/
def splitBare (stop : Token → Bool) (outer : Int) : List Token → List (List Token)
  | [] => [[]]
  | t :: ts =>
    if stop t && outer == 0 then [] :: splitBare stop outer ts
    else (splitBare stop (outer + t.nesting) ts).modifyHead (t :: ·)

def readEntries (ts : List Token) : List (List Token) :=
  match splitBare (· == .comma) 0 ts with
  | [] => []
  | first :: rest => first :: rest.map List.tail

def readTable : List Token → Option ((String × String) × List Token)
  | .name table :: .space :: .keyword .as :: .space :: .name other :: rest =>
    some ((table, other), rest)
  | .name table :: rest => some ((table, table), rest)
  | _ => none

def readTerm (ts : List Token) : Option (List Token × Direction) :=
  match ts.reverse with
  | .keyword .asc :: .space :: expr => some (expr.reverse, .ascending)
  | .keyword .desc :: .space :: expr => some (expr.reverse, .descending)
  | _ => none

def readItem (ts : List Token) : Option Line :=
  match ts.reverse with
  | .name name :: .space :: .keyword .as :: .space :: expr =>
    some (.item expr.reverse name false)
  | .comma :: .name name :: .space :: .keyword .as :: .space :: expr =>
    some (.item expr.reverse name true)
  | _ => none

def Line.read : List Token → Option Line
  | [.keyword .select] => some .select
  | .indent 1 :: rest => readItem rest
  | .keyword .source :: .space :: table => (readTable table).map fun (table, _) => .source table
  | .keyword .innerJoin :: .space :: table =>
    match readTable table with
    | some (table, .space :: .keyword .on :: .space :: on) => some (.join table on)
    | _ => none
  | .keyword .filter :: .space :: expr => some (.condition expr)
  | .keyword .groupBy :: .space :: list => some (.groupBy (readEntries list))
  | .keyword .having :: .space :: expr => some (.having expr)
  | .keyword .orderBy :: .space :: list => ((readEntries list).mapM readTerm).map .orderBy
  | [.limit rows ordered] => some (.limit rows ordered)
  | _ => none

namespace Layout

def empty : Layout := ⟨("", ""), [], [], none, [], none, [], none⟩

def add (line : Line) (l : Layout) : Layout :=
  match line with
  | .select => l
  | .item expr name _ => { l with items := (expr, name) :: l.items }
  | .source table => { l with source := table }
  | .join table on => { l with joins := (table, on) :: l.joins }
  | .condition expr => { l with condition := some expr }
  | .groupBy entries => { l with groupBy := entries }
  | .having expr => { l with having := some expr }
  | .orderBy terms => { l with orderBy := terms }
  | .limit rows _ => { l with limit := some rows }

def ofLines (lines : List Line) : Layout := lines.foldr add empty

/-- The layout that tokens have. -/
def read (ts : List Token) : Option Layout :=
  ((splitBare (· == .newline) 0 ts).mapM Line.read).map ofLines

end Layout

section

variable {stop : Token → Bool} {t : Token} {ts : List Token}

theorem splitBare_append {outer : Int}
    (free : ∀ front t back, ts = front ++ t :: back → outer + depth front = 0 → stop t = false)
    (us : List Token) :
    splitBare stop outer (ts ++ us) =
      (splitBare stop (outer + depth ts) us).modifyHead (ts ++ ·) := by
  induction ts generalizing outer with
  | nil =>
    rw [List.nil_append, depth_nil, Int.add_zero]
    cases splitBare stop outer us <;> rfl
  | cons t ts ih =>
    -- A stop here would stand bare.
    have inside : ¬(stop t && outer == 0) = true := by
      intro stops
      obtain ⟨stopped, bare⟩ := Bool.and_eq_true_iff.mp stops
      have none := free [] t ts rfl (by simpa using bare)
      rw [stopped] at none
      cases none
    rw [List.cons_append, splitBare, if_neg inside, ih, List.modifyHead_modifyHead, depth_cons,
      Int.add_assoc]
    · rfl
    · intro front u back split outside
      refine free (t :: front) u back (by rw [split]; rfl) ?_
      rw [depth_cons, ← Int.add_assoc]
      exact outside

theorem splitBare_closed (closed : Closed stop ts) (us : List Token) :
    splitBare stop 0 (ts ++ us) = (splitBare stop 0 us).modifyHead (ts ++ ·) := by
  have split : splitBare stop 0 (ts ++ us) =
      (splitBare stop (0 + depth ts) us).modifyHead (ts ++ ·) :=
    splitBare_append (fun front t back whole outside =>
      closed.bare front t back whole (by simpa using outside)) us
  rwa [closed.settled] at split

theorem splitBare_flatMap (stopped : stop t = true) {parts : List (List Token)}
    (first : Closed stop ts) (others : ∀ us ∈ parts, Closed stop us) :
    splitBare stop 0 (ts ++ parts.flatMap (t :: ·)) = ts :: parts := by
  induction parts generalizing ts with
  | nil => simpa [splitBare] using splitBare_closed first []
  | cons us parts ih =>
    obtain ⟨next, rest⟩ := List.forall_mem_cons.mp others
    have more : splitBare stop 0 (t :: (us ++ parts.flatMap (t :: ·))) = [] :: us :: parts := by
      rw [splitBare, stopped, ih next rest]
      rfl
    rw [List.flatMap_cons, List.cons_append, splitBare_closed first, more]
    simp

end

namespace Token

def divides : Token → Bool
  | .comma | .newline => true
  | _ => false

def isInner : Token → Bool
  | .newline | .indent _ | .limit _ _ => false
  | .keyword k => k ∈ [Keyword.case, .when, .then, .ends, .isIn, .distinct, .never]
  | _ => true

def isFlat (stop : Token → Bool) (t : Token) : Bool := t.nesting == 0 && !stop t

end Token

theorem Closed.of_flat {stop : Token → Bool} {ts : List Token}
    (flat : ts.all (Token.isFlat stop) = true) : Closed stop ts := by
  induction ts with
  | nil => exact Closed.nil
  | cons t ts ih =>
    rw [List.all_cons, Bool.and_eq_true, Token.isFlat, Bool.and_eq_true, beq_iff_eq,
      Bool.not_eq_true'] at flat
    exact (ih flat.2).cons flat.1.1 flat.1.2

/-- Tokens of expressions, with none of those in `stop` outside of brackets. -/
structure Inner (stop : Token → Bool) (ts : List Token) : Prop extends Closed stop ts where
  inner : ∀ t ∈ ts, t.isInner = true

namespace Inner

variable {stop : Token → Bool} {t u : Token} {ts us : List Token}

theorem nil : Inner stop [] := ⟨Closed.nil, by simp⟩

theorem append (first : Inner stop ts) (second : Inner stop us) : Inner stop (ts ++ us) :=
  ⟨first.toClosed.append second.toClosed, List.forall_mem_append.mpr ⟨first.inner, second.inner⟩⟩

theorem of_flat (flat : ts.all (Token.isFlat stop) = true)
    (inner : ts.all Token.isInner = true) : Inner stop ts :=
  ⟨Closed.of_flat flat, List.all_eq_true.mp inner⟩

theorem balanced (inner : Inner stop ts) : Inner (fun _ => false) ts :=
  ⟨inner.toClosed.balanced, inner.inner⟩

theorem enclosed (opens : t.nesting = 1) (closes : u.nesting = -1) (free : stop t = false)
    (innerFirst : t.isInner = true) (innerLast : u.isInner = true)
    (inside : Inner (fun _ => false) ts) : Inner stop (t :: (ts ++ [u])) where
  toClosed := inside.toClosed.enclosed opens closes free
  inner := by
    refine List.forall_mem_cons.mpr ⟨innerFirst, List.forall_mem_append.mpr ⟨inside.inner, ?_⟩⟩
    exact List.forall_mem_singleton.mpr innerLast

theorem parenthesized (inner : Inner stop ts) : Inner Token.divides (Expr.parenthesized ts) :=
  inner.balanced.enclosed rfl rfl rfl rfl rfl

end Inner

namespace Expr

theorem inner_operand {e : Expr} (level : Nat) (inner : Inner Token.divides e.tokens) :
    Inner Token.divides (if e.needsParens level then parenthesized e.tokens else e.tokens) := by
  split
  · exact inner.parenthesized
  · exact inner

theorem inner_choiceTokens {es : List Expr} (inner : ∀ e ∈ es, Inner Token.divides e.tokens) :
    Inner (fun _ => false) (choiceTokens es) := by
  induction es with
  | nil => exact Inner.nil
  | cons e es ih =>
    obtain ⟨first, rest⟩ := List.forall_mem_cons.mp inner
    cases es with
    | nil => exact first.balanced
    | cons next es =>
      rw [choiceTokens.eq_3 _ _ (by simp)]
      have separator : Inner (fun _ => false) [.comma, .space] := Inner.of_flat rfl rfl
      exact first.balanced.append (separator.append (ih rest))

theorem inner_tokens (e : Expr) : Inner Token.divides e.tokens := by
  induction e using Expr.induct with
  | column table name => cases table <;> exact Inner.of_flat rfl rfl
  | literal l => exact Inner.of_flat rfl rfl
  | binary op left right ihLeft ihRight =>
    have sign : Inner Token.divides [.space, .operator op, .space] := Inner.of_flat rfl rfl
    rw [tokens]
    exact ((inner_operand op.level ihLeft).append sign).append
      (inner_operand (op.level + 1) ihRight)
  | call name distinct argument ih =>
    have function : Inner Token.divides [.functionName name] := Inner.of_flat rfl rfl
    have mark : Inner (fun _ => false)
        (if distinct then [.keyword .distinct, .space] else [] : List Token) := by
      cases distinct <;> exact Inner.of_flat rfl rfl
    have arguments : Inner Token.divides (.leftParen :: (_ ++ [.rightParen])) :=
      (mark.append ih.balanced).enclosed rfl rfl rfl rfl rfl
    simpa [tokens] using function.append arguments
  | caseWhen condition result ihCondition ihResult =>
    have opening : Inner (fun _ => false) [.space, .keyword .when, .space] := Inner.of_flat rfl rfl
    have between : Inner (fun _ => false) [.space, .keyword .then, .space] := Inner.of_flat rfl rfl
    have closing : Inner (fun _ => false) [.space] := Inner.of_flat rfl rfl
    have inside := (((opening.append ihCondition.balanced).append between).append
      ihResult.balanced).append closing
    have whole : Inner Token.divides (.keyword .case :: (_ ++ [.keyword .ends])) :=
      inside.enclosed rfl rfl rfl rfl rfl
    simpa [tokens] using whole
  | isIn subject choices ihSubject ihChoices =>
    cases choices with
    | nil => exact Inner.of_flat rfl rfl
    | cons choice choices =>
      have sign : Inner Token.divides [.space, .keyword .isIn, .space] := Inner.of_flat rfl rfl
      have list : Inner Token.divides (.leftParen :: (_ ++ [.rightParen])) :=
        (inner_choiceTokens ihChoices).enclosed rfl rfl rfl rfl rfl
      simpa [tokens] using (ihSubject.append sign).append list

end Expr

theorem mapM_map_eq_some {α β : Type} {f : α → Option β} {g : β → α} {bs : List β}
    (each : ∀ b ∈ bs, f (g b) = some b) : (bs.map g).mapM f = some bs := by
  induction bs with
  | nil => rfl
  | cons b bs ih =>
    obtain ⟨first, rest⟩ := List.forall_mem_cons.mp each
    rw [List.map_cons, List.mapM_cons, first, ih rest]
    rfl

theorem commaSeparated_cons (ts : List Token) (rest : List (List Token)) :
    commaSeparated (ts :: rest) = ts ++ (rest.map (.space :: ·)).flatMap (.comma :: ·) := by
  induction rest generalizing ts with
  | nil => simp [commaSeparated]
  | cons us rest ih =>
    rw [commaSeparated.eq_3 _ _ (by simp), ih]
    rfl

theorem readEntries_commaSeparated {entries : List (List Token)} (nonempty : entries ≠ [])
    (closed : ∀ ts ∈ entries, Closed (· == .comma) ts) :
    readEntries (commaSeparated entries) = entries := by
  cases entries with
  | nil => exact absurd rfl nonempty
  | cons ts rest =>
    obtain ⟨first, others⟩ := List.forall_mem_cons.mp closed
    have spaced : ∀ us ∈ rest.map (Token.space :: ·), Closed (· == .comma) us := by
      intro us member
      obtain ⟨vs, inside, rfl⟩ := List.mem_map.mp member
      exact (others vs inside).cons rfl rfl
    rw [readEntries, commaSeparated_cons, splitBare_flatMap rfl first spaced]
    simp [Function.comp_def]

theorem closed_commaSeparated {stop : Token → Bool} (comma : stop .comma = false)
    (space : stop .space = false) {entries : List (List Token)}
    (closed : ∀ ts ∈ entries, Closed stop ts) : Closed stop (commaSeparated entries) := by
  induction entries with
  | nil => exact Closed.nil
  | cons ts rest ih =>
    obtain ⟨first, others⟩ := List.forall_mem_cons.mp closed
    cases rest with
    | nil => exact first
    | cons us rest =>
      rw [commaSeparated.eq_3 _ _ (by simp)]
      exact first.append (((ih others).cons rfl space).cons rfl comma)

def Line.Legible : Line → Prop
  | .item expr _ _ | .join _ expr | .condition expr | .having expr => Inner Token.divides expr
  | .groupBy entries => entries ≠ [] ∧ ∀ ts ∈ entries, Inner Token.divides ts
  | .orderBy terms => terms ≠ [] ∧ ∀ term ∈ terms, Inner Token.divides term.1
  | .select | .source _ | .limit _ _ => True

theorem closed_termTokens {term : List Token × Direction} (inner : Inner Token.divides term.1) :
    Closed Token.divides (termTokens term) := by
  have direction : Closed Token.divides [.space, .keyword term.2.keyword] :=
    Closed.of_flat (by cases term.2 <;> rfl)
  exact inner.toClosed.append direction

theorem readTerm_termTokens (term : List Token × Direction) :
    readTerm (termTokens term) = some term := by
  obtain ⟨expr, direction⟩ := term
  cases direction <;> simp [readTerm, termTokens, Direction.keyword]

theorem Line.read_tokens {line : Line} (legible : line.Legible) :
    Line.read line.tokens = some line := by
  have commas {ts : List Token} (closed : Closed Token.divides ts) : Closed (· == .comma) ts :=
    closed.mono fun t isComma => by rw [eq_of_beq isComma]; rfl
  cases line with
  | select => rfl
  | item expr name more => cases more <;> simp [tokens, read, readItem]
  | source table =>
    obtain ⟨table, name⟩ := table
    by_cases same : name = table
    · simp [tokens, read, readTable, tableTokens, same]
    · simp [tokens, read, readTable, tableTokens, same]
  | join table on =>
    obtain ⟨table, name⟩ := table
    by_cases same : name = table
    · simp [tokens, read, readTable, tableTokens, same]
    · simp [tokens, read, readTable, tableTokens, same]
  | condition expr => rfl
  | groupBy entries =>
    rw [tokens, read, readEntries_commaSeparated legible.1 fun ts member =>
      commas (legible.2 ts member).toClosed]
  | having expr => rfl
  | orderBy terms =>
    have closed : ∀ ts ∈ terms.map termTokens, Closed (· == .comma) ts := by
      intro ts member
      obtain ⟨term, inside, rfl⟩ := List.mem_map.mp member
      exact commas (closed_termTokens (legible.2 term inside))
    rw [tokens, read, readEntries_commaSeparated (by simpa using legible.1) closed,
      mapM_map_eq_some fun term _ => readTerm_termTokens term]
    rfl
  | limit rows ordered => rfl

theorem Line.closed_tokens {line : Line} (legible : line.Legible) :
    Closed (· == .newline) line.tokens := by
  have newlines {ts : List Token} (closed : Closed Token.divides ts) : Closed (· == .newline) ts :=
    closed.mono fun t isNewline => by rw [eq_of_beq isNewline]; rfl
  have table (table : String × String) : Closed (· == .newline) (tableTokens table) := by
    rw [tableTokens]
    split <;> exact Closed.of_flat rfl
  cases line with
  | select => exact Closed.of_flat rfl
  | item expr name more =>
    refine Closed.cons rfl rfl ((newlines legible.toClosed).append ?_)
    cases more <;> exact Closed.of_flat rfl
  | source t => exact ((table t).cons rfl rfl).cons rfl rfl
  | join t on =>
    have condition : Closed (· == .newline) (.space :: .keyword .on :: .space :: on) :=
      (((newlines legible.toClosed).cons rfl rfl).cons rfl rfl).cons rfl rfl
    exact (((table t).append condition).cons rfl rfl).cons rfl rfl
  | condition expr | having expr => exact ((newlines legible.toClosed).cons rfl rfl).cons rfl rfl
  | groupBy entries =>
    have list : Closed (· == .newline) (commaSeparated entries) :=
      closed_commaSeparated rfl rfl fun ts member => newlines (legible.2 ts member).toClosed
    exact (list.cons rfl rfl).cons rfl rfl
  | orderBy terms =>
    have closed : ∀ ts ∈ terms.map termTokens, Closed (· == .newline) ts := by
      intro ts member
      obtain ⟨term, inside, rfl⟩ := List.mem_map.mp member
      exact newlines (closed_termTokens (legible.2 term inside))
    exact ((closed_commaSeparated rfl rfl closed).cons rfl rfl).cons rfl rfl
  | limit rows ordered => exact Closed.of_flat rfl

namespace Layout

variable {l : Layout}

theorem foldr_items (items : List (List Token × String)) (l : Layout) :
    (Line.items items).foldr add l = { l with items := items ++ l.items } := by
  induction items with
  | nil => rfl
  | cons item items ih =>
    cases items with
    | nil => rfl
    | cons next items =>
      rw [Line.items, List.foldr_cons, ih]
      · rfl
      · simp

theorem foldr_joins (joins : List ((String × String) × List Token)) (l : Layout) :
    (joins.map fun j => Line.join j.1 j.2).foldr add l = { l with joins := joins ++ l.joins } := by
  induction joins with
  | nil => rfl
  | cons j joins ih =>
    rw [List.map_cons, List.foldr_cons, ih]
    rfl

theorem ofLines_clauses (l : Layout) : ofLines (.select :: l.clauses) = l := by
  obtain ⟨source, items, joins, condition, groupBy, having, orderBy, limit⟩ := l
  simp only [ofLines, clauses, List.foldr_cons, List.foldr_append, foldr_items, foldr_joins]
  cases limit <;> cases orderBy <;> cases having <;> cases groupBy <;> cases condition <;>
    simp [add, empty]

/-- Layouts are read back from their tokens, if their lines are legible. -/
theorem read_tokens (legible : ∀ line ∈ l.clauses, line.Legible) : read l.tokens = some l := by
  have lines : splitBare (· == .newline) 0 l.tokens =
      (Line.select :: l.clauses).map Line.tokens := by
    have first : Closed (· == .newline) Line.select.tokens := Line.closed_tokens trivial
    rw [tokens, splitBare_flatMap rfl first]
    · rfl
    · intro ts member
      obtain ⟨line, inside, rfl⟩ := List.mem_map.mp member
      exact Line.closed_tokens (legible line inside)
  have readBack : ∀ line ∈ Line.select :: l.clauses, Line.read line.tokens = some line :=
    List.forall_mem_cons.mpr ⟨rfl, fun line inside => Line.read_tokens (legible line inside)⟩
  rw [read, lines, mapM_map_eq_some readBack, Option.map_some, ofLines_clauses]

end Layout

theorem Source.tokens_reference (s : Source) : s.tokens = tableTokens s.reference := by
  obtain ⟨table, rename⟩ := s
  cases rename with
  | none => simp [Source.tokens, Source.reference, Source.name, tableTokens]
  | some other => rfl

namespace Statement

def writtenLines (lines : List Line) : List Token :=
  (lines.map Line.tokens).flatMap (.newline :: ·)

theorem tokens_writtenLines (l : Layout) :
    l.tokens = Line.select.tokens ++ writtenLines l.clauses := rfl

theorem writtenLines_append (lines lines' : List Line) :
    writtenLines (lines ++ lines') = writtenLines lines ++ writtenLines lines' := by
  rw [writtenLines, List.map_append, List.flatMap_append]
  rfl

theorem writtenLines_items (items : List Item) :
    itemLines items = writtenLines (Line.items (items.map fun i => (i.expr.tokens, i.name))) := by
  induction items with
  | nil => rfl
  | cons i items ih =>
    cases items with
    | nil => simp [itemLines, Line.items, Item.tokens, writtenLines, Line.tokens]
    | cons next items =>
      rw [itemLines.eq_3 _ _ (by simp), ih]
      simp [Line.items, Item.tokens, writtenLines, Line.tokens]

theorem writtenLines_joins (joins : List Join) :
    (joins.flatMap fun j => .newline :: j.tokens) =
      writtenLines ((joins.map fun j => (j.source.reference, j.on.tokens)).map
        fun j => .join j.1 j.2) := by
  induction joins with
  | nil => rfl
  | cons j joins ih =>
    rw [List.flatMap_cons, ih]
    simp [writtenLines, Line.tokens, Join.tokens, Source.tokens_reference]

theorem writtenLines_condition {k : Keyword} {line : List Token → Line}
    (tokens : ∀ ts, (line ts).tokens = .keyword k :: .space :: ts) (condition : Option Expr) :
    conditionClause k condition = writtenLines ((condition.map Expr.tokens).toList.map line) := by
  cases condition <;> simp [conditionClause, clause, writtenLines, tokens]

theorem writtenLines_groupBy (entries : List (List Token)) :
    listClause .groupBy entries =
      writtenLines (if entries.isEmpty then [] else [.groupBy entries]) := by
  cases entries <;> simp [listClause, clause, writtenLines, Line.tokens]

theorem writtenLines_orderBy (terms : List (List Token × Direction)) :
    listClause .orderBy (terms.map termTokens) =
      writtenLines (if terms.isEmpty then [] else [.orderBy terms]) := by
  cases terms <;> simp [listClause, clause, writtenLines, Line.tokens]

theorem writtenLines_limit (ordered : Bool) (limit : Option UInt64) :
    limitClause ordered limit = writtenLines (limit.toList.map (.limit · ordered)) := by
  cases limit <;> rfl

theorem tokens_layout (s : Statement) : s.tokens = s.layout.tokens := by
  have source (lines : List Line) : writtenLines (.source s.layout.source :: lines) =
      clause .source s.source.tokens ++ writtenLines lines := by
    rw [Source.tokens_reference]
    simp [clause, writtenLines, Line.tokens, layout]
  have filter : conditionClause .filter s.condition = _ :=
    writtenLines_condition (fun ts => (rfl : (Line.condition ts).tokens = _)) s.condition
  have having : conditionClause .having s.having = _ :=
    writtenLines_condition (fun ts => (rfl : (Line.having ts).tokens = _)) s.having
  have terms : s.orderBy.map OrderTerm.tokens = s.layout.orderBy.map termTokens := by
    rw [layout, List.map_map]
    rfl
  have ordered : s.orderBy.isEmpty = s.layout.orderBy.isEmpty := by
    rw [layout, List.isEmpty_map]
  rw [tokens_writtenLines, tokens, writtenLines_items, writtenLines_joins, filter,
    writtenLines_groupBy, having, terms, writtenLines_orderBy, ordered, writtenLines_limit,
    Layout.clauses]
  simp only [writtenLines_append, source, List.append_assoc]
  rfl

theorem legible_layout (s : Statement) : ∀ line ∈ s.layout.clauses, line.Legible := by
  intro line member
  simp only [Layout.clauses, List.mem_append, List.mem_cons, List.mem_map, Option.mem_toList]
    at member
  rcases member with ((((((item | rfl | join) | condition) | groupBy) | having) | orderBy) | limit)
  · obtain ⟨expr, name, more, inside, rfl⟩ := Line.mem_items item
    obtain ⟨i, -, same⟩ := List.mem_map.mp inside
    cases same
    exact i.expr.inner_tokens
  · trivial
  · obtain ⟨_, inside, rfl⟩ := join
    obtain ⟨j, -, rfl⟩ := List.mem_map.mp inside
    exact j.on.inner_tokens
  · obtain ⟨_, found, rfl⟩ := condition
    obtain ⟨e, -, rfl⟩ := Option.map_eq_some_iff.mp found
    exact e.inner_tokens
  · split at groupBy
    · cases groupBy
    · next nonempty =>
      obtain rfl := List.mem_singleton.mp groupBy
      refine ⟨by simpa using nonempty, fun ts member => ?_⟩
      obtain ⟨e, -, rfl⟩ := List.mem_map.mp member
      exact e.inner_tokens
  · obtain ⟨_, found, rfl⟩ := having
    obtain ⟨e, -, rfl⟩ := Option.map_eq_some_iff.mp found
    exact e.inner_tokens
  · split at orderBy
    · cases orderBy
    · next nonempty =>
      obtain rfl := List.mem_singleton.mp orderBy
      refine ⟨by simpa using nonempty, fun term member => ?_⟩
      obtain ⟨t, -, rfl⟩ := List.mem_map.mp member
      exact t.expr.inner_tokens
  · obtain ⟨rows, -, rfl⟩ := limit
    trivial

/-- The layout of a statement is read back from its tokens. -/
theorem read_tokens (s : Statement) : Layout.read s.tokens = some s.layout := by
  rw [tokens_layout]
  exact Layout.read_tokens s.legible_layout

theorem tokens_eq_iff {s s' : Statement} : s.tokens = s'.tokens ↔ s.layout = s'.layout := by
  constructor
  · intro same
    exact Option.some.inj (by rw [← read_tokens, same, read_tokens])
  · intro same
    rw [tokens_layout, same, ← tokens_layout]

end Statement

end StarQuery.Sql
