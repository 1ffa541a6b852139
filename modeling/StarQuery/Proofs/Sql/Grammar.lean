import StarQuery.Proofs.Sql.Nesting

/-!
The grammar of expressions. AND binds loosest, then comparisons and IN, then sums, then products;
parentheses, calls and CASE stand anywhere. Main statement: a list of tokens reads as one expression
at most, whichever operators may follow one another.
-/
namespace StarQuery.Sql

def Token.isBlank : Token → Bool
  | .space | .newline | .indent _ => true
  | _ => false

def solid (ts : List Token) : List Token := ts.filter fun t => !t.isBlank

def loosest : Nat := Operator.and.level

def tightest : Nat := Operator.mul.level + 1

/-- What stands bare to the left of an operator binds at least this tightly: as tightly as the
operator if it chains, so that a chain groups from the left, and else more tightly. -/
def Operator.leftLevel (chains : Operator → Bool) (op : Operator) : Nat :=
  if chains op then op.level else op.level + 1

def separated : List (List Token) → List Token
  | [] => []
  | [ts] => ts
  | ts :: rest => ts ++ .comma :: separated rest

inductive Atom : List Token → Expr → Prop where
  | column (name : String) : Atom [.name name] (.column none name)
  | qualified (table name : String) :
      Atom [.name table, .dot, .name name] (.column (some table) name)
  | literal (l : Literal) : Atom [.literal l] (.literal l)
  | never : Atom [.keyword .never] (.literal (.bool false))

def distinctMark (distinct : Bool) : List Token := if distinct then [.keyword .distinct] else []

/-- `Reads chains level ts e`: the tokens, blanks aside, read as the expression at a place where
operators of at least `level` may stand bare. The operators for which `chains` holds may follow one
another, and group from the left. -/
inductive Reads (chains : Operator → Bool) : Nat → List Token → Expr → Prop where
  | atom {level : Nat} {ts : List Token} {e : Expr} (atom : Atom ts e) : Reads chains level ts e
  | call {level : Nat} (name : String) (distinct : Bool) {ts : List Token} {argument : Expr}
      (reads : Reads chains loosest ts argument) :
      Reads chains level
        (.functionName name :: (.leftParen :: (distinctMark distinct ++ ts) ++ [.rightParen]))
        (.call name distinct argument)
  | caseWhen {level : Nat} {ts us : List Token} {condition result : Expr}
      (readsCondition : Reads chains loosest ts condition)
      (readsResult : Reads chains loosest us result) :
      Reads chains level
        (.keyword .case :: (.keyword .when :: (ts ++ .keyword .then :: us)) ++ [.keyword .ends])
        (.caseWhen condition result)
  | parentheses {level : Nat} {ts : List Token} {e : Expr} (reads : Reads chains loosest ts e) :
      Reads chains level (.leftParen :: ts ++ [.rightParen]) e
  | operation {level : Nat} {op : Operator} {ts us : List Token} {left right : Expr}
      (binds : level ≤ op.level) (readsLeft : Reads chains (op.leftLevel chains) ts left)
      (readsRight : Reads chains (op.level + 1) us right) :
      Reads chains level (ts ++ .operator op :: us) (.binary op left right)
  | membership {level : Nat} {ts : List Token} {subject : Expr}
      {choices : List (List Token × Expr)} (binds : level ≤ Operator.eq.level)
      (nonempty : choices ≠ []) (readsSubject : Reads chains (Operator.eq.level + 1) ts subject)
      (readsChoices : ∀ c ∈ choices, Reads chains loosest c.1 c.2) :
      Reads chains level
        (ts ++ .keyword .isIn ::
          (.leftParen :: separated (choices.map Prod.fst) ++ [.rightParen]))
        (.isIn subject (choices.map Prod.snd))

def Token.level? : Token → Option Nat
  | .operator op => some op.level
  | .keyword .isIn => some Operator.eq.level
  | _ => none

def Token.looserThan (level : Nat) (t : Token) : Bool :=
  t.level?.any (· < level) ||
    [Token.comma, .keyword .then, .keyword .distinct].contains t

theorem Token.looserThan_mono {level level' : Nat} (le : level ≤ level') (t : Token)
    (looser : t.looserThan level = true) : t.looserThan level' = true := by
  simp only [looserThan, Bool.or_eq_true, Option.any_eq_true, decide_eq_true_eq] at looser ⊢
  rcases looser with ⟨k, binds, below⟩ | separator
  · exact Or.inl ⟨k, binds, by omega⟩
  · exact Or.inr separator

theorem Token.looserThan_of_level {t : Token} {k level : Nat} (binds : t.level? = some k) :
    t.looserThan level = decide (k < level) := by
  have binding : [Token.comma, .keyword .then, .keyword .distinct].contains t = false := by
    rw [List.contains_eq_mem, decide_eq_false_iff_not]
    intro member
    simp only [List.mem_cons, List.not_mem_nil, or_false] at member
    rcases member with rfl | rfl | rfl <;> cases binds
  rw [looserThan, binds, binding, Option.any_some, Bool.or_false]

theorem Token.nesting_of_level {t : Token} {k : Nat} (binds : t.level? = some k) :
    t.nesting = 0 := by
  unfold level? at binds
  split at binds
  · rfl
  · rfl
  · cases binds

variable {chains : Operator → Bool} {level level' k k' : Nat} {t t' : Token}
  {ts us ts' us' : List Token} {e e' : Expr}

theorem closed_separated {stop : Token → Bool} (free : stop .comma = false)
    {entries : List (List Token)} (closed : ∀ ts ∈ entries, Closed stop ts) : Closed stop (separated entries) := by
  induction entries with
  | nil => exact Closed.nil
  | cons ts rest ih =>
    cases rest with
    | nil => exact closed ts (by simp)
    | cons next rest =>
      have others := ih fun us member => closed us (List.mem_cons_of_mem ts member)
      exact (closed ts (by simp)).append (others.cons rfl free)

theorem looserThan_tightest (binds : t.level? = some k) : t.looserThan tightest = true := by
  rw [Token.looserThan_of_level binds, decide_eq_true_eq]
  unfold Token.level? at binds
  split at binds
  · next op =>
    cases binds
    cases op <;> decide
  · cases binds
    decide
  · cases binds

theorem Atom.closed (atom : Atom ts e) : Closed (Token.looserThan level) ts := by
  cases atom with
  | column name => exact Closed.singleton rfl rfl
  | qualified table name =>
    have column : Closed (Token.looserThan level) [.name name] := Closed.singleton rfl rfl
    exact (column.cons rfl rfl).cons rfl rfl
  | literal l => exact Closed.singleton rfl rfl
  | never => exact Closed.singleton rfl rfl

theorem closed_distinctMark (distinct : Bool) :
    Closed (fun _ => false) (distinctMark distinct) := by
  cases distinct with
  | false => exact Closed.nil
  | true => exact Closed.singleton rfl rfl

/-- In what is read at a level nothing that binds more loosely stands bare, and no comma does. -/
theorem Reads.closed (reads : Reads chains level ts e) : Closed (Token.looserThan level) ts := by
  induction reads with
  | atom atom => exact atom.closed
  | call name distinct reads ih =>
    exact (((closed_distinctMark distinct).append ih.balanced).enclosed rfl rfl rfl).cons rfl rfl
  | caseWhen readsCondition readsResult ihCondition ihResult =>
    have result : Closed (fun _ => false) (.keyword .then :: _) := ihResult.balanced.cons rfl rfl
    exact ((ihCondition.balanced.append result).cons rfl rfl).enclosed rfl rfl rfl
  | parentheses reads ih => exact ih.enclosed rfl rfl rfl
  | @operation level op ts us left right binds readsLeft readsRight ihLeft ihRight =>
    -- Operands are read at no lower level, so that nothing looser stands bare in them.
    have low : level ≤ op.leftLevel chains := by
      unfold Operator.leftLevel
      split <;> omega
    have bare : (Token.operator op).looserThan level = false := by
      rw [Token.looserThan_of_level rfl]
      simpa using binds
    have first := ihLeft.mono (Token.looserThan_mono low)
    have second := ihRight.mono (Token.looserThan_mono (by omega : level ≤ op.level + 1))
    exact first.append (second.cons rfl bare)
  | @membership level ts subject choices binds nonempty readsSubject readsChoices ihSubject
      ihChoices =>
    have bare : (Token.keyword .isIn).looserThan level = false := by
      rw [Token.looserThan_of_level rfl]
      simpa using binds
    have entries : ∀ us ∈ choices.map Prod.fst, Closed (fun _ => false) us := by
      intro us member
      obtain ⟨c, hc, rfl⟩ := List.mem_map.mp member
      exact (ihChoices c hc).balanced
    have list : Closed (Token.looserThan level) (.leftParen :: _ ++ [.rightParen]) :=
      (closed_separated rfl entries).enclosed rfl rfl rfl
    have first := ihSubject.mono (Token.looserThan_mono
      (by omega : level ≤ Operator.eq.level + 1))
    exact first.append (list.cons rfl bare)

/-- `t` is the last of the loosest tokens that stand bare in `ts ++ t :: us`. -/
structure Divides (k : Nat) (t : Token) (ts us : List Token) : Prop where
  binds : t.level? = some k
  settled : depth ts = 0
  whole : Closed (Token.looserThan k) (ts ++ t :: us)
  behind : Closed (Token.looserThan (k + 1)) us

theorem Divides.not_tight (divides : Divides k t ts us) :
    ¬Closed (Token.looserThan tightest) (ts ++ t :: us) :=
  not_closed_of_bare divides.settled (looserThan_tightest divides.binds)

theorem Divides.level_le (divides : Divides k t ts us) (divides' : Divides k' t' ts' us')
    (same : ts ++ t :: us = ts' ++ t' :: us') : k ≤ k' := by
  by_contra looser
  have stopped : t'.looserThan k = true := by
    rw [Token.looserThan_of_level divides'.binds]
    simpa using looser
  apply not_closed_of_bare divides'.settled stopped
  rw [← same]
  exact divides.whole

theorem Divides.unique (divides : Divides k t ts us) (divides' : Divides k' t' ts' us')
    (same : ts ++ t :: us = ts' ++ t' :: us') : ts = ts' ∧ t = t' ∧ us = us' := by
  obtain rfl : k = k' :=
    Nat.le_antisymm (divides.level_le divides' same) (divides'.level_le divides same.symm)
  have stopped {u : Token} (binds : u.level? = some k) : u.looserThan (k + 1) = true := by
    rw [Token.looserThan_of_level binds]
    simp
  exact split_last divides.behind divides'.behind (stopped divides.binds) (stopped divides'.binds)
    (Token.nesting_of_level divides.binds) (Token.nesting_of_level divides'.binds) same

theorem separated_inj {stop : Token → Bool} (stopped : stop .comma = true)
    {entries entries' : List (List Token)} (nonempty : entries ≠ []) (nonempty' : entries' ≠ [])
    (closed : ∀ ts ∈ entries, Closed stop ts) (closed' : ∀ ts ∈ entries', Closed stop ts)
    (same : separated entries = separated entries') : entries = entries' := by
  induction entries generalizing entries' with
  | nil => exact absurd rfl nonempty
  | cons ts rest ih =>
    cases entries' with
    | nil => exact absurd rfl nonempty'
    | cons ts' rest' =>
      have first := closed ts List.mem_cons_self
      have first' := closed' ts' List.mem_cons_self
      cases rest with
      | nil =>
        cases rest' with
        | nil => exact congrArg (fun ts => [ts]) same
        | cons next' rest' =>
          rw [show ts = _ from same] at first
          exact absurd first (not_closed_of_bare first'.settled stopped)
      | cons next rest =>
        cases rest' with
        | nil =>
          rw [show ts' = _ from same.symm] at first'
          exact absurd first' (not_closed_of_bare first.settled stopped)
        | cons next' rest' =>
          obtain ⟨head, -, tail⟩ := split_first first first' stopped stopped same
          have others := ih (by simp) (by simp)
            (fun us member => closed us (List.mem_cons_of_mem ts member))
            (fun us member => closed' us (List.mem_cons_of_mem ts' member)) tail
          rw [head, others]

theorem map_snd_eq {α β : Type} {as bs : List (α × β)}
    (same : as.map Prod.fst = bs.map Prod.fst)
    (depends : ∀ a ∈ as, ∀ b ∈ bs, a.1 = b.1 → a.2 = b.2) :
    as.map Prod.snd = bs.map Prod.snd := by
  induction as generalizing bs with
  | nil =>
    rw [List.map_nil, eq_comm, List.map_eq_nil_iff] at same
    rw [same]
  | cons a as ih =>
    cases bs with
    | nil => cases same
    | cons b bs =>
      rw [List.map_cons, List.map_cons, List.cons.injEq] at same
      have head := depends a List.mem_cons_self b List.mem_cons_self same.1
      have tail := ih same.2 fun c hc d hd =>
        depends c (List.mem_cons_of_mem a hc) d (List.mem_cons_of_mem b hd)
      rw [List.map_cons, List.map_cons, head, tail]

namespace Reads

theorem closed_entries {choices : List (List Token × Expr)}
    (reads : ∀ c ∈ choices, Reads chains level c.1 c.2) :
    ∀ us ∈ choices.map Prod.fst, Closed (Token.looserThan level) us := by
  intro us member
  obtain ⟨c, hc, rfl⟩ := List.mem_map.mp member
  exact (reads c hc).closed

theorem divides_operation {op : Operator} {left right : Expr}
    (readsLeft : Reads chains (op.leftLevel chains) ts left)
    (readsRight : Reads chains (op.level + 1) us right) :
    Divides op.level (.operator op) ts us where
  binds := rfl
  settled := readsLeft.closed.settled
  whole := (Reads.operation (Nat.le_refl op.level) readsLeft readsRight).closed
  behind := readsRight.closed

theorem divides_membership {subject : Expr} {choices : List (List Token × Expr)}
    (nonempty : choices ≠ []) (readsSubject : Reads chains (Operator.eq.level + 1) ts subject)
    (readsChoices : ∀ c ∈ choices, Reads chains loosest c.1 c.2) :
    Divides Operator.eq.level (.keyword .isIn) ts
      (.leftParen :: separated (choices.map Prod.fst) ++ [.rightParen]) where
  binds := rfl
  settled := readsSubject.closed.settled
  whole := (Reads.membership (Nat.le_refl _) nonempty readsSubject readsChoices).closed
  behind := by
    have entries := fun us member => (closed_entries readsChoices us member).balanced
    exact (closed_separated rfl entries).enclosed rfl rfl rfl

theorem of_divides {whole : List Token} (reads : Reads chains level whole e)
    (divides : Divides k t ts us) (same : ts ++ t :: us = whole) :
    (∃ op left right, t = .operator op ∧ e = .binary op left right ∧
      Reads chains (op.leftLevel chains) ts left ∧ Reads chains (op.level + 1) us right) ∨
    ∃ subject choices, t = .keyword .isIn ∧ e = .isIn subject (choices.map Prod.snd) ∧
      us = .leftParen :: separated (choices.map Prod.fst) ++ [.rightParen] ∧ choices ≠ [] ∧
      Reads chains (Operator.eq.level + 1) ts subject ∧
      ∀ c ∈ choices, Reads chains loosest c.1 c.2 := by
  have loose : ¬Closed (Token.looserThan tightest) whole := same ▸ divides.not_tight
  cases reads with
  | atom atom => exact absurd atom.closed loose
  | call name distinct reads => exact absurd (Reads.call name distinct reads).closed loose
  | caseWhen condition result => exact absurd (Reads.caseWhen condition result).closed loose
  | parentheses reads => exact absurd (Reads.parentheses reads).closed loose
  | operation _ left right =>
    obtain ⟨rfl, rfl, rfl⟩ := divides.unique (divides_operation left right) same
    exact Or.inl ⟨_, _, _, rfl, rfl, left, right⟩
  | membership _ nonempty subject list =>
    obtain ⟨rfl, rfl, rfl⟩ := divides.unique (divides_membership nonempty subject list) same
    exact Or.inr ⟨_, _, rfl, rfl, rfl, nonempty, subject, list⟩

theorem distinctMark_unique {distinct distinct' : Bool} (reads : Reads chains level ts e)
    (reads' : Reads chains level' ts' e')
    (same : distinctMark distinct ++ ts = distinctMark distinct' ++ ts') :
    distinct = distinct' ∧ ts = ts' := by
  have unmarked {level ts e} (reads : Reads chains level ts e) (us : List Token) :
      ts ≠ .keyword .distinct :: us := by
    rintro rfl
    have free := reads.closed.bare [] (.keyword .distinct) us rfl rfl
    cases free
  cases distinct with
  | false =>
    cases distinct' with
    | false => exact ⟨rfl, same⟩
    | true => exact absurd same (unmarked reads ts')
  | true =>
    cases distinct' with
    | false => exact absurd same.symm (unmarked reads' ts)
    | true => exact ⟨rfl, (List.cons.inj same).2⟩

theorem unique_of_eq (first : Reads chains level ts e) :
    ∀ {level' us e'}, Reads chains level' us e' → ts = us → e = e' := by
  -- A production is told from the others by its first token or by a token that stands bare.
  induction first with
  | atom atom =>
    intro level' us e' second same
    cases second with
    | atom atom' =>
      cases atom <;> cases atom' <;> cases same <;> rfl
    | operation _ left right =>
      exact absurd atom.closed (same ▸ (divides_operation left right).not_tight)
    | membership _ nonempty subject list =>
      exact absurd atom.closed (same ▸ (divides_membership nonempty subject list).not_tight)
    | _ => cases atom <;> cases same
  | call name distinct reads ih =>
    intro level' us e' second same
    have tight : Closed (Token.looserThan tightest) _ := (Reads.call name distinct reads).closed
    cases second with
    | call name' distinct' reads' =>
      rw [List.cons.injEq, List.append_cancel_right_eq, List.cons.injEq] at same
      obtain ⟨rfl, argument⟩ := distinctMark_unique reads reads' same.2.2
      rw [Token.functionName.inj same.1, ih reads' argument]
    | operation _ left right => exact absurd tight (same ▸ (divides_operation left right).not_tight)
    | membership _ nonempty subject list =>
      exact absurd tight (same ▸ (divides_membership nonempty subject list).not_tight)
    | atom atom => cases atom <;> cases same
    | _ => simp at same
  | caseWhen readsCondition readsResult ihCondition ihResult =>
    intro level' us e' second same
    have tight : Closed (Token.looserThan tightest) _ :=
      (Reads.caseWhen readsCondition readsResult).closed
    cases second with
    | caseWhen readsCondition' readsResult' =>
      rw [List.append_cancel_right_eq, List.cons.injEq, List.cons.injEq] at same
      obtain ⟨condition, -, result⟩ :=
        split_first readsCondition.closed readsCondition'.closed rfl rfl same.2.2
      rw [ihCondition readsCondition' condition, ihResult readsResult' result]
    | operation _ left right => exact absurd tight (same ▸ (divides_operation left right).not_tight)
    | membership _ nonempty subject list =>
      exact absurd tight (same ▸ (divides_membership nonempty subject list).not_tight)
    | atom atom => cases atom <;> cases same
    | _ => simp at same
  | parentheses reads ih =>
    intro level' us e' second same
    have tight : Closed (Token.looserThan tightest) _ := (Reads.parentheses reads).closed
    cases second with
    | parentheses reads' =>
      rw [List.append_cancel_right_eq, List.cons.injEq] at same
      exact ih reads' same.2
    | operation _ left right => exact absurd tight (same ▸ (divides_operation left right).not_tight)
    | membership _ nonempty subject list =>
      exact absurd tight (same ▸ (divides_membership nonempty subject list).not_tight)
    | atom atom => cases atom <;> cases same
    | _ => simp at same
  | operation binds readsLeft readsRight ihLeft ihRight =>
    intro level' us e' second same
    rcases second.of_divides (divides_operation readsLeft readsRight) same with
      ⟨op, left, right, sameOp, rfl, left', right'⟩ | ⟨subject, choices, absurd, -⟩
    · cases sameOp
      rw [ihLeft left' rfl, ihRight right' rfl]
    · cases absurd
  | membership binds nonempty readsSubject readsChoices ihSubject ihChoices =>
    intro level' us e' second same
    rcases second.of_divides (divides_membership nonempty readsSubject readsChoices) same with
      ⟨op, left, right, absurd, -⟩ | ⟨subject, choices, -, rfl, list, nonempty', subject', choices'⟩
    · cases absurd
    · rw [List.append_cancel_right_eq, List.cons.injEq] at list
      have sameLists := separated_inj rfl (by simpa using nonempty) (by simpa using nonempty')
        (closed_entries readsChoices) (closed_entries choices') list.2
      have sameChoices := map_snd_eq sameLists fun c hc c' hc' same =>
        ihChoices c hc (choices' c' hc') same
      rw [ihSubject subject' rfl, sameChoices]

/-- Tokens read as one expression at most. -/
theorem unique (first : Reads chains level ts e) (second : Reads chains level' ts e') : e = e' :=
  first.unique_of_eq second rfl

end Reads

end StarQuery.Sql
