import StarQuery.Proofs.Sql.Grammar

/-!
Expressions that are read back as they were built. Main statements: the tokens of an expression read
as that expression exactly when every operand that is written bare binds tightly enough for its
place; where all operators chain, only a membership can fail to.
-/
namespace StarQuery.Sql

namespace Expr

/-- Induction over expressions that reaches the choices of a membership. -/
@[elab_as_elim]
theorem induct {P : Expr → Prop} (column : ∀ table name, P (.column table name))
    (literal : ∀ l, P (.literal l))
    (binary : ∀ op left right, P left → P right → P (.binary op left right))
    (call : ∀ name distinct argument, P argument → P (.call name distinct argument))
    (caseWhen : ∀ condition result, P condition → P result → P (.caseWhen condition result))
    (isIn : ∀ subject choices, P subject → (∀ c ∈ choices, P c) → P (.isIn subject choices)) :
    ∀ e, P e :=
  Expr.rec column literal binary call caseWhen isIn (fun _ member => nomatch member)
    fun _ _ head tail c member => by
      rcases List.mem_cons.mp member with rfl | member
      · exact head
      · exact tail c member

mutual

/-- The expression as it is shown, with FALSE in place of a membership in an empty list. -/
def settled : Expr → Expr
  | .column table name => .column table name
  | .literal l => .literal l
  | .binary op left right => .binary op left.settled right.settled
  | .call name distinct argument => .call name distinct argument.settled
  | .caseWhen condition result => .caseWhen condition.settled result.settled
  | .isIn _ [] => .literal (.bool false)
  | .isIn subject (choice :: choices) => .isIn subject.settled (allSettled (choice :: choices))

def allSettled : List Expr → List Expr
  | [] => []
  | choice :: choices => choice.settled :: allSettled choices

end

def standsAt (level : Nat) : Expr → Bool
  | .binary op _ _ => level ≤ op.level
  | .isIn _ (_ :: _) => level ≤ Operator.eq.level
  | _ => true

/-- Whether an operand that gets parentheses below `bare` can be read at a place of `level`. -/
def fits (bare level : Nat) (e : Expr) : Bool := e.needsParens bare || e.standsAt level

mutual

/-- Whether all operands that are written bare bind tightly enough for their places. -/
def isLegible (chains : Operator → Bool) : Expr → Bool
  | .column _ _ => true
  | .literal _ => true
  | .binary op left right =>
    left.fits op.level (op.leftLevel chains) && right.fits (op.level + 1) (op.level + 1) &&
      left.isLegible chains && right.isLegible chains
  | .call _ _ argument => argument.isLegible chains
  | .caseWhen condition result => condition.isLegible chains && result.isLegible chains
  | .isIn _ [] => true
  | .isIn subject (choice :: choices) =>
    subject.standsAt (Operator.eq.level + 1) && subject.isLegible chains &&
      allLegible chains (choice :: choices)

def allLegible (chains : Operator → Bool) : List Expr → Bool
  | [] => true
  | choice :: choices => choice.isLegible chains && allLegible chains choices

end

variable {chains : Operator → Bool} {level bare : Nat} {e : Expr}

theorem allSettled_eq_map (es : List Expr) : allSettled es = es.map settled := by
  induction es with
  | nil => rfl
  | cons e es ih => rw [allSettled, ih, List.map_cons]

theorem allLegible_iff {es : List Expr} :
    allLegible chains es = true ↔ ∀ e ∈ es, e.isLegible chains = true := by
  induction es with
  | nil => simp [allLegible]
  | cons e es ih => simp [allLegible, ih]

theorem standsAt_loosest (e : Expr) : e.standsAt loosest = true := by
  unfold standsAt
  split
  · next op _ _ => cases op <;> rfl
  · rfl
  · rfl

theorem standsAt_settled (level : Nat) (e : Expr) :
    e.settled.standsAt level = e.standsAt level := by
  cases e with
  | isIn subject choices => cases choices <;> rfl
  | _ => rfl

end Expr

@[simp]
theorem solid_nil : solid [] = [] := rfl

@[simp]
theorem solid_append (ts us : List Token) : solid (ts ++ us) = solid ts ++ solid us :=
  List.filter_append ts us

theorem solid_cons (t : Token) (ts : List Token) :
    solid (t :: ts) = if t.isBlank then solid ts else t :: solid ts := by
  cases h : t.isBlank <;> simp [solid, h]

theorem solid_parenthesized (ts : List Token) :
    solid (Expr.parenthesized ts) = .leftParen :: solid ts ++ [.rightParen] := by
  simp [Expr.parenthesized, solid_cons, Token.isBlank]

theorem solid_choiceTokens (es : List Expr) :
    solid (Expr.choiceTokens es) = separated (es.map fun e => solid e.tokens) := by
  induction es with
  | nil => rfl
  | cons e es ih =>
    cases es with
    | nil => rfl
    | cons next es =>
      rw [Expr.choiceTokens.eq_3 _ _ (by simp), solid_append, solid_cons, solid_cons, ih]
      rfl

namespace Expr

variable {chains : Operator → Bool} {level bare : Nat} {e : Expr}

theorem reads_operand (fits : e.fits bare level = true)
    (reads : ∀ {level}, e.standsAt level = true → Reads chains level (solid e.tokens) e.settled) :
    Reads chains level (solid (if e.needsParens bare then parenthesized e.tokens else e.tokens))
      e.settled := by
  by_cases parens : e.needsParens bare = true
  · rw [if_pos parens, solid_parenthesized]
    exact Reads.parentheses (reads e.standsAt_loosest)
  · rw [if_neg parens]
    exact reads (by simpa [Expr.fits, parens] using fits)

theorem reads_tokens (e : Expr) (legible : e.isLegible chains = true)
    (stands : e.standsAt level = true) : Reads chains level (solid e.tokens) e.settled := by
  induction e using Expr.induct generalizing level with
  | column table name =>
    cases table with
    | none => exact Reads.atom (Atom.column name)
    | some table => exact Reads.atom (Atom.qualified table name)
  | literal l => exact Reads.atom (Atom.literal l)
  | binary op left right ihLeft ihRight =>
    simp only [isLegible, Bool.and_eq_true] at legible
    obtain ⟨⟨⟨fitsLeft, fitsRight⟩, legibleLeft⟩, legibleRight⟩ := legible
    have first := reads_operand fitsLeft fun stands => ihLeft legibleLeft stands
    have second := reads_operand fitsRight fun stands => ihRight legibleRight stands
    have binds : level ≤ op.level := by simpa [standsAt] using stands
    have whole := Reads.operation binds first second
    simpa [tokens, solid_cons, Token.isBlank, settled] using whole
  | call name distinct argument ih =>
    have whole : Reads chains level _ _ :=
      Reads.call name distinct (ih (by simpa [isLegible] using legible) argument.standsAt_loosest)
    cases distinct <;>
      simpa [tokens, solid_cons, Token.isBlank, settled, distinctMark] using whole
  | caseWhen condition result ihCondition ihResult =>
    simp only [isLegible, Bool.and_eq_true] at legible
    have whole : Reads chains level _ _ :=
      Reads.caseWhen (ihCondition legible.1 condition.standsAt_loosest)
        (ihResult legible.2 result.standsAt_loosest)
    simpa [tokens, solid_cons, Token.isBlank, settled] using whole
  | isIn subject choices ihSubject ihChoices =>
    cases choices with
    -- Nothing is a member of an empty list, which is written as FALSE.
    | nil => exact Reads.atom Atom.never
    | cons choice choices =>
      simp only [isLegible, Bool.and_eq_true, allLegible_iff] at legible
      obtain ⟨⟨standsSubject, legibleSubject⟩, legibleChoices⟩ := legible
      have binds : level ≤ Operator.eq.level := by simpa [standsAt] using stands
      have list : ∀ c ∈ (choice :: choices).map fun e => (solid e.tokens, e.settled),
          Reads chains loosest c.1 c.2 := by
        intro c member
        obtain ⟨e, he, rfl⟩ := List.mem_map.mp member
        exact ihChoices e he (legibleChoices e he) e.standsAt_loosest
      have whole := Reads.membership binds (by simp) (ihSubject legibleSubject standsSubject) list
      simp only [List.map_map, Function.comp_def] at whole
      rw [← solid_choiceTokens, ← allSettled_eq_map] at whole
      simpa [tokens, solid_cons, Token.isBlank, settled] using whole

def missing (level : Nat) (e : Expr) : Nat := if e.standsAt level then 0 else 1

mutual

def brackets (chains : Operator → Bool) : Expr → Nat
  | .column _ _ => 0
  | .literal _ => 0
  | .binary op left right =>
    left.brackets chains + left.missing (op.leftLevel chains) +
      (right.brackets chains + right.missing (op.level + 1))
  | .call _ _ argument => argument.brackets chains + 1
  | .caseWhen condition result => condition.brackets chains + result.brackets chains
  | .isIn _ [] => 0
  | .isIn subject (choice :: choices) =>
    subject.brackets chains + subject.missing (Operator.eq.level + 1) +
      (allBrackets chains (choice :: choices) + 1)

def allBrackets (chains : Operator → Bool) : List Expr → Nat
  | [] => 0
  | choice :: choices => choice.brackets chains + allBrackets chains choices

end

theorem missing_settled (level : Nat) (e : Expr) : e.settled.missing level = e.missing level := by
  rw [missing, standsAt_settled, missing]

theorem missing_le (level : Nat) (e : Expr) : e.missing level ≤ 1 := by
  unfold missing
  split <;> omega

theorem missing_loosest (e : Expr) : e.missing loosest = 0 := by
  rw [missing, e.standsAt_loosest, if_pos rfl]

end Expr

theorem count_separated_cons (ts : List Token) (rest : List (List Token)) :
    (separated (ts :: rest)).count .leftParen =
      ts.count .leftParen + (separated rest).count .leftParen := by
  cases rest <;> simp [separated]

theorem allBrackets_le {chains : Operator → Bool} {choices : List (List Token × Expr)}
    (each : ∀ c ∈ choices, c.2.brackets chains ≤ c.1.count .leftParen) :
    Expr.allBrackets chains (choices.map Prod.snd) ≤
      (separated (choices.map Prod.fst)).count .leftParen := by
  induction choices with
  | nil => exact Nat.le_refl 0
  | cons c choices ih =>
    rw [List.map_cons, List.map_cons, Expr.allBrackets, count_separated_cons]
    have head := each c List.mem_cons_self
    have tail := ih fun c' member => each c' (List.mem_cons_of_mem c member)
    omega

/-- Whatever reads as an expression has the parentheses that the expression needs. -/
theorem Reads.brackets_le {chains : Operator → Bool} {level : Nat} {ts : List Token} {e : Expr}
    (reads : Reads chains level ts e) :
    e.brackets chains + e.missing level ≤ ts.count .leftParen := by
  induction reads with
  | atom atom => cases atom <;> simp [Expr.brackets, Expr.missing, Expr.standsAt]
  | @call level name distinct ts argument reads ih =>
    have bare := argument.missing_loosest
    have mark : (distinctMark distinct).count .leftParen = 0 := by cases distinct <;> rfl
    simp [Expr.brackets, Expr.missing, Expr.standsAt, mark]
    omega
  | @caseWhen level ts us condition result readsCondition readsResult ihCondition ihResult =>
    simp [Expr.brackets, Expr.missing, Expr.standsAt]
    omega
  | @parentheses level ts e reads ih =>
    have one := e.missing_le level
    simp
    omega
  | @operation level op ts us left right binds readsLeft readsRight ihLeft ihRight =>
    simp [Expr.brackets, Expr.missing, Expr.standsAt, binds] at ihLeft ihRight ⊢
    omega
  | @membership level ts subject choices binds nonempty readsSubject readsChoices ihSubject
      ihChoices =>
    have list := allBrackets_le fun c hc => Nat.le_of_add_right_le (ihChoices c hc)
    cases choices with
    | nil => exact absurd rfl nonempty
    | cons c choices =>
      simp only [List.map_cons] at list ⊢
      simp [Expr.brackets, Expr.missing, Expr.standsAt, binds] at ihSubject ⊢
      omega

namespace Expr

variable {chains : Operator → Bool} {level bare : Nat} {e : Expr}

theorem not_standsAt_of_needsParens (tighter : bare ≤ level) (parens : e.needsParens bare = true) :
    e.standsAt level = false := by
  cases e with
  | binary op left right =>
    simp only [needsParens, standsAt, decide_eq_true_eq, decide_eq_false_iff_not] at parens ⊢
    omega
  | _ => cases parens

def WithinNeeds (chains : Operator → Bool) (e : Expr) : Prop :=
  e.tokens.count .leftParen ≤ e.settled.brackets chains ∧
    (e.settled.brackets chains ≤ e.tokens.count .leftParen → e.isLegible chains = true)

theorem WithinNeeds.operand (within : e.WithinNeeds chains) (tighter : bare ≤ level) :
    (if e.needsParens bare then parenthesized e.tokens else e.tokens).count .leftParen ≤
        e.settled.brackets chains + e.settled.missing level ∧
      (e.settled.brackets chains + e.settled.missing level ≤
          (if e.needsParens bare then parenthesized e.tokens else e.tokens).count .leftParen →
        e.fits bare level = true ∧ e.isLegible chains = true) := by
  obtain ⟨le, legible⟩ := within
  rw [missing_settled, missing, fits]
  by_cases parens : e.needsParens bare = true
  · have one : (parenthesized e.tokens).count .leftParen = e.tokens.count .leftParen + 1 := by
      simp [parenthesized]
    rw [if_pos parens, not_standsAt_of_needsParens tighter parens, one, parens]
    simp only [Bool.false_eq_true, if_false, Bool.true_or, true_and]
    exact ⟨by omega, fun enough => legible (by omega)⟩
  · rw [if_neg parens]
    cases stands : e.standsAt level with
    | true => simpa using ⟨le, legible⟩
    | false =>
      simp only [Bool.false_eq_true, if_false]
      exact ⟨by omega, fun enough => by omega⟩

theorem count_choiceTokens_cons (e : Expr) (es : List Expr) :
    (choiceTokens (e :: es)).count .leftParen =
      e.tokens.count .leftParen + (choiceTokens es).count .leftParen := by
  cases es <;> simp [choiceTokens]

theorem allWithinNeeds {es : List Expr} (within : ∀ e ∈ es, e.WithinNeeds chains) :
    (choiceTokens es).count .leftParen ≤ allBrackets chains (allSettled es) ∧
      (allBrackets chains (allSettled es) ≤ (choiceTokens es).count .leftParen →
        allLegible chains es = true) := by
  induction es with
  | nil => exact ⟨Nat.le_refl 0, fun _ => rfl⟩
  | cons e es ih =>
    obtain ⟨le, legible⟩ := within e List.mem_cons_self
    obtain ⟨leAll, legibleAll⟩ := ih fun e' member => within e' (List.mem_cons_of_mem e member)
    rw [count_choiceTokens_cons, allSettled, allBrackets, allLegible, Bool.and_eq_true]
    constructor
    · omega
    · intro enough
      exact ⟨legible (by omega), legibleAll (by omega)⟩

theorem withinNeeds (e : Expr) : e.WithinNeeds chains := by
  induction e using Expr.induct with
  | column table name => cases table <;> simp [WithinNeeds, tokens, brackets, settled, isLegible]
  | literal l => simp [WithinNeeds, tokens, brackets, settled, isLegible]
  | binary op left right ihLeft ihRight =>
    -- The operand rule gives the left operand parentheses below the level of the operator, which is
    -- too low where the operator does not chain.
    have leftTighter : op.level ≤ op.leftLevel chains := by
      unfold Operator.leftLevel
      split <;> omega
    obtain ⟨leLeft, needLeft⟩ := ihLeft.operand leftTighter
    obtain ⟨leRight, needRight⟩ := ihRight.operand (Nat.le_refl (op.level + 1))
    simp only [WithinNeeds, tokens, brackets, settled, isLegible, List.count_append,
      Bool.and_eq_true]
    have blanks : [Token.space, .operator op, .space].count .leftParen = 0 := rfl
    constructor
    · omega
    · intro enough
      obtain ⟨fitsLeft, legibleLeft⟩ := needLeft (by omega)
      obtain ⟨fitsRight, legibleRight⟩ := needRight (by omega)
      exact ⟨⟨⟨fitsLeft, fitsRight⟩, legibleLeft⟩, legibleRight⟩
  | call name distinct argument ih =>
    obtain ⟨le, legible⟩ := ih
    have count : (Expr.call name distinct argument).tokens.count .leftParen =
        argument.tokens.count .leftParen + 1 := by
      cases distinct <;> simp [tokens]
    rw [WithinNeeds, count, settled, brackets, isLegible]
    exact ⟨by omega, fun enough => legible (by omega)⟩
  | caseWhen condition result ihCondition ihResult =>
    obtain ⟨leCondition, legibleCondition⟩ := ihCondition
    obtain ⟨leResult, legibleResult⟩ := ihResult
    have count : (Expr.caseWhen condition result).tokens.count .leftParen =
        condition.tokens.count .leftParen + result.tokens.count .leftParen := by
      simp [tokens]
    rw [WithinNeeds, count, settled, brackets, isLegible, Bool.and_eq_true]
    exact ⟨by omega, fun enough => ⟨legibleCondition (by omega), legibleResult (by omega)⟩⟩
  | isIn subject choices ihSubject ihChoices =>
    cases choices with
    | nil => simp [WithinNeeds, tokens, brackets, settled, isLegible]
    | cons choice choices =>
      obtain ⟨leSubject, legibleSubject⟩ := ihSubject
      obtain ⟨leChoices, legibleChoices⟩ := allWithinNeeds ihChoices
      have count : (Expr.isIn subject (choice :: choices)).tokens.count .leftParen =
          subject.tokens.count .leftParen +
            ((choiceTokens (choice :: choices)).count .leftParen + 1) := by
        simp [tokens]
      have needs : (Expr.isIn subject (choice :: choices)).settled.brackets chains =
          subject.settled.brackets chains + subject.missing (Operator.eq.level + 1) +
            (allBrackets chains (allSettled (choice :: choices)) + 1) := by
        rw [settled, allSettled, brackets, missing_settled]
      rw [WithinNeeds, count, needs, isLegible, Bool.and_eq_true, Bool.and_eq_true]
      constructor
      · omega
      · intro enough
        have stands : subject.missing (Operator.eq.level + 1) = 0 := by omega
        refine ⟨⟨?_, legibleSubject (by omega)⟩, legibleChoices (by omega)⟩
        simpa [missing] using stands

theorem reads_tokens_iff :
    Reads chains loosest (solid e.tokens) e.settled ↔ e.isLegible chains = true := by
  constructor
  · intro reads
    have parens : (solid e.tokens).count .leftParen = e.tokens.count .leftParen :=
      List.count_filter rfl
    have needs := reads.brackets_le
    exact e.withinNeeds.2 (by omega)
  · intro legible
    exact e.reads_tokens legible e.standsAt_loosest

/-- The tokens of an expression read as that expression, and as no other, just if it is legible. -/
theorem read_back_iff :
    (∀ e', Reads chains loosest (solid e.tokens) e' ↔ e' = e.settled) ↔
      e.isLegible chains = true := by
  rw [← reads_tokens_iff]
  constructor
  · intro back
    exact (back e.settled).mpr rfl
  · intro reads e'
    constructor
    · intro other
      exact other.unique reads
    · rintro rfl
      exact reads

def isMembershipFree : Expr → Bool
  | .column _ _ => true
  | .literal _ => true
  | .binary _ left right => left.isMembershipFree && right.isMembershipFree
  | .call _ _ argument => argument.isMembershipFree
  | .caseWhen condition result => condition.isMembershipFree && result.isMembershipFree
  | .isIn _ _ => false

end Expr

def leftAssociative : Operator → Bool := fun _ => true

namespace Expr

variable {e : Expr}

theorem settled_of_isMembershipFree (free : e.isMembershipFree = true) : e.settled = e := by
  induction e using Expr.induct with
  | column table name => rfl
  | literal l => rfl
  | binary op left right ihLeft ihRight =>
    rw [isMembershipFree, Bool.and_eq_true] at free
    rw [settled, ihLeft free.1, ihRight free.2]
  | call name distinct argument ih => rw [settled, ih free]
  | caseWhen condition result ihCondition ihResult =>
    rw [isMembershipFree, Bool.and_eq_true] at free
    rw [settled, ihCondition free.1, ihResult free.2]
  | isIn subject choices => cases free

theorem fits_of_isMembershipFree (free : e.isMembershipFree = true) (level : Nat) :
    e.fits level level = true := by
  cases e with
  | binary op left right =>
    rw [fits, needsParens, standsAt, Bool.or_eq_true, decide_eq_true_eq, decide_eq_true_eq]
    omega
  | isIn subject choices => cases free
  | _ => rfl

theorem isLegible_of_isMembershipFree (free : e.isMembershipFree = true) :
    e.isLegible leftAssociative = true := by
  induction e using Expr.induct with
  | column table name => rfl
  | literal l => rfl
  | binary op left right ihLeft ihRight =>
    rw [isMembershipFree, Bool.and_eq_true] at free
    have sameLevel : op.leftLevel leftAssociative = op.level := rfl
    rw [isLegible, sameLevel, fits_of_isMembershipFree free.1, fits_of_isMembershipFree free.2,
      ihLeft free.1, ihRight free.2]
    rfl
  | call name distinct argument ih => exact ih free
  | caseWhen condition result ihCondition ihResult =>
    rw [isMembershipFree, Bool.and_eq_true] at free
    rw [isLegible, ihCondition free.1, ihResult free.2]
    rfl
  | isIn subject choices => cases free

theorem reads_tokens_iff_of_isMembershipFree (free : e.isMembershipFree = true) (e' : Expr) :
    Reads leftAssociative loosest (solid e.tokens) e' ↔ e' = e := by
  have back := read_back_iff.mpr (isLegible_of_isMembershipFree free) e'
  rwa [settled_of_isMembershipFree free] at back

/-- Where equally tight operators group from the left, an expression without memberships is read
back as it was built; so no other has its tokens. -/
theorem tokens_read_back (e : Expr) (free : e.isMembershipFree = true) :
    (∀ e', Reads leftAssociative loosest (solid e.tokens) e' ↔ e' = e) ∧
      ∀ e', e'.isMembershipFree = true → solid e'.tokens = solid e.tokens → e' = e := by
  constructor
  · exact reads_tokens_iff_of_isMembershipFree free
  · intro e' free' same
    apply (reads_tokens_iff_of_isMembershipFree free e').mp
    rw [← same]
    exact (reads_tokens_iff_of_isMembershipFree free' e').mpr rfl

def staggered : Expr :=
  let x (name : String) : Expr := .column (some "t") name
  .binary .and (.binary .eq (.binary .lt (x "a") (x "b")) (.binary .ne (x "c") (x "d")))
    (.binary .and
      (.binary .ge (.binary .mul (.binary .sub (x "a") (x "b")) (.binary .div (x "c") (x "d")))
        (.call "SUM" true (.binary .sub (x "a") (.binary .sub (x "b") (x "c")))))
      (.caseWhen (.binary .and (x "a") (x "b"))
        (.binary .add (.binary .sub (x "a") (x "b")) (.literal (.int (-1))))))

theorem tokens_read_back_staggered :
    staggered.isMembershipFree = true ∧ staggered.tokens.count .leftParen = 6 ∧
      (∀ e', Reads leftAssociative loosest (solid staggered.tokens) e' ↔ e' = staggered) ∧
        ∀ e', e'.isMembershipFree = true → solid e'.tokens = solid staggered.tokens →
          e' = staggered :=
  ⟨rfl, by decide +kernel, staggered.tokens_read_back rfl⟩

end Expr

end StarQuery.Sql
