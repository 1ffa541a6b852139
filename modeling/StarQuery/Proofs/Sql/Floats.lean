import StarQuery.Proofs.Sql.Occurrence
import StarQuery.Proofs.Sql.Rendering

/-!
The floats of a statement. Main statements: writing tokens fails exactly at the first float among
them that is not finite, and a statement has no floats in its tokens but those of its expressions.
-/
namespace StarQuery.Sql

def Literal.floats : Literal → List Double
  | .float x => [x]
  | .int _ | .text _ | .bool _ | .null => []

def Token.floats : Token → List Double
  | .literal l => l.floats
  | _ => []

def floatsIn (ts : List Token) : List Double := ts.flatMap Token.floats

def unwritable? (ts : List Token) : Option Double := (floatsIn ts).find? fun x => !x.isFinite

namespace Expr

mutual

def floats : Expr → List Double
  | .column _ _ => []
  | .literal l => l.floats
  | .binary _ left right => left.floats ++ right.floats
  | .call _ _ argument => argument.floats
  | .caseWhen condition result => condition.floats ++ result.floats
  | .isIn subject choices => subject.floats ++ allFloats choices

def allFloats : List Expr → List Double
  | [] => []
  | choice :: choices => choice.floats ++ allFloats choices

end

end Expr

def Statement.floats (s : Statement) : List Double :=
  (s.clauseExprs ++ s.joins.map Join.on).flatMap Expr.floats

variable {d : Dialect} {ts : List Token} {x : Double} {e : RenderError}

theorem Literal.mem_floats {l : Literal} : x ∈ l.floats ↔ l = .float x := by
  cases l <;> simp [Literal.floats, eq_comm]

theorem Literal.mem_floats_ofValue {v : Value} : x ∈ (ofValue v).floats ↔ v = .float x := by
  rw [mem_floats]
  cases v <;> simp [ofValue]

theorem Token.mem_floats {t : Token} : x ∈ t.floats ↔ t = .literal (.float x) := by
  cases t <;> simp [Token.floats, Literal.mem_floats]

theorem mem_floatsIn : x ∈ floatsIn ts ↔ .literal (.float x) ∈ ts := by
  simp [floatsIn, Token.mem_floats]

theorem unwritable?_cons (t : Token) (ts : List Token) :
    unwritable? (t :: ts) = (unwritable? [t]).or (unwritable? ts) := by
  rw [unwritable?, unwritable?, unwritable?, floatsIn, floatsIn, floatsIn, List.flatMap_cons,
    List.find?_append, List.flatMap_singleton]

theorem Token.render_error_iff {t : Token} :
    t.render d = .error e ↔ ∃ x, unwritable? [t] = some x ∧ e = .nonFinite x := by
  have none {t : Token} {cs : List Char} (written : t.render d = .ok cs)
      (plain : t.floats = []) :
      t.render d = .error e ↔ ∃ x, unwritable? [t] = some x ∧ e = .nonFinite x := by
    rw [written, unwritable?, floatsIn, List.flatMap_singleton, plain]
    exact iff_of_false nofun (by rintro ⟨x, found, -⟩; cases found)
  cases t with
  | literal l =>
    cases l with
    | float x =>
      rw [Token.render, Literal.render, unwritable?, floatsIn, List.flatMap_singleton, Token.floats,
        Literal.floats, List.find?_singleton]
      cases x.isFinite <;> simp [eq_comm]
    | _ => exact none rfl rfl
  | _ => exact none rfl rfl

/-- Writing fails at the first float that cannot be written. -/
theorem renderAll_error_iff :
    renderAll d ts = .error e ↔ ∃ x, unwritable? ts = some x ∧ e = .nonFinite x := by
  induction ts with
  | nil => exact iff_of_false nofun (by rintro ⟨x, found, -⟩; cases found)
  | cons t ts ih =>
    rw [unwritable?_cons]
    cases written : t.render d with
    | error e' =>
      obtain ⟨x, found, rfl⟩ := Token.render_error_iff.mp written
      have fails : renderAll d (t :: ts) = .error (.nonFinite x) := by rw [renderAll, written]; rfl
      rw [fails, found, Option.some_or]
      simp [eq_comm]
    | ok cs =>
      have writable : unwritable? [t] = none := by
        cases found : unwritable? [t] with
        | none => rfl
        | some x =>
          have fails := Token.render_error_iff (d := d).mpr ⟨x, found, rfl⟩
          rw [written] at fails
          cases fails
      rw [writable, Option.none_or, ← ih, renderAll, written]
      cases more : renderAll d ts with
      | error e' => simp [bind, Except.bind]
      | ok rest => simp [bind, Except.bind]

theorem toSql_error_iff :
    toSql d ts = .error e ↔ ∃ x, unwritable? ts = some x ∧ e = .nonFinite x := by
  rw [← renderAll_error_iff (d := d), toSql]
  cases renderAll d ts <;> simp [Except.map]

theorem exists_toSql_error_iff :
    (∃ e, toSql d ts = .error e) ↔ ∃ x, .literal (.float x) ∈ ts ∧ x.isFinite = false := by
  have fails : (∃ e, toSql d ts = .error e) ↔ (unwritable? ts).isSome = true := by
    rw [Option.isSome_iff_exists]
    constructor
    · rintro ⟨e, failed⟩
      obtain ⟨x, found, -⟩ := toSql_error_iff.mp failed
      exact ⟨x, found⟩
    · rintro ⟨x, found⟩
      exact ⟨.nonFinite x, toSql_error_iff.mpr ⟨x, found, rfl⟩⟩
  rw [fails, unwritable?, List.find?_isSome]
  simp only [mem_floatsIn, Bool.not_eq_true']

theorem floatsIn_append (ts us : List Token) : floatsIn (ts ++ us) = floatsIn ts ++ floatsIn us :=
  List.flatMap_append

theorem floatsIn_cons (t : Token) (ts : List Token) : floatsIn (t :: ts) = t.floats ++ floatsIn ts :=
  List.flatMap_cons

namespace Expr

theorem allFloats_eq (es : List Expr) : allFloats es = es.flatMap floats := by
  induction es with
  | nil => rfl
  | cons e es ih => rw [allFloats, ih, List.flatMap_cons]

theorem floatsIn_operand (e : Expr) (level : Nat) :
    floatsIn (if e.needsParens level then parenthesized e.tokens else e.tokens) =
      floatsIn e.tokens := by
  split
  · simp [parenthesized, floatsIn, Token.floats]
  · rfl

theorem floatsIn_choiceTokens (es : List Expr) :
    floatsIn (choiceTokens es) = es.flatMap fun e => floatsIn e.tokens := by
  induction es with
  | nil => rfl
  | cons e es ih =>
    cases es with
    | nil => simp [choiceTokens]
    | cons next es =>
      have whole : choiceTokens (e :: next :: es) =
          e.tokens ++ .comma :: .space :: choiceTokens (next :: es) := rfl
      rw [whole, floatsIn_append, floatsIn_cons, floatsIn_cons, ih, List.flatMap_cons]
      rfl

theorem floatsIn_tokens (e : Expr) : floatsIn e.tokens ⊆ e.floats := by
  induction e using Expr.induct with
  | column table name => cases table <;> exact List.nil_subset _
  | literal l =>
    rw [tokens, floatsIn, List.flatMap_singleton]
    exact List.Subset.refl _
  | binary op left right ihLeft ihRight =>
    rw [tokens, floatsIn_append, floatsIn_append, floatsIn_operand, floatsIn_operand, floats]
    refine List.append_subset.mpr ⟨List.append_subset.mpr ⟨?_, List.nil_subset _⟩, ?_⟩
    · exact List.subset_append_of_subset_left _ ihLeft
    · exact List.subset_append_of_subset_right _ ihRight
  | call name distinct argument ih =>
    have flat : floatsIn (if distinct then [.keyword .distinct, .space] else []) = [] := by
      cases distinct <;> rfl
    rw [tokens, floatsIn_append, floatsIn_append, floatsIn_append, flat, floats]
    exact List.append_subset.mpr ⟨ih, List.nil_subset _⟩
  | caseWhen condition result ihCondition ihResult =>
    rw [tokens, floatsIn_append, floatsIn_append, floatsIn_append, floatsIn_append, floats]
    refine List.append_subset.mpr ⟨List.append_subset.mpr ⟨List.append_subset.mpr
      ⟨?_, List.nil_subset _⟩, ?_⟩, List.nil_subset _⟩
    · exact List.subset_append_of_subset_left _ ihCondition
    · exact List.subset_append_of_subset_right _ ihResult
  | isIn subject choices ihSubject ihChoices =>
    cases choices with
    | nil => exact List.nil_subset _
    | cons choice choices =>
      have listed : (choice :: choices).flatMap (fun e => floatsIn e.tokens) ⊆
          allFloats (choice :: choices) := by
        rw [allFloats_eq]
        intro x member
        obtain ⟨c, hc, inside⟩ := List.mem_flatMap.mp member
        exact List.mem_flatMap.mpr ⟨c, hc, ihChoices c hc inside⟩
      rw [tokens, floatsIn_append, floatsIn_append, floatsIn_append, floatsIn_choiceTokens, floats]
      refine List.append_subset.mpr ⟨List.append_subset.mpr ⟨List.append_subset.mpr
        ⟨?_, List.nil_subset _⟩, ?_⟩, List.nil_subset _⟩
      · exact List.subset_append_of_subset_left _ ihSubject
      · exact List.subset_append_of_subset_right _ listed

end Expr

namespace Statement

theorem floatsIn_commaSeparated (tss : List (List Token)) :
    floatsIn (commaSeparated tss) = tss.flatMap floatsIn := by
  induction tss with
  | nil => rfl
  | cons ts rest ih =>
    cases rest with
    | nil => rw [commaSeparated, List.flatMap_singleton]
    | cons next rest =>
      rw [commaSeparated, floatsIn_append, floatsIn_cons, floatsIn_cons, ih, List.flatMap_cons]
      · rfl
      · exact nofun

theorem floatsIn_item (i : Item) : floatsIn i.tokens = floatsIn i.expr.tokens := by
  rw [Item.tokens, floatsIn_append]
  exact List.append_nil _

theorem floatsIn_itemLines (items : List Item) :
    floatsIn (itemLines items) = items.flatMap fun i => floatsIn i.expr.tokens := by
  induction items with
  | nil => rfl
  | cons i items ih =>
    cases items with
    | nil =>
      rw [itemLines, floatsIn_append, floatsIn_item, List.flatMap_singleton]
      rfl
    | cons next items =>
      rw [itemLines, floatsIn_append, floatsIn_append, floatsIn_item, floatsIn_cons .comma, ih,
        List.flatMap_cons]
      · rfl
      · exact nofun

theorem floatsIn_clause (k : Keyword) (body : List Token) :
    floatsIn (clause k body) = floatsIn body := by
  rw [clause, floatsIn_append]
  rfl

theorem floatsIn_listClause (k : Keyword) (entries : List (List Token)) :
    floatsIn (listClause k entries) = entries.flatMap floatsIn := by
  cases entries with
  | nil => rfl
  | cons ts rest => rw [listClause, floatsIn_clause, floatsIn_commaSeparated]; exact nofun

theorem floatsIn_conditionClause (k : Keyword) (condition : Option Expr) :
    floatsIn (conditionClause k condition) =
      condition.toList.flatMap fun e => floatsIn e.tokens := by
  cases condition with
  | none => rfl
  | some e => rw [conditionClause, floatsIn_clause, Option.toList_some, List.flatMap_singleton]

theorem floatsIn_orderTerm (t : OrderTerm) : floatsIn t.tokens = floatsIn t.expr.tokens := by
  rw [OrderTerm.tokens, floatsIn_append]
  exact List.append_nil _

theorem floatsIn_source (s : Source) : floatsIn s.tokens = [] := by
  obtain ⟨table, rename⟩ := s
  cases rename with
  | none => rfl
  | some other =>
    rw [Source.tokens, floatsIn_cons]
    dsimp only
    split <;> rfl

theorem floatsIn_join (j : Join) : floatsIn j.tokens = floatsIn j.on.tokens := by
  rw [Join.tokens, floatsIn_append, floatsIn_append, floatsIn_append, floatsIn_source]
  rfl

theorem floatsIn_limitClause (ordered : Bool) (limit : Option UInt64) :
    floatsIn (limitClause ordered limit) = [] := by
  cases limit <;> rfl

theorem floatsIn_joins (joins : List Join) :
    floatsIn (joins.flatMap fun j => .newline :: j.tokens) =
      joins.flatMap fun j => floatsIn j.on.tokens := by
  rw [floatsIn, List.flatMap_assoc]
  exact congrArg joins.flatMap (funext floatsIn_join)

/-- The tokens have no floats but those of the clauses and joins. -/
theorem floatsIn_tokens (s : Statement) : floatsIn s.tokens ⊆ s.floats := by
  have written : floatsIn s.tokens = (s.items.map Item.expr ++ s.joins.map Join.on ++
      s.condition.toList ++ s.groupBy ++ s.having.toList ++
      s.orderBy.map OrderTerm.expr).flatMap fun e => floatsIn e.tokens := by
    simp only [tokens, floatsIn_append, floatsIn_cons, floatsIn_itemLines, floatsIn_clause,
      floatsIn_source, floatsIn_joins, floatsIn_conditionClause, floatsIn_listClause,
      floatsIn_limitClause, List.flatMap_append, List.flatMap_map, floatsIn_orderTerm,
      Token.floats, List.nil_append, List.append_nil]
  rw [written]
  intro x member
  obtain ⟨e, he, inside⟩ := List.mem_flatMap.mp member
  refine List.mem_flatMap.mpr ⟨e, ?_, e.floatsIn_tokens inside⟩
  simp only [clauseExprs, List.mem_append] at he ⊢
  tauto

end Statement

end StarQuery.Sql
