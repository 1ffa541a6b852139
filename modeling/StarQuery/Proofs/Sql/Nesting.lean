import Mathlib.Data.List.Basic
import StarQuery.Sql.Statement

/-!
Nesting of tokens: parentheses enclose what stands between them, and so do CASE and its END. Main
statements: a list falls apart in one way only at a token that does not occur bare before it, and in
one way only at a token that does not occur bare behind it.
-/
namespace StarQuery.Sql

def Token.nesting : Token → Int
  | .leftParen | .keyword .case => 1
  | .rightParen | .keyword .ends => -1
  | _ => 0

def depth : List Token → Int
  | [] => 0
  | t :: ts => t.nesting + depth ts

@[simp]
theorem depth_nil : depth [] = 0 := rfl

@[simp]
theorem depth_cons (t : Token) (ts : List Token) : depth (t :: ts) = t.nesting + depth ts := rfl

@[simp]
theorem depth_append (ts us : List Token) : depth (ts ++ us) = depth ts + depth us := by
  induction ts with
  | nil => simp
  | cons t ts ih => rw [List.cons_append, depth_cons, depth_cons, ih, Int.add_assoc]

/-- Brackets come in pairs, and none of the tokens in `stop` occurs outside of them. -/
structure Closed (stop : Token → Bool) (ts : List Token) : Prop where
  settled : depth ts = 0
  nonneg : ∀ front back, ts = front ++ back → 0 ≤ depth front
  bare : ∀ front t back, ts = front ++ t :: back → depth front = 0 → stop t = false

variable {stop : Token → Bool} {t u : Token} {ts us ts' us' : List Token}

namespace Closed

theorem mono {stop' : Token → Bool} (fewer : ∀ t, stop' t = true → stop t = true)
    (closed : Closed stop ts) : Closed stop' ts where
  settled := closed.settled
  nonneg := closed.nonneg
  bare := by
    intro front t back split outside
    have free := closed.bare front t back split outside
    by_contra stopped
    simp [fewer t (by simpa using stopped)] at free

theorem balanced (closed : Closed stop ts) : Closed (fun _ => false) ts :=
  closed.mono fun _ stopped => nomatch stopped

theorem nil : Closed stop [] where
  settled := rfl
  nonneg := by
    intro front back split
    simp [(List.append_eq_nil_iff.mp split.symm).1]
  bare := by
    intro front t back split _
    simp at split

theorem singleton (flat : t.nesting = 0) (free : stop t = false) : Closed stop [t] where
  settled := by simp [flat]
  nonneg := by
    intro front back split
    rcases List.append_eq_singleton_iff.mp split.symm with ⟨rfl, -⟩ | ⟨rfl, -⟩
    · simp
    · simp [flat]
  bare := by
    intro front t' back split _
    rcases List.append_eq_singleton_iff.mp split.symm with ⟨-, single⟩ | ⟨-, absurd⟩
    · simp only [List.cons.injEq] at single
      rw [single.1, free]
    · simp at absurd

theorem append (first : Closed stop ts) (second : Closed stop us) : Closed stop (ts ++ us) where
  settled := by simp [first.settled, second.settled]
  nonneg := by
    intro front back split
    rcases List.append_eq_append_iff.mp split with ⟨more, rfl, rest⟩ | ⟨more, whole, -⟩
    · have := second.nonneg more back rest
      simp [first.settled, this]
    · exact first.nonneg front more whole
  bare := by
    intro front t back split outside
    rcases List.append_eq_append_iff.mp split with ⟨more, rfl, rest⟩ | ⟨more, whole, rest⟩
    · apply second.bare more t back rest
      simpa [first.settled] using outside
    · cases more with
      | nil =>
        apply second.bare [] t back rest.symm
        rfl
      | cons t' more =>
        simp only [List.cons_append, List.cons.injEq] at rest
        exact first.bare front t more (by rw [whole, rest.1]) outside

theorem cons (flat : t.nesting = 0) (free : stop t = false) (closed : Closed stop ts) :
    Closed stop (t :: ts) :=
  (singleton flat free).append closed

theorem enclosed {stop' : Token → Bool} (opens : t.nesting = 1) (closes : u.nesting = -1)
    (free : stop t = false) (closed : Closed stop' ts) : Closed stop (t :: ts ++ [u]) where
  settled := by simp [opens, closes, closed.settled]
  nonneg := by
    intro front back split
    cases front with
    | nil => simp
    | cons t' front =>
      simp only [List.cons_append, List.cons.injEq] at split
      obtain ⟨rfl, split⟩ := split
      rcases List.append_eq_append_iff.mp split with ⟨more, rfl, last⟩ | ⟨more, whole, -⟩
      · rcases List.append_eq_singleton_iff.mp last.symm with ⟨rfl, -⟩ | ⟨rfl, -⟩
        · simp [opens, closed.settled]
        · simp [opens, closes, closed.settled]
      · have := closed.nonneg front more whole
        rw [depth_cons, opens]
        omega
  bare := by
    intro front t' back split outside
    cases front with
    | nil =>
      simp only [List.cons_append, List.nil_append, List.cons.injEq] at split
      rw [← split.1, free]
    | cons first front =>
      -- past the opening bracket the depth is positive
      simp only [List.cons_append, List.cons.injEq] at split
      obtain ⟨rfl, split⟩ := split
      rw [depth_cons, opens] at outside
      rcases List.append_eq_append_iff.mp split with ⟨more, rfl, last⟩ | ⟨more, whole, -⟩
      · rcases List.append_eq_singleton_iff.mp last.symm with ⟨rfl, -⟩ | ⟨-, absurd⟩
        · simp [closed.settled] at outside
        · simp at absurd
      · have := closed.nonneg front more whole
        omega

end Closed

theorem not_closed_of_bare (settled : depth ts = 0) (stopped : stop t = true) :
    ¬Closed stop (ts ++ t :: us) := by
  intro closed
  have free := closed.bare ts t us rfl settled
  simp [stopped] at free

/-- The first of the tokens in `stop` that occurs bare divides a list in one way. -/
theorem split_first (first : Closed stop ts) (first' : Closed stop ts') (stopped : stop t = true)
    (stopped' : stop u = true) (same : ts ++ t :: us = ts' ++ u :: us') :
    ts = ts' ∧ t = u ∧ us = us' := by
  rcases List.append_eq_append_iff.mp same with ⟨more, rfl, rest⟩ | ⟨more, rfl, rest⟩
  · cases more with
    | nil => simpa using rest
    | cons t' more =>
      simp only [List.cons_append, List.cons.injEq] at rest
      obtain ⟨rfl, -⟩ := rest
      exact absurd first' (not_closed_of_bare first.settled stopped)
  · cases more with
    | nil => simpa [eq_comm] using rest
    | cons t' more =>
      simp only [List.cons_append, List.cons.injEq] at rest
      obtain ⟨rfl, -⟩ := rest
      exact absurd first (not_closed_of_bare first'.settled stopped')

theorem not_closed_of_end (flat : t.nesting = 0) (closed : Closed stop us)
    (stopped : stop t = true) : ¬Closed stop (ts ++ t :: us) := by
  intro whole
  have settled : depth ts = 0 := by
    have all := whole.settled
    simp only [depth_append, depth_cons, flat, closed.settled] at all
    omega
  exact not_closed_of_bare settled stopped whole

theorem split_last (last : Closed stop us) (last' : Closed stop us') (stopped : stop t = true)
    (stopped' : stop u = true) (flat : t.nesting = 0) (flat' : u.nesting = 0)
    (same : ts ++ t :: us = ts' ++ u :: us') : ts = ts' ∧ t = u ∧ us = us' := by
  rcases List.append_eq_append_iff.mp same with ⟨more, rfl, rest⟩ | ⟨more, rfl, rest⟩
  · cases more with
    | nil => simpa using rest
    | cons t' more =>
      simp only [List.cons_append, List.cons.injEq] at rest
      obtain ⟨-, rfl⟩ := rest
      exact absurd last (not_closed_of_end flat' last' stopped')
  · cases more with
    | nil => simpa [eq_comm] using rest
    | cons t' more =>
      simp only [List.cons_append, List.cons.injEq] at rest
      obtain ⟨-, rfl⟩ := rest
      exact absurd last' (not_closed_of_end flat last stopped)

end StarQuery.Sql
