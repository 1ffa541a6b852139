import StarQuery.Sql.Dialect

/-!
Text literals as databases read them by default. A doubled quote stands for one in all of them; in
MySQL a backslash makes an escape of the character behind it, and T-SQL takes an `N` in front. Main
statement: a quoted text is read back as it was, whatever follows it, except in MySQL, which does so
only for texts whose backslashes all stand before wildcards.
-/
namespace StarQuery.Sql

def wildcards : List Char := ['%', '_']

def controls : List (Char × Char) :=
  [('0', '\x00'), ('b', '\x08'), ('n', '\n'), ('r', '\r'), ('t', '\t'), ('Z', '\x1a')]

def escaped (c : Char) : List Char :=
  if c ∈ wildcards then ['\\', c] else [(controls.lookup c).getD c]

/-- A text literal behind its opening quote: the text, and what comes after the closing quote. -/
def readBody (escapes : Bool) : List Char → Option (List Char × List Char)
  | [] => none
  | [c] => if c = '\'' then some ([], []) else none
  | c :: next :: rest =>
    if c = '\'' then
      if next = '\'' then (readBody escapes rest).map (Prod.map ('\'' :: ·) id)
      else some ([], next :: rest)
    else if escapes && c == '\\' then (readBody escapes rest).map (Prod.map (escaped next ++ ·) id)
    else (readBody escapes (next :: rest)).map (Prod.map (c :: ·) id)

namespace Dialect

def escapes : Dialect → Bool
  | .mySql => true
  | .duckDb | .postgres | .tSql => false

def behindQuote? (d : Dialect) : List Char → Option (List Char)
  | '\'' :: rest => some rest
  | 'N' :: '\'' :: rest => if d = .tSql then some rest else none
  | _ => none

def readText (d : Dialect) (cs : List Char) : Option (String × List Char) :=
  (d.behindQuote? cs).bind fun body => (readBody d.escapes body).map (Prod.map String.ofList id)

end Dialect

/-- Every backslash stands before a wildcard. -/
def harmless : List Char → Bool
  | [] => true
  | c :: rest => (c != '\\' || rest.head?.any (· ∈ wildcards)) && harmless rest

section

variable {escapes : Bool} {c : Char} {rest : List Char}

theorem readBody_quote (apart : '\'' ∉ rest.head?) :
    readBody escapes ('\'' :: rest) = some ([], rest) := by
  cases rest with
  | nil => rfl
  | cons next rest =>
    have other : next ≠ '\'' := by simpa using apart
    rw [readBody, if_pos rfl, if_neg other]

theorem readBody_plain (inside : c ≠ '\'') (plain : (escapes && c == '\\') = false) :
    readBody escapes (c :: rest) = (readBody escapes rest).map (Prod.map (c :: ·) id) := by
  cases rest with
  | nil => rw [readBody, readBody, if_neg inside, Option.map_none]
  | cons next rest => rw [readBody, if_neg inside, plain, if_neg Bool.false_ne_true]

theorem readBody_wildcard (wild : c ∈ wildcards) :
    readBody true ('\\' :: c :: rest) =
      (readBody true (c :: rest)).map (Prod.map ('\\' :: ·) id) := by
  have inside : c ≠ '\'' := by rintro rfl; exact absurd wild (by decide)
  have plain : (true && c == '\\') = false := by
    rw [Bool.true_and, beq_eq_false_iff_ne]
    rintro rfl
    exact absurd wild (by decide)
  rw [readBody_plain inside plain, Option.map_map, readBody, if_neg (by decide), if_pos (by decide),
    escaped, if_pos wild]
  rfl

end

theorem readBody_doubled {escapes : Bool} {cs rest : List Char} (apart : '\'' ∉ rest.head?)
    (safe : escapes = true → harmless cs = true) :
    readBody escapes (doubled '\'' cs ++ '\'' :: rest) = some (cs, rest) := by
  induction cs with
  | nil => exact readBody_quote apart
  | cons c cs ih =>
    have safeRest : escapes = true → harmless cs = true := fun on =>
      (Bool.and_eq_true_iff.mp (safe on)).2
    rw [doubled, List.flatMap_cons, ← doubled, List.append_assoc]
    by_cases quote : c = '\''
    · rw [if_pos quote, List.cons_append, List.cons_append, List.nil_append, readBody, if_pos quote,
        if_pos quote, ih safeRest, quote]
      rfl
    · rw [if_neg quote, List.singleton_append]
      by_cases escape : (escapes && c == '\\') = true
      · obtain ⟨rfl, backslash⟩ := Bool.and_eq_true_iff.mp escape
        obtain rfl := eq_of_beq backslash
        -- the character behind the backslash is a wildcard, so it is not doubled
        obtain ⟨w, next, wild⟩ : ∃ w, cs.head? = some w ∧ w ∈ wildcards := by
          simpa [harmless, Option.any_eq_true] using (Bool.and_eq_true_iff.mp (safe rfl)).1
        obtain ⟨more, rfl⟩ := List.head?_eq_some_iff.mp next
        have single : w ≠ '\'' := by rintro rfl; exact absurd wild (by decide)
        rw [doubled, List.flatMap_cons, if_neg single] at ih ⊢
        rw [List.singleton_append, List.cons_append, readBody_wildcard wild]
        rw [List.singleton_append, List.cons_append] at ih
        rw [ih safeRest]
        rfl
      · rw [readBody_plain quote (by simpa using escape), ih safeRest]
        rfl

/-- Quotes count once and other characters twice, so that a doubled quote counts as any other
character does. -/
def cost : List Char → Nat
  | [] => 0
  | c :: rest => (if c = '\'' then 1 else 2) + cost rest

theorem cost_doubled (cs : List Char) : cost (doubled '\'' cs) = 2 * cs.length := by
  induction cs with
  | nil => rfl
  | cons c cs ih =>
    rw [doubled, List.flatMap_cons, ← doubled, List.length_cons]
    by_cases quote : c = '\''
    · rw [if_pos quote, quote, List.cons_append, List.cons_append, List.nil_append, cost,
        cost, if_pos rfl, ih]
      omega
    · rw [if_neg quote, List.singleton_append, cost, if_neg quote, ih]
      omega

theorem harmless_of_doubled {cs : List Char} (safe : harmless (doubled '\'' cs) = true) :
    harmless cs = true := by
  induction cs with
  | nil => rfl
  | cons c cs ih =>
    rw [doubled, List.flatMap_cons, ← doubled] at safe
    rw [harmless, Bool.and_eq_true]
    by_cases quote : c = '\''
    · rw [if_pos quote, List.cons_append, List.cons_append, List.nil_append, harmless, harmless,
        Bool.and_eq_true, Bool.and_eq_true] at safe
      exact ⟨by rw [quote]; rfl, ih safe.2.2⟩
    · have sameHead : (doubled '\'' cs).head? = cs.head? := by
        cases cs with
        | nil => rfl
        | cons next cs => by_cases h : next = '\'' <;> simp [doubled, h]
      rw [if_neg quote, List.singleton_append, harmless, Bool.and_eq_true, sameHead] at safe
      exact ⟨safe.1, ih safe.2⟩

theorem readBody_ok {cs v r : List Char} (read : readBody true cs = some (v, r)) :
    ∃ body, cs = body ++ '\'' :: r ∧ 2 * v.length ≤ cost body ∧
      (2 * v.length = cost body → harmless body = true) := by
  induction cs using readBody.induct true generalizing v with
  | case1 => cases read
  | case2 =>
    cases read
    exact ⟨[], rfl, Nat.le_refl 0, fun _ => rfl⟩
  | case3 c inside => simp [readBody, inside] at read
  | case4 rest ih =>
    rw [readBody, if_pos rfl, if_pos rfl] at read
    obtain ⟨⟨v, _⟩, more, made⟩ := Option.map_eq_some_iff.mp read
    cases made
    obtain ⟨body, rfl, enough, tight⟩ := ih more
    refine ⟨'\'' :: '\'' :: body, rfl, ?_, fun exact => ?_⟩
    · rw [cost, cost, if_pos rfl, List.length_cons]
      omega
    · rw [cost, cost, if_pos rfl, List.length_cons] at exact
      exact tight (by omega)
  | case5 next rest other =>
    rw [readBody, if_pos rfl, if_neg other] at read
    cases read
    exact ⟨[], rfl, Nat.le_refl 0, fun _ => rfl⟩
  | case6 c next rest inside escape ih =>
    rw [readBody, if_neg inside, if_pos escape] at read
    obtain ⟨⟨v, _⟩, more, made⟩ := Option.map_eq_some_iff.mp read
    cases made
    obtain ⟨body, rfl, enough, tight⟩ := ih more
    refine ⟨c :: next :: body, rfl, ?_⟩
    rw [cost, cost, if_neg inside, List.length_append, escaped]
    -- Only the escape of a wildcard stands for both of its characters.
    by_cases wild : next ∈ wildcards
    · have single : next ≠ '\'' := by rintro rfl; exact absurd wild (by decide)
      have plain : (next != '\\') = true := by
        rw [bne_iff_ne]
        rintro rfl
        exact absurd wild (by decide)
      rw [if_pos wild, if_neg single, List.length_cons, List.length_singleton]
      refine ⟨by omega, fun exact => ?_⟩
      simp [harmless, wild, plain, tight (by omega)]
    · rw [if_neg wild, List.length_singleton]
      split <;> exact ⟨by omega, fun exact => by omega⟩
  | case7 c next rest inside plain ih =>
    rw [readBody, if_neg inside, if_neg plain] at read
    obtain ⟨⟨v, _⟩, more, made⟩ := Option.map_eq_some_iff.mp read
    cases made
    obtain ⟨body, split, enough, tight⟩ := ih more
    refine ⟨c :: body, by rw [split]; rfl, ?_⟩
    rw [cost, if_neg inside, List.length_cons]
    refine ⟨by omega, fun exact => ?_⟩
    have other : (c != '\\') = true := by simpa using plain
    simp [harmless, other, tight (by omega)]

theorem Dialect.textMark_cases (d : Dialect) (s : String) :
    d.textMark s = [] ∨ d = .tSql ∧ d.textMark s = ['N'] := by
  cases d with
  | tSql =>
    rw [textMark]
    split
    · exact Or.inl rfl
    · exact Or.inr ⟨rfl, rfl⟩
  | _ => exact Or.inl rfl

theorem Dialect.behindQuote?_quoteText (d : Dialect) (s : String) (rest : List Char) :
    d.behindQuote? (d.quoteText s ++ rest) = some (doubled '\'' s.toList ++ '\'' :: rest) := by
  have body : doubled '\'' s.toList ++ ['\''] ++ rest = doubled '\'' s.toList ++ '\'' :: rest := by
    rw [List.append_assoc, List.singleton_append]
  rw [quoteText, ← body]
  rcases d.textMark_cases s with unmarked | ⟨rfl, marked⟩
  · rw [unmarked]
    rfl
  · rw [marked]
    rfl

/-- A quoted text is read back as it was, and nothing beyond it is read, exactly if the database is
not MySQL or every backslash stands before a wildcard. -/
theorem readText_quoteText_iff (d : Dialect) (s : String) {rest : List Char}
    (apart : '\'' ∉ rest.head?) :
    d.readText (d.quoteText s ++ rest) = some (s, rest) ↔
      (d = .mySql → harmless s.toList = true) := by
  have mine : d.escapes = true ↔ d = .mySql := by cases d <;> simp [Dialect.escapes]
  rw [Dialect.readText, d.behindQuote?_quoteText, Option.bind_some]
  constructor
  · rintro read rfl
    obtain ⟨⟨v, r⟩, read, made⟩ := Option.map_eq_some_iff.mp read
    cases made
    obtain ⟨body, same, enough, tight⟩ := readBody_ok read
    obtain rfl := List.append_cancel_right same
    refine harmless_of_doubled (tight ?_)
    rw [cost_doubled, String.toList_ofList]
  · intro safe
    rw [readBody_doubled apart fun on => safe (mine.mp on)]
    simp

theorem readText_quoteText_discount :
    '\'' ∉ [')'].head? ∧
      Dialect.mySql.readText (Dialect.mySql.quoteText "it's 50\\%" ++ [')']) =
        some ("it's 50\\%", [')']) := by
  have apart : '\'' ∉ [')'].head? := by decide
  exact ⟨apart, (readText_quoteText_iff .mySql "it's 50\\%" apart).mpr fun _ => by decide +kernel⟩

/-- In MySQL a backslash takes away the meaning of the quote behind it: the literal of this text
ends after the first quote, and the rest of the text becomes part of the query. -/
theorem not_all_texts_read_back :
    ¬ ∀ (d : Dialect) (s : String) (rest : List Char), '\'' ∉ rest.head? →
      d.readText (d.quoteText s ++ rest) = some (s, rest) := by
  intro all
  have read := all .mySql "\\' OR 1=1 -- " [] (by decide)
  have early : Dialect.mySql.readText (Dialect.mySql.quoteText "\\' OR 1=1 -- " ++ []) =
      some ("'", " OR 1=1 -- '".toList) := by decide +kernel
  rw [early] at read
  exact absurd read (by decide)

end StarQuery.Sql
