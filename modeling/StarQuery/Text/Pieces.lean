import StarQuery.Text.CharClass

/-! Trimming text, and cutting it at a separator. -/
namespace StarQuery.Text

def trimChars (cs : List Char) : List Char :=
  ((cs.dropWhile isBlank).reverse.dropWhile isBlank).reverse

def trim (s : String) : String := String.ofList (trimChars s.toList)

def splitChars (sep : Char) : List Char → List (List Char)
  | [] => [[]]
  | c :: rest =>
    if c = sep then [] :: splitChars sep rest
    else
      match splitChars sep rest with
      | [] => [[c]]
      | piece :: pieces => (c :: piece) :: pieces

def split (sep : Char) (s : String) : List String :=
  (splitChars sep s.toList).map String.ofList

def cutChars (sep : Char) : List Char → Option (List Char × List Char)
  | [] => none
  | c :: rest =>
    if c = sep then some ([], rest)
    else (cutChars sep rest).map fun (before, after) => (c :: before, after)

def cut (sep : Char) (s : String) : Option (String × String) :=
  (cutChars sep s.toList).map fun (before, after) => (String.ofList before, String.ofList after)

def joinChars (sep : List Char) : List (List Char) → List Char
  | [] => []
  | [piece] => piece
  | piece :: pieces => piece ++ sep ++ joinChars sep pieces

theorem cutChars_append {sep : Char} {before : List Char} (free : sep ∉ before)
    (after : List Char) : cutChars sep (before ++ sep :: after) = some (before, after) := by
  induction before with
  | nil => simp [cutChars]
  | cons c rest ih =>
    rw [List.mem_cons, not_or] at free
    rw [List.cons_append, cutChars, if_neg (Ne.symm free.1), ih free.2, Option.map_some]

theorem parts_of_first {sep : Char} {x y a b : List Char} (hx : sep ∉ x) (hy : sep ∉ y)
    (same : x ++ sep :: a = y ++ sep :: b) : x = y ∧ a = b := by
  have cut := cutChars_append hx a
  rw [same, cutChars_append hy b] at cut
  cases cut
  exact ⟨rfl, rfl⟩

theorem parts_of_last {sep : Char} {x y a b : List Char} (ha : sep ∉ a) (hb : sep ∉ b)
    (same : x ++ sep :: a = y ++ sep :: b) : x = y ∧ a = b := by
  have reversed := congrArg List.reverse same
  simp only [List.reverse_append, List.reverse_cons, List.append_assoc, List.singleton_append]
    at reversed
  obtain ⟨after, before⟩ := parts_of_first (by simpa using ha) (by simpa using hb) reversed
  exact ⟨List.reverse_inj.mp before, List.reverse_inj.mp after⟩

theorem splitChars_ne_nil (sep : Char) (cs : List Char) : splitChars sep cs ≠ [] := by
  cases cs with
  | nil => simp [splitChars]
  | cons c rest =>
    by_cases h : c = sep
    · simp [splitChars, h]
    · simp only [splitChars, h, if_false]
      split <;> simp

end StarQuery.Text
