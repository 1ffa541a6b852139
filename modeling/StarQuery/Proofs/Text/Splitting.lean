import Mathlib.Data.List.Induction
import StarQuery.Text.Pieces

/-!
Text that is cut at a separator and trimmed. Main statements: texts joined by the separator have the
pieces of both, and blanks around a text make no difference to its trimmed pieces.
-/
namespace StarQuery.Text

variable {sep c : Char} {cs : List Char}

theorem splitChars_append (sep : Char) (as bs : List Char) :
    splitChars sep (as ++ sep :: bs) = splitChars sep as ++ splitChars sep bs := by
  induction as with
  | nil => simp [splitChars]
  | cons a rest ih =>
    rw [List.cons_append, splitChars, splitChars]
    by_cases h : a = sep
    · rw [if_pos h, if_pos h, ih, List.cons_append]
    · rw [if_neg h, if_neg h, ih]
      cases hs : splitChars sep rest with
      | nil => exact absurd hs (splitChars_ne_nil sep rest)
      | cons piece pieces => rfl

theorem splitChars_free (free : sep ∉ cs) : splitChars sep cs = [cs] := by
  induction cs with
  | nil => rfl
  | cons a rest ih =>
    rw [List.mem_cons, not_or] at free
    rw [splitChars, if_neg (Ne.symm free.1), ih free.2]

theorem splitChars_cons (other : c ≠ sep) (cs : List Char) :
    ∃ piece pieces, splitChars sep cs = piece :: pieces ∧
      splitChars sep (c :: cs) = (c :: piece) :: pieces := by
  obtain ⟨piece, pieces, hs⟩ := List.exists_cons_of_ne_nil (splitChars_ne_nil sep cs)
  exact ⟨piece, pieces, hs, by rw [splitChars, if_neg other, hs]⟩

theorem splitChars_concat (other : c ≠ sep) (cs : List Char) :
    ∃ pieces piece, splitChars sep cs = pieces ++ [piece] ∧
      splitChars sep (cs ++ [c]) = pieces ++ [piece ++ [c]] := by
  induction cs with
  | nil => exact ⟨[], [], rfl, splitChars_free (by simpa using other.symm)⟩
  | cons a rest ih =>
    obtain ⟨pieces, piece, hs, hc⟩ := ih
    by_cases h : a = sep
    · refine ⟨[] :: pieces, piece, ?_, ?_⟩
      · rw [splitChars, if_pos h, hs, List.cons_append]
      · rw [List.cons_append, splitChars, if_pos h, hc, List.cons_append]
    · cases pieces with
      | nil =>
        refine ⟨[], a :: piece, ?_, ?_⟩
        · rw [splitChars, if_neg h, hs]
          rfl
        · rw [List.cons_append, splitChars, if_neg h, hc]
          rfl
      | cons first pieces =>
        refine ⟨(a :: first) :: pieces, piece, ?_, ?_⟩
        · rw [splitChars, if_neg h, hs]
          rfl
        · rw [List.cons_append, splitChars, if_neg h, hc]
          rfl

theorem splitChars_prefix (free : sep ∉ cs) (rest : List Char) :
    ∃ piece pieces, splitChars sep rest = piece :: pieces ∧
      splitChars sep (cs ++ rest) = (cs ++ piece) :: pieces := by
  induction cs with
  | nil =>
    obtain ⟨piece, pieces, hs⟩ := List.exists_cons_of_ne_nil (splitChars_ne_nil sep rest)
    exact ⟨piece, pieces, hs, hs⟩
  | cons a cs ih =>
    rw [List.mem_cons, not_or] at free
    obtain ⟨piece, pieces, hs, hc⟩ := ih free.2
    refine ⟨piece, pieces, hs, ?_⟩
    rw [List.cons_append, splitChars, if_neg (Ne.symm free.1), hc]
    rfl

theorem split_free {a : String} (free : sep ∉ a.toList) : split sep a = [a] := by
  rw [split, splitChars_free free, List.map_singleton, String.ofList_toList]

theorem free_of_split {a piece : String} (single : split sep a = [piece]) :
    sep ∉ a.toList := by
  intro member
  obtain ⟨before, after, whole⟩ := List.append_of_mem member
  have two := congrArg List.length single
  have first := List.length_pos_iff.mpr (splitChars_ne_nil sep before)
  have second := List.length_pos_iff.mpr (splitChars_ne_nil sep after)
  rw [split, whole, splitChars_append, List.length_map, List.length_append,
    List.length_singleton] at two
  omega

theorem split_prefix {a : String} (free : sep ∉ a.toList) (b : String) :
    ∃ piece pieces, split sep b = piece :: pieces ∧
      split sep (a ++ b) = (a ++ piece) :: pieces := by
  obtain ⟨piece, pieces, hb, hab⟩ := splitChars_prefix free b.toList
  refine ⟨String.ofList piece, pieces.map String.ofList, ?_, ?_⟩
  · rw [split, hb, List.map_cons]
  · rw [split, String.toList_append, hab, List.map_cons, String.ofList_append,
      String.ofList_toList]

theorem trimChars_cons (blank : isBlank c = true) (cs : List Char) :
    trimChars (c :: cs) = trimChars cs := by
  rw [trimChars, List.dropWhile_cons_of_pos blank, trimChars]

theorem trimChars_concat (blank : isBlank c = true) (cs : List Char) :
    trimChars (cs ++ [c]) = trimChars cs := by
  rw [trimChars, List.dropWhile_append, trimChars]
  split
  · next all =>
    rw [List.isEmpty_iff.mp all, List.dropWhile_cons_of_pos blank]
    rfl
  · rw [List.reverse_concat, List.dropWhile_cons_of_pos blank]

theorem dropWhile_of_solid (solid : ∀ c ∈ cs, isBlank c = false) : cs.dropWhile isBlank = cs := by
  cases cs with
  | nil => rfl
  | cons c rest => exact List.dropWhile_cons_of_neg (by simp [solid c List.mem_cons_self])

theorem trimChars_of_solid (solid : ∀ c ∈ cs, isBlank c = false) : trimChars cs = cs := by
  have reversed : ∀ c ∈ cs.reverse, isBlank c = false := by
    intro c member
    exact solid c (List.mem_reverse.mp member)
  rw [trimChars, dropWhile_of_solid solid, dropWhile_of_solid reversed, List.reverse_reverse]

def trimmedPieces (sep : Char) (cs : List Char) : List (List Char) :=
  (splitChars sep cs).map trimChars

theorem trimmedPieces_cons (solid : isBlank sep = false) (blank : isBlank c = true)
    (cs : List Char) : trimmedPieces sep (c :: cs) = trimmedPieces sep cs := by
  have other : c ≠ sep := by
    rintro rfl
    rw [blank] at solid
    cases solid
  obtain ⟨piece, pieces, hs, hc⟩ := splitChars_cons other cs
  rw [trimmedPieces, trimmedPieces, hs, hc, List.map_cons, List.map_cons, trimChars_cons blank]

theorem trimmedPieces_concat (solid : isBlank sep = false) (blank : isBlank c = true)
    (cs : List Char) : trimmedPieces sep (cs ++ [c]) = trimmedPieces sep cs := by
  have other : c ≠ sep := by
    rintro rfl
    rw [blank] at solid
    cases solid
  obtain ⟨pieces, piece, hs, hc⟩ := splitChars_concat other cs
  rw [trimmedPieces, trimmedPieces, hs, hc, List.map_append, List.map_append, List.map_singleton,
    List.map_singleton, trimChars_concat blank]

theorem trimmedPieces_dropWhile (solid : isBlank sep = false) (cs : List Char) :
    trimmedPieces sep (cs.dropWhile isBlank) = trimmedPieces sep cs := by
  induction cs with
  | nil => rfl
  | cons c cs ih =>
    by_cases blank : isBlank c = true
    · rw [List.dropWhile_cons_of_pos blank, ih, trimmedPieces_cons solid blank]
    · rw [List.dropWhile_cons_of_neg blank]

theorem trimmedPieces_reverse_dropWhile (solid : isBlank sep = false) (cs : List Char) :
    trimmedPieces sep (cs.reverse.dropWhile isBlank).reverse = trimmedPieces sep cs := by
  induction cs using List.reverseRecOn with
  | nil => rfl
  | append_singleton cs c ih =>
    rw [List.reverse_concat]
    by_cases blank : isBlank c = true
    · rw [List.dropWhile_cons_of_pos blank, ih, trimmedPieces_concat solid blank]
    · rw [List.dropWhile_cons_of_neg blank, List.reverse_cons, List.reverse_reverse]

/-- Blanks around a text are blanks around its first or last piece. -/
theorem trimmedPieces_trimChars (solid : isBlank sep = false) (cs : List Char) :
    trimmedPieces sep (trimChars cs) = trimmedPieces sep cs := by
  rw [trimChars, trimmedPieces_reverse_dropWhile solid, trimmedPieces_dropWhile solid]

end StarQuery.Text
