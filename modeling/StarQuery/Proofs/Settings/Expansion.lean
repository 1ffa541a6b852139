import Mathlib.Data.List.TakeWhile
import StarQuery.Settings.Placeholder

/-!
What a template with placeholders stands for. Main statements: every text is put together from
plain texts, variables in braces, bare variables and lone dollar signs, up to a brace that is never
closed; and expanding these gives the plain texts, the values of the variables as they are and the
dollar signs, one after the other, unless a variable is not set: then the first such one is the
error.
-/
namespace StarQuery.Settings

inductive Part where
  | plain (text : String)
  | braced (name : String)
  | bare (name : String)
  | dollar
  deriving DecidableEq

/-- The parts one after the other, each ending where it is meant to. A bare name takes in all name
characters that follow it, and a dollar sign stands alone only if neither a brace nor a name
follows. -/
inductive Spells : List Part → List Char → Prop where
  | nil : Spells [] []
  | plain {text : String} {parts : List Part} {rest : List Char} (free : '$' ∉ text.toList)
      (more : Spells parts rest) : Spells (.plain text :: parts) (text.toList ++ rest)
  | braced {name : String} {parts : List Part} {rest : List Char} (inside : '\x7d' ∉ name.toList)
      (more : Spells parts rest) :
      Spells (.braced name :: parts) ('$' :: '\x7b' :: (name.toList ++ '\x7d' :: rest))
  | bare {name : String} {parts : List Part} {rest : List Char} (named : name ≠ "")
      (inside : ∀ c ∈ name.toList, isNameChar c = true)
      (ends : ∀ c ∈ rest.head?, isNameChar c = false) (more : Spells parts rest) :
      Spells (.bare name :: parts) ('$' :: (name.toList ++ rest))
  | dollar {parts : List Part} {rest : List Char}
      (alone : ∀ c ∈ rest.head?, c ≠ '\x7b' ∧ isNameChar c = false) (more : Spells parts rest) :
      Spells (.dollar :: parts) ('$' :: rest)

namespace Part

def name? : Part → Option String
  | .plain _ => none
  | .braced name => some name
  | .bare name => some name
  | .dollar => none

def shown (env : Environment) : Part → String
  | .plain text => text
  | .braced name => (env name).getD ""
  | .bare name => (env name).getD ""
  | .dollar => "$"

def pieces : Part → List Piece
  | .plain text => text.toList.map .plain
  | .braced name => [.variable name.toList]
  | .bare name => [.variable name.toList]
  | .dollar => [.plain '$']

end Part

def variableNames (parts : List Part) : List String := parts.filterMap Part.name?

variable {env : Environment} {name rest text : List Char} {parts : List Part} {c : Char}

theorem pieces_cons (other : c ≠ '$') (rest : List Char) :
    pieces (c :: rest) = .plain c :: pieces rest := by
  rw [pieces]
  · exact fun _ dollar => absurd dollar other
  · exact other

theorem pieces_plain (free : '$' ∉ text) (rest : List Char) :
    pieces (text ++ rest) = text.map .plain ++ pieces rest := by
  induction text with
  | nil => rfl
  | cons c text ih =>
    rw [List.mem_cons, not_or] at free
    rw [List.cons_append, pieces_cons (Ne.symm free.1), ih free.2, List.map_cons, List.cons_append]

theorem takeWhile_until {p : Char → Bool} (inside : ∀ c ∈ name, p c = true)
    (ends : ∀ c ∈ rest.head?, p c = false) :
    (name ++ rest).takeWhile p = name ∧ (name ++ rest).dropWhile p = rest := by
  rw [List.takeWhile_append_of_pos inside, List.dropWhile_append_of_pos inside]
  cases rest with
  | nil => exact ⟨List.append_nil name, rfl⟩
  | cons c rest =>
    have stops : ¬p c = true := by simp [ends c rfl]
    rw [List.takeWhile_cons_of_neg stops, List.dropWhile_cons_of_neg stops]
    exact ⟨List.append_nil name, rfl⟩

theorem takeWhile_closed (inside : '\x7d' ∉ name) (rest : List Char) :
    (name ++ '\x7d' :: rest).takeWhile (· != '\x7d') = name ∧
      (name ++ '\x7d' :: rest).dropWhile (· != '\x7d') = '\x7d' :: rest := by
  refine takeWhile_until (fun c member => bne_iff_ne.mpr fun same => inside (same ▸ member)) ?_
  rintro c ⟨⟩
  rfl

theorem pieces_braced (inside : '\x7d' ∉ name) (rest : List Char) :
    pieces ('$' :: '\x7b' :: (name ++ '\x7d' :: rest)) = .variable name :: pieces rest := by
  obtain ⟨taken, left⟩ := takeWhile_closed inside rest
  rw [pieces, taken, left]
  rfl

/-- A dollar sign without a brace takes in the name characters behind it. -/
theorem pieces_unbraced (brace : ∀ c ∈ text.head?, c ≠ '\x7b') :
    pieces ('$' :: text) =
      if (text.takeWhile isNameChar).isEmpty then .plain '$' :: pieces text
      else .variable (text.takeWhile isNameChar) :: pieces (text.dropWhile isNameChar) := by
  rw [pieces]
  rintro rest rfl
  exact brace '\x7b' rfl rfl

theorem isNameChar_eq (c : Char) :
    isNameChar c =
      ((Text.alphabetic.bounds.toList.countP (· ≤ c.toNat) % 2 == 1 ||
        Text.numeral.bounds.toList.countP (· ≤ c.toNat) % 2 == 1) || c == '_') := by
  rw [isNameChar, Text.isAlphanumeric, Text.isAlphabetic, Text.isNumeral,
    Text.CharClass.contains_eq, Text.CharClass.contains_eq]

theorem isNameChar_brace : isNameChar '\x7b' = false := by
  rw [isNameChar_eq]
  decide +kernel

theorem pieces_bare (named : name ≠ []) (inside : ∀ c ∈ name, isNameChar c = true)
    (ends : ∀ c ∈ rest.head?, isNameChar c = false) :
    pieces ('$' :: (name ++ rest)) = .variable name :: pieces rest := by
  obtain ⟨taken, left⟩ := takeWhile_until inside ends
  have brace : ∀ c ∈ (name ++ rest).head?, c ≠ '\x7b' := by
    obtain ⟨first, others, rfl⟩ := List.exists_cons_of_ne_nil named
    rintro c ⟨⟩ rfl
    exact absurd (inside '\x7b' List.mem_cons_self) (by simp [isNameChar_brace])
  rw [pieces_unbraced brace, taken, left, if_neg (by simpa using named)]

theorem pieces_dollar (alone : ∀ c ∈ rest.head?, c ≠ '\x7b' ∧ isNameChar c = false) :
    pieces ('$' :: rest) = .plain '$' :: pieces rest := by
  have none : rest.takeWhile isNameChar = [] :=
    (takeWhile_until (@List.forall_mem_nil _ _) fun c member => (alone c member).2).1
  rw [pieces_unbraced fun c member => (alone c member).1, none]
  rfl

theorem pieces_spelled (spelled : Spells parts text) : pieces text = parts.flatMap Part.pieces := by
  induction spelled with
  | nil =>
    rw [pieces]
    rfl
  | plain free more ih =>
    rw [pieces_plain free, ih]
    rfl
  | braced inside more ih =>
    rw [pieces_braced inside, ih]
    rfl
  | bare named inside ends more ih =>
    rw [pieces_bare (by simpa using named) inside ends, ih]
    rfl
  | dollar alone more ih =>
    rw [pieces_dollar alone, ih]
    rfl

theorem head?_of_append {before after : List Char} {p : Char → Prop}
    (begins : ∀ c ∈ (before ++ after).head?, p c) : ∀ c ∈ before.head?, p c := by
  cases before with
  | nil => nofun
  | cons first before => exact begins

/-- Every text is a template up to a brace that is never closed. -/
theorem exists_spelled (text : List Char) :
    ∃ parts before unclosed, text = before ++ unclosed ∧ Spells parts before ∧
      (unclosed = [] ∨ ∃ name, '\x7d' ∉ name ∧ unclosed = '$' :: '\x7b' :: name) := by
  fun_induction pieces text with
  | case1 => exact ⟨[], [], [], rfl, .nil, .inl rfl⟩
  | case2 rest ih =>
    by_cases closed : '\x7d' ∈ rest
    · obtain ⟨name, more, rfl, inside⟩ := List.eq_append_cons_of_mem closed
      rw [(takeWhile_closed inside more).2] at ih
      obtain ⟨parts, before, unclosed, whole, spelled, ends⟩ := ih
      obtain rfl : more = before ++ unclosed := whole
      refine ⟨.braced (String.ofList name) :: parts, '$' :: '\x7b' :: (name ++ '\x7d' :: before),
        unclosed, by simp, ?_, ends⟩
      have braced : '\x7d' ∉ (String.ofList name).toList := by rwa [String.toList_ofList]
      simpa using Spells.braced braced spelled
    · exact ⟨[], [], '$' :: '\x7b' :: rest, rfl, .nil, .inr ⟨rest, closed, rfl⟩⟩
  | case3 rest brace none ih =>
    have alone : ∀ c ∈ rest.head?, c ≠ '\x7b' ∧ isNameChar c = false := by
      cases rest with
      | nil => nofun
      | cons first rest =>
        rintro c ⟨⟩
        refine ⟨fun same => brace rest (by rw [same]), ?_⟩
        simpa [List.takeWhile_cons] using none
    obtain ⟨parts, before, unclosed, rfl, spelled, ends⟩ := ih
    exact ⟨.dollar :: parts, '$' :: before, unclosed, rfl,
      .dollar (head?_of_append alone) spelled, ends⟩
  | case4 rest brace named ih =>
    obtain ⟨parts, before, unclosed, whole, spelled, ends⟩ := ih
    have word : ∀ c ∈ (String.ofList (rest.takeWhile isNameChar)).toList, isNameChar c = true := by
      rw [String.toList_ofList]
      exact fun c => List.mem_takeWhile_imp
    have stops : ∀ c ∈ (before ++ unclosed).head?, isNameChar c = false := by
      have stops := List.head?_dropWhile_not isNameChar rest
      intro c member
      simp only [whole, Option.mem_def.mp member] at stops
      exact stops
    refine ⟨.bare (String.ofList (rest.takeWhile isNameChar)) :: parts,
      '$' :: (rest.takeWhile isNameChar ++ before), unclosed, ?_, ?_, ends⟩
    · rw [List.cons_append, List.append_assoc, ← whole, List.takeWhile_append_dropWhile]
    · have nonempty : String.ofList (rest.takeWhile isNameChar) ≠ "" := by simpa using named
      have written := Spells.bare nonempty word (head?_of_append stops) spelled
      rwa [String.toList_ofList] at written
  | case5 c rest brace dollar ih =>
    obtain ⟨parts, before, unclosed, rfl, spelled, ends⟩ := ih
    refine ⟨.plain (String.ofList [c]) :: parts, c :: before, unclosed, rfl, ?_, ends⟩
    have free : '$' ∉ (String.ofList [c]).toList := by
      simpa using Ne.symm dollar
    simpa using Spells.plain free spelled

theorem expandAll_plain (env : Environment) (text : List Char) :
    expandAll env (text.map .plain) = .ok text := by
  induction text with
  | nil => rfl
  | cons c text ih =>
    rw [List.map_cons, expandAll, ih]
    rfl

theorem expandAll_part_of_set {part : Part}
    (set : ∀ name ∈ part.name?, (env name).isSome = true) :
    expandAll env part.pieces = .ok (part.shown env).toList := by
  cases part with
  | plain text => exact expandAll_plain env text.toList
  | dollar => simp [Part.pieces, Part.shown, expandAll, Piece.expand, bind, Except.bind]
  | braced name | bare name =>
    obtain ⟨value, set⟩ := Option.isSome_iff_exists.mp (set name rfl)
    simp [Part.pieces, Part.shown, expandAll, Piece.expand, set, bind, Except.bind]

theorem expandAll_part_of_unset {part : Part} {name : String} (named : part.name? = some name)
    (unset : env name = none) : expandAll env part.pieces = .error (.missingVariable name) := by
  cases part with
  | plain text | dollar => cases named
  | braced other | bare other =>
    obtain rfl := Option.some.inj named
    simp [Part.pieces, expandAll, Piece.expand, unset, bind, Except.bind]

theorem expandAll_parts (env : Environment) (parts : List Part) :
    expandAll env (parts.flatMap Part.pieces) =
      match (variableNames parts).find? fun name => (env name).isNone with
      | some name => .error (.missingVariable name)
      | none => .ok (String.join (parts.map (Part.shown env))).toList := by
  induction parts with
  | nil => rfl
  | cons part parts ih =>
    rw [List.flatMap_cons, expandAll_append, ih]
    cases named : part.name? with
    | none =>
      have same : variableNames (part :: parts) = variableNames parts :=
        List.filterMap_cons_none named
      rw [expandAll_part_of_set (by simp [named]), same]
      cases (variableNames parts).find? fun name => (env name).isNone <;> simp [bind, Except.bind]
    | some name =>
      have first : variableNames (part :: parts) = name :: variableNames parts :=
        List.filterMap_cons_some named
      rw [first]
      cases set : env name with
      | none =>
        rw [expandAll_part_of_unset named set, List.find?_cons_of_pos (by simp [set])]
        rfl
      | some value =>
        rw [expandAll_part_of_set (by simp [named, set]), List.find?_cons_of_neg (by simp [set])]
        cases (variableNames parts).find? fun name => (env name).isNone <;> simp [bind, Except.bind]

theorem find?_unset_iff {names : List String} {name : String} :
    names.find? (fun name => (env name).isNone) = some name ↔
      ∃ before after, names = before ++ name :: after ∧
        (∀ earlier ∈ before, (env earlier).isSome = true) ∧ env name = none := by
  simp only [List.find?_eq_some_iff_append, Option.isNone_iff_eq_none, Option.not_isNone]
  constructor
  · rintro ⟨unset, before, after, whole, set⟩
    exact ⟨before, after, whole, set, unset⟩
  · rintro ⟨before, after, whole, set, unset⟩
    exact ⟨unset, before, after, whole, set⟩

/-- Expanding a template puts its parts together, with the values of its variables as they are, and
fails for the first variable that is not set. -/
theorem expand_spelled (env : Environment) {parts : List Part} {template : String}
    (spelled : Spells parts template.toList) :
    (∀ text, expand env template = .ok text ↔
      (∀ name ∈ variableNames parts, (env name).isSome = true) ∧
        text = String.join (parts.map (Part.shown env))) ∧
    (∀ fault, expand env template = .error fault ↔
      ∃ before name after, variableNames parts = before ++ name :: after ∧
        (∀ earlier ∈ before, (env earlier).isSome = true) ∧ env name = none ∧
        fault = .missingVariable name) := by
  rw [expand, pieces_spelled spelled, expandAll_parts]
  cases found : (variableNames parts).find? fun name => (env name).isNone with
  | none =>
    have set : ∀ name ∈ variableNames parts, (env name).isSome = true := by
      intro name member
      simpa [Option.isSome_iff_ne_none] using List.find?_eq_none.mp found name member
    refine ⟨fun text => ?_, fun fault => ?_⟩
    · simp only [Except.map, String.ofList_toList, Except.ok.injEq]
      exact ⟨fun same => ⟨set, same.symm⟩, fun ⟨_, same⟩ => same.symm⟩
    · refine iff_of_false nofun ?_
      rintro ⟨before, name, after, whole, earlier, unset, -⟩
      have first := find?_unset_iff.mpr ⟨before, after, whole, earlier, unset⟩
      rw [found] at first
      cases first
  | some first =>
    obtain ⟨before, after, whole, set, unset⟩ := find?_unset_iff.mp found
    refine ⟨fun text => ?_, fun fault => ?_⟩
    · refine iff_of_false nofun ?_
      rintro ⟨all, -⟩
      have isSet := all first (List.mem_of_find?_eq_some found)
      rw [unset] at isSet
      cases isSet
    · simp only [Except.map, Except.error.injEq]
      constructor
      · rintro rfl
        exact ⟨before, first, after, whole, set, unset, rfl⟩
      · rintro ⟨before', name, after', whole', set', unset', rfl⟩
        have same : some first = some name :=
          found.symm.trans (find?_unset_iff.mpr ⟨before', after', whole', set', unset'⟩)
        rw [Option.some.inj same]

theorem expand_spelled_address :
    let parts : List Part :=
      [.plain "at ", .dollar, .dollar, .braced "HOST", .bare "größe_1", .plain "!"]
    let env : Environment := fun name =>
      if name = "HOST" then some "$A\x7b\x7d" else if name = "größe_1" then some "" else none
    Spells parts "at $$$\x7bHOST\x7d$größe_1!".toList ∧
      expand env "at $$$\x7bHOST\x7d$größe_1!" = .ok "at $$$A\x7b\x7d!" ∧
      expand (fun _ => none) "at $$$\x7bHOST\x7d$größe_1!" = .error (.missingVariable "HOST") := by
  intro parts env
  have spelled : Spells parts "at $$$\x7bHOST\x7d$größe_1!".toList := by
    -- With the boundaries in lists, the large class of name characters can be evaluated.
    have class_eq : isNameChar = fun c => _ := funext isNameChar_eq
    have word : "größe_1".toList.all isNameChar = true := by
      rw [class_eq]
      decide +kernel
    have others : isNameChar '$' = false ∧ isNameChar '!' = false := by
      rw [class_eq]
      decide +kernel
    refine .plain ?_ (.dollar ?_ (.dollar ?_ (.braced ?_ (.bare ?_ ?_ ?_ (.plain ?_ .nil)))))
    · decide
    · rintro c ⟨⟩
      exact ⟨by decide, others.1⟩
    · rintro c ⟨⟩
      exact ⟨by decide, others.1⟩
    · decide
    · decide
    · exact List.all_eq_true.mp word
    · rintro c ⟨⟩
      exact others.2
    · decide
  obtain ⟨given, -⟩ := expand_spelled env spelled
  obtain ⟨-, failed⟩ := expand_spelled (fun _ => none) spelled
  refine ⟨spelled, (given _).mpr ⟨?_, ?_⟩,
    (failed _).mpr ⟨[], "HOST", ["größe_1"], ?_, ?_, ?_, rfl⟩⟩
  all_goals decide +kernel

end StarQuery.Settings
