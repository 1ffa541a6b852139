import StarQuery.Proofs.Sql.Outside
import StarQuery.Proofs.Sql.Spacing
import StarQuery.Proofs.Success

/-!
Quoting is airtight. Main statement: a scan of a statement finds the names and the texts of its
tokens, each as it was, and outside of them neither quotes nor comments.
-/
namespace StarQuery.Sql

def Dialect.mark (d : Dialect) : Quote → String → List Char
  | .name, _ => []
  | .text, s => d.textMark s

def Token.pieces (d : Dialect) (t : Token) : List Piece :=
  match t.quoted? with
  | some (kind, s) => (d.mark kind s).map .bare ++ [.quoted kind s]
  | none => ((t.render d).toOption.getD []).map .bare

def Piece.opensComment : Piece → Piece → Bool
  | .bare a, .bare b => Sql.opensComment a b
  | _, _ => false

theorem innocuous_mark (d : Dialect) (kind : Quote) (s : String) : Innocuous (d.mark kind s) := by
  cases kind with
  | name => exact Innocuous.of_tame rfl
  | text =>
    cases d with
    | tSql =>
      unfold Dialect.mark Dialect.textMark
      dsimp only
      split
      · exact Innocuous.of_tame (by decide)
      · exact Innocuous.of_tame rfl
    | _ => exact Innocuous.of_tame rfl

namespace Token

variable {d : Dialect} {t : Token}

theorem render_quoted {kind : Quote} {s : String} (quoted : t.quoted? = some (kind, s)) :
    t.render d = .ok (d.mark kind s ++
      (d.quotes kind).1 :: (doubled (d.quotes kind).2 s.toList ++ [(d.quotes kind).2])) := by
  cases t with
  | name name =>
    cases quoted
    rfl
  | literal l =>
    cases l with
    | text text =>
      cases quoted
      simp [render, Literal.render, Dialect.quoteText, Dialect.mark, Dialect.quotes]
    | _ => cases quoted
  | _ => cases quoted

theorem render_bare (plain : t.isPlain = true) (bare : t.quoted? = none) :
    ∃ cs, t.render d = .ok cs ∧ Bare cs := by
  by_cases isOperator : ∃ op, t = .operator op
  · obtain ⟨op, rfl⟩ := isOperator
    exact render_operator d op
  · obtain ⟨cs, rendered, innocuous⟩ :=
      render_innocuous d plain bare fun op h => isOperator ⟨op, h⟩
    exact ⟨cs, rendered, innocuous.toBare⟩

theorem pieces_bare {cs : List Char} (bare : t.quoted? = none) (rendered : t.render d = .ok cs) :
    t.pieces d = cs.map .bare := by
  rw [pieces, bare, rendered]
  rfl

theorem pieces_quoted {kind : Quote} {s : String} (quoted : t.quoted? = some (kind, s)) :
    t.pieces d = (d.mark kind s).map .bare ++ [.quoted kind s] := by
  rw [pieces, quoted]

theorem render_separator (separates : t.separates = true) :
    ∃ c rest, t.render d = .ok (c :: rest) ∧ t.quoted? = none ∧ c ∈ [',', '.', ')', ' ', '\n'] := by
  cases t with
  | comma | dot | rightParen | space | newline => exact ⟨_, [], rfl, rfl, by decide⟩
  | _ => cases separates

theorem filterMap_pieces (d : Dialect) (t : Token) :
    (t.pieces d).filterMap Piece.quoted? = t.quoted?.toList := by
  have none_bare (cs : List Char) : (cs.map Piece.bare).filterMap Piece.quoted? = [] := by
    rw [List.filterMap_map]
    exact List.filterMap_eq_nil_iff.mpr fun _ _ => rfl
  cases quoted : t.quoted? with
  | none =>
    rw [pieces, quoted]
    exact none_bare _
  | some region =>
    rw [pieces_quoted quoted, List.filterMap_append, none_bare]
    rfl

theorem unquoted_pieces (plain : t.isPlain = true) {c : Char} (member : .bare c ∈ t.pieces d) :
    c ∉ quoteMarks := by
  cases quoted : t.quoted? with
  | none =>
    obtain ⟨cs, rendered, bare⟩ := render_bare plain quoted
    rw [pieces_bare quoted rendered] at member
    exact bare.unquoted c (by simpa using member)
  | some region =>
    rw [pieces_quoted quoted] at member
    exact (innocuous_mark d region.1 region.2).unquoted c (by simpa using member)

theorem uncommented_pieces (plain : t.isPlain = true) :
    (t.pieces d).IsChain fun a b => a.opensComment b = false := by
  cases quoted : t.quoted? with
  | none =>
    obtain ⟨cs, rendered, bare⟩ := render_bare plain quoted
    rw [pieces_bare quoted rendered, List.isChain_map]
    exact bare.uncommented
  | some region =>
    rw [pieces_quoted quoted]
    refine List.IsChain.append ?_ (List.isChain_singleton _) ?_
    · rw [List.isChain_map]
      exact (innocuous_mark d region.1 region.2).uncommented
    · intro a _ b head
      obtain rfl : Piece.quoted region.1 region.2 = b := by simpa using head
      cases a <;> rfl

theorem uncommented_join {ts : List Token} (plain : t.isPlain = true) (spaced : Spaced (t :: ts))
    {a b : Piece} (last : a ∈ (t.pieces d).getLast?)
    (head : b ∈ (ts.flatMap (Token.pieces d)).head?) : a.opensComment b = false := by
  -- Behind a token that needs a space comes a separator; any other ends in no half of an opener.
  by_cases needs : t.needsSpace = true
  · cases ts with
    | nil => cases head
    | cons u ts =>
      have separates : u.separates = true := (List.isChain_cons_cons.mp spaced).1 needs
      obtain ⟨c, rest, rendered, bare, separator⟩ := render_separator (d := d) separates
      rw [List.flatMap_cons, pieces_bare bare rendered] at head
      obtain rfl : Piece.bare c = b := by simpa using head
      cases a with
      | quoted kind s => rfl
      | bare x =>
        have noMinus : c ≠ '-' := by
          rintro rfl
          simp at separator
        have noStar : c ≠ '*' := by
          rintro rfl
          simp at separator
        simp [Piece.opensComment, Sql.opensComment, noMinus, noStar]
  · have bare : t.quoted? = none := by
      cases t with
      | name s => exact absurd rfl needs
      | literal l =>
        cases l with
        | text s => exact absurd rfl needs
        | _ => rfl
      | _ => rfl
    have noOperator : ∀ op, t ≠ .operator op := by
      rintro op rfl
      exact needs rfl
    obtain ⟨cs, rendered, innocuous⟩ := render_innocuous d plain bare noOperator
    rw [pieces_bare bare rendered, List.getLast?_map, Option.mem_def,
      Option.map_eq_some_iff] at last
    obtain ⟨c, hc, rfl⟩ := last
    obtain ⟨noMinus, noSlash⟩ := innocuous.complete c hc
    cases b with
    | quoted kind s => rfl
    | bare y => simp [Piece.opensComment, Sql.opensComment, noMinus, noSlash]

end Token

section

variable {d : Dialect} {ts : List Token}

theorem head_ne_quote {t : Token} {cs : List Char} (spaced : Spaced (t :: ts))
    (needs : t.needsSpace = true) (rendered : renderAll d ts = .ok cs) (kind : Quote) :
    (d.quotes kind).2 ∉ cs.head? := by
  cases ts with
  | nil =>
    cases rendered
    simp
  | cons u ts =>
    have separates : u.separates = true := (List.isChain_cons_cons.mp spaced).1 needs
    obtain ⟨c, more, separator, -, member⟩ := Token.render_separator (d := d) separates
    obtain ⟨first, hfirst, rendered⟩ := bind_ok rendered
    obtain ⟨rest, hrest, made⟩ := bind_ok rendered
    rw [separator] at hfirst
    cases hfirst
    cases made
    intro head
    obtain rfl : c = (d.quotes kind).2 := by simpa using head
    revert member
    cases d <;> cases kind <;> decide

theorem exists_renderAll (plain : ∀ t ∈ ts, t.isPlain = true) (spaced : Spaced ts) :
    ∃ cs, renderAll d ts = .ok cs ∧
      d.scanFrom none cs = some (ts.flatMap (Token.pieces d)) := by
  induction ts with
  | nil => exact ⟨[], rfl, rfl⟩
  | cons t ts ih =>
    obtain ⟨plainFirst, plainRest⟩ := List.forall_mem_cons.mp plain
    obtain ⟨cs, rendered, scanned⟩ := ih plainRest (List.IsChain.tail spaced)
    cases quoted : t.quoted? with
    | none =>
      obtain ⟨first, hfirst, bare⟩ := Token.render_bare (d := d) plainFirst quoted
      refine ⟨first ++ cs, by rw [renderAll, hfirst, rendered]; rfl, ?_⟩
      have outside : ∀ c ∈ first, c ∉ d.quoteChars := fun c member quote =>
        bare.unquoted c member (d.quoteChars_subset quote)
      rw [Dialect.scanFrom_bare outside, scanned, List.flatMap_cons,
        Token.pieces_bare quoted hfirst, Option.map_some]
    | some region =>
      obtain ⟨kind, s⟩ := region
      have hfirst := Token.render_quoted (d := d) quoted
      refine ⟨_ ++ cs, by rw [renderAll, hfirst, rendered]; rfl, ?_⟩
      have needs : t.needsSpace = true := by
        cases t with
        | name s => rfl
        | literal l =>
          cases l with
          | text s => rfl
          | _ => cases quoted
        | _ => cases quoted
      -- A region ends at its closing quote because no quote follows the token.
      have ends := head_ne_quote spaced needs rendered kind
      have outside : ∀ c ∈ d.mark kind s, c ∉ d.quoteChars := fun c member quote =>
        (innocuous_mark d kind s).unquoted c member (d.quoteChars_subset quote)
      have opened : d.opened? (d.quotes kind).1 = some kind := by
        cases d <;> cases kind <;> decide
      rw [List.append_assoc, Dialect.scanFrom_bare outside, List.cons_append, Dialect.scanFrom,
        opened]
      dsimp only
      rw [List.append_assoc, List.singleton_append, Dialect.scanFrom_quoted ends, scanned,
        List.flatMap_cons, Token.pieces_quoted quoted, List.nil_append, String.ofList_toList,
        Option.map_some, Option.map_some, List.append_assoc, List.singleton_append]

theorem filterMap_flatMap_pieces (d : Dialect) (ts : List Token) :
    (ts.flatMap (Token.pieces d)).filterMap Piece.quoted? = ts.filterMap Token.quoted? := by
  induction ts with
  | nil => rfl
  | cons t ts ih =>
    rw [List.flatMap_cons, List.filterMap_append, Token.filterMap_pieces, ih]
    cases quoted : t.quoted? <;> simp [quoted]

theorem uncommented_flatMap (plain : ∀ t ∈ ts, t.isPlain = true) (spaced : Spaced ts) :
    (ts.flatMap (Token.pieces d)).IsChain fun a b => a.opensComment b = false := by
  induction ts with
  | nil => exact List.isChain_nil
  | cons t ts ih =>
    obtain ⟨plainFirst, plainRest⟩ := List.forall_mem_cons.mp plain
    rw [List.flatMap_cons]
    exact List.IsChain.append (Token.uncommented_pieces plainFirst)
      (ih plainRest (List.IsChain.tail spaced)) fun a last b head =>
        Token.uncommented_join plainFirst spaced last head

end

/-- A statement whose functions have words for names and whose floats are finite can be written, and
a scan finds its names and texts, in order and as they were, with neither quotes nor comments outside
of them. -/
theorem Statement.sql_scan (s : Statement) (plain : ∀ t ∈ s.tokens, t.isPlain = true)
    (d : Dialect) :
    ∃ sql pieces, s.sql d = .ok sql ∧ d.scan sql = some pieces ∧
      pieces.flatMap d.writePiece = sql.toList ∧
      pieces.filterMap Piece.quoted? = s.tokens.filterMap Token.quoted? ∧
      (∀ c, .bare c ∈ pieces → c ∉ d.quoteChars) ∧
      pieces.IsChain fun a b => a.opensComment b = false := by
  obtain ⟨cs, rendered, scanned⟩ := exists_renderAll (d := d) plain s.spaced_tokens
  have found : d.scan (String.ofList cs) = some (s.tokens.flatMap (Token.pieces d)) := by
    rw [Dialect.scan, String.toList_ofList, scanned]
  refine ⟨String.ofList cs, _, ?_, found, Dialect.scan_lossless found,
    filterMap_flatMap_pieces d s.tokens, ?_, uncommented_flatMap plain s.spaced_tokens⟩
  · rw [Statement.sql, toSql, rendered]
    rfl
  · intro c member quote
    obtain ⟨t, ht, member⟩ := List.mem_flatMap.mp member
    exact Token.unquoted_pieces (plain t ht) member (d.quoteChars_subset quote)

def hostile : Statement where
  source := ⟨"a]b", some "--"⟩
  items := [⟨.binary .sub (.ofTable "--" "[x]]") (.literal (.int (-1))), "it's"⟩]
  joins := []
  condition := some (.isIn (.call "lower_2" false (.column none "''"))
    [.literal (.text "' OR ''='"), .literal (.text "ü*/"), .literal (.float ⟨0xbe7ad7f29abcaf48⟩)])
  groupBy := []
  having := none
  orderBy := []
  limit := some 5

theorem Statement.sql_scan_hostile :
    (∀ t ∈ hostile.tokens, t.isPlain = true) ∧
      ∃ sql pieces, hostile.sql .tSql = .ok sql ∧ Dialect.tSql.scan sql = some pieces ∧
        pieces.filterMap Piece.quoted? =
          [(.name, "--"), (.name, "[x]]"), (.name, "it's"), (.name, "a]b"), (.name, "--"),
            (.name, "''"), (.text, "' OR ''='"), (.text, "ü*/")] ∧
        (∀ c, .bare c ∈ pieces → c ∉ ['[', ']', '\'']) ∧
        pieces.IsChain fun a b => a.opensComment b = false := by
  have plain : ∀ t ∈ hostile.tokens, t.isPlain = true := by decide +kernel
  obtain ⟨sql, pieces, written, scanned, -, found, unquoted, uncommented⟩ :=
    hostile.sql_scan plain .tSql
  refine ⟨plain, sql, pieces, written, scanned, ?_, unquoted, uncommented⟩
  rw [found]
  decide +kernel

end StarQuery.Sql
