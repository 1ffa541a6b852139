import Mathlib.Data.List.Basic
import StarQuery.Sql.Dialect

/-!
Reading a statement as a database does: its quoted regions, each with the text that it stands for,
and the characters outside of them. Main statements: a scan loses nothing, and what was quoted is
read back whatever the text, unless the same quote follows at once.
-/
namespace StarQuery.Sql

inductive Quote where
  | name
  | text
  deriving DecidableEq

inductive Piece where
  | bare (c : Char)
  | quoted (kind : Quote) (s : String)
  deriving DecidableEq

def Piece.quoted? : Piece → Option (Quote × String)
  | .bare _ => none
  | .quoted kind s => some (kind, s)

namespace Dialect

def quotes (d : Dialect) : Quote → Char × Char
  | .name => d.nameQuotes
  | .text => ('\'', '\'')

def quoteChars (d : Dialect) : List Char := [d.nameQuotes.1, d.nameQuotes.2, '\'']

def opened? (d : Dialect) (c : Char) : Option Quote :=
  if c = d.nameQuotes.1 then some .name else if c = '\'' then some .text else none

/-- The pieces of a text from left to right, outside of quotes or after `read` in a region. There a
doubled closing quote stands for one; a text that ends in a region has no pieces. -/
def scanFrom (d : Dialect) : Option (Quote × List Char) → List Char → Option (List Piece)
  | none, [] => some []
  | none, c :: rest =>
    match d.opened? c with
    | some kind => d.scanFrom (some (kind, [])) rest
    | none => (d.scanFrom none rest).map (.bare c :: ·)
  | some _, [] => none
  | some (kind, read), [c] =>
    if c = (d.quotes kind).2 then some [.quoted kind (String.ofList read)] else none
  | some (kind, read), c :: next :: rest =>
    if c = (d.quotes kind).2 then
      if next = c then d.scanFrom (some (kind, read ++ [c])) rest
      else (d.scanFrom none (next :: rest)).map (.quoted kind (String.ofList read) :: ·)
    else d.scanFrom (some (kind, read ++ [c])) (next :: rest)

def scan (d : Dialect) (sql : String) : Option (List Piece) := d.scanFrom none sql.toList

def writePiece (d : Dialect) : Piece → List Char
  | .bare c => [c]
  | .quoted kind s => (d.quotes kind).1 :: doubled (d.quotes kind).2 s.toList ++ [(d.quotes kind).2]

theorem eq_of_opened? {d : Dialect} {c : Char} {kind : Quote} (opened : d.opened? c = some kind) :
    c = (d.quotes kind).1 := by
  unfold opened? at opened
  split at opened
  · next isName =>
    cases opened
    exact isName
  · split at opened
    · next isText =>
      cases opened
      exact isText
    · cases opened

theorem opened?_eq_none {d : Dialect} {c : Char} (outside : c ∉ d.quoteChars) :
    d.opened? c = none := by
  simp only [quoteChars, List.mem_cons, List.not_mem_nil, or_false, not_or] at outside
  rw [opened?, if_neg outside.1, if_neg outside.2.2]

def written (d : Dialect) : Option (Quote × List Char) → List Char
  | none => []
  | some (kind, read) => (d.quotes kind).1 :: doubled (d.quotes kind).2 read

theorem scanFrom_lossless {d : Dialect} {place : Option (Quote × List Char)} {cs : List Char}
    {pieces : List Piece} (scanned : d.scanFrom place cs = some pieces) :
    pieces.flatMap d.writePiece = d.written place ++ cs := by
  induction place, cs using scanFrom.induct d generalizing pieces with
  | case1 =>
    cases scanned
    rfl
  | case2 c rest kind opened ih =>
    rw [scanFrom, opened] at scanned
    rw [ih scanned, eq_of_opened? opened]
    rfl
  | case3 c rest outside ih =>
    rw [scanFrom, outside] at scanned
    obtain ⟨later, hlater, rfl⟩ := Option.map_eq_some_iff.mp scanned
    rw [List.flatMap_cons, ih hlater]
    rfl
  | case4 => simp [scanFrom] at scanned
  | case5 kind read =>
    rw [scanFrom, if_pos rfl] at scanned
    cases scanned
    simp [writePiece, written]
  | case6 kind read c open' => simp [scanFrom, open'] at scanned
  | case7 kind read rest ih =>
    rw [scanFrom, if_pos rfl, if_pos rfl] at scanned
    rw [ih scanned]
    simp [written, doubled]
  | case8 kind read next rest closes ih =>
    rw [scanFrom, if_pos rfl, if_neg closes] at scanned
    obtain ⟨later, hlater, rfl⟩ := Option.map_eq_some_iff.mp scanned
    rw [List.flatMap_cons, ih hlater]
    simp [writePiece, written]
  | case9 kind read c next rest open' ih =>
    rw [scanFrom, if_neg open'] at scanned
    rw [ih scanned]
    simp [written, doubled, open']

/-- A scan loses nothing: its pieces written one after another are the text. -/
theorem scan_lossless {d : Dialect} {sql : String} {pieces : List Piece}
    (scanned : d.scan sql = some pieces) : pieces.flatMap d.writePiece = sql.toList :=
  scanFrom_lossless scanned

theorem scanFrom_bare {d : Dialect} {cs : List Char} (outside : ∀ c ∈ cs, c ∉ d.quoteChars)
    (rest : List Char) :
    d.scanFrom none (cs ++ rest) = (d.scanFrom none rest).map (cs.map .bare ++ ·) := by
  induction cs with
  | nil => simp
  | cons c cs ih =>
    obtain ⟨first, more⟩ := List.forall_mem_cons.mp outside
    rw [List.cons_append, scanFrom, opened?_eq_none first]
    dsimp only
    rw [ih more, Option.map_map]
    rfl

theorem scanFrom_read {d : Dialect} {kind : Quote} {c : Char} (inside : c ≠ (d.quotes kind).2)
    (read rest : List Char) :
    d.scanFrom (some (kind, read)) (c :: rest) = d.scanFrom (some (kind, read ++ [c])) rest := by
  cases rest with
  | nil => simp [scanFrom, inside]
  | cons next rest => rw [scanFrom, if_neg inside]

theorem scanFrom_quoted {d : Dialect} {kind : Quote} {rest : List Char}
    (ends : (d.quotes kind).2 ∉ rest.head?) (read cs : List Char) :
    d.scanFrom (some (kind, read)) (doubled (d.quotes kind).2 cs ++ (d.quotes kind).2 :: rest) =
      (d.scanFrom none rest).map (.quoted kind (String.ofList (read ++ cs)) :: ·) := by
  induction cs generalizing read with
  | nil =>
    cases rest with
    | nil => simp [doubled, scanFrom]
    | cons next rest =>
      have other : next ≠ (d.quotes kind).2 := by simpa using ends
      simp [doubled, scanFrom, other]
  | cons c cs ih =>
    have tail : read ++ c :: cs = (read ++ [c]) ++ cs := by simp
    rw [doubled, List.flatMap_cons, ← doubled, List.append_assoc, tail, ← ih]
    -- A closing quote in the text is written twice and read as one.
    by_cases closing : c = (d.quotes kind).2
    · rw [if_pos closing, List.cons_append, List.cons_append, List.nil_append, scanFrom,
        if_pos closing, if_pos rfl]
    · rw [if_neg closing, List.singleton_append, scanFrom_read closing]

end Dialect

end StarQuery.Sql
