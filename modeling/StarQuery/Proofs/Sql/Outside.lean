import Mathlib.Data.List.Chain
import StarQuery.Proofs.Sql.Scan
import StarQuery.Sql.Token

/-!
What stands outside of quotes: keywords, symbols, numbers, names of functions and limits. Main
statement: in every dialect it is written without quotes and without the beginning of a comment, and
unless it is an operator nothing that follows can make one of its end.
-/
namespace StarQuery.Sql

def quoteMarks : List Char := ['"', '\'', '\x60', '[', ']']

theorem Dialect.quoteChars_subset (d : Dialect) : d.quoteChars ⊆ quoteMarks := by
  cases d <;> decide

def opensComment (a b : Char) : Bool := (a == '-' && b == '-') || (a == '/' && b == '*')

structure Bare (cs : List Char) : Prop where
  unquoted : ∀ c ∈ cs, c ∉ quoteMarks
  uncommented : cs.IsChain fun a b => opensComment a b = false

/-- A bare text whose end is not the first half of a comment opener. -/
structure Innocuous (cs : List Char) : Prop extends Bare cs where
  complete : ∀ c ∈ cs.getLast?, c ≠ '-' ∧ c ≠ '/'

def isTame (c : Char) : Bool := c ∉ '-' :: '/' :: quoteMarks

theorem tame_iff {c : Char} : isTame c = true ↔ c ≠ '-' ∧ c ≠ '/' ∧ c ∉ quoteMarks := by
  rw [isTame, decide_eq_true_iff, List.mem_cons, List.mem_cons, not_or, not_or]

namespace Innocuous

variable {as bs cs : List Char}

theorem of_all (tame : ∀ c ∈ cs, isTame c = true) : Innocuous cs where
  unquoted c member := (tame_iff.mp (tame c member)).2.2
  uncommented := by
    refine List.Pairwise.isChain (List.pairwise_of_forall_mem_list fun a ha b _ => ?_)
    obtain ⟨noMinus, noSlash, -⟩ := tame_iff.mp (tame a ha)
    simp [opensComment, noMinus, noSlash]
  complete c last := by
    obtain ⟨noMinus, noSlash, -⟩ := tame_iff.mp (tame c (List.mem_of_getLast? last))
    exact ⟨noMinus, noSlash⟩

theorem of_tame (tame : cs.all isTame = true) : Innocuous cs := of_all (List.all_eq_true.mp tame)

theorem append (first : Innocuous as) (second : Innocuous bs) : Innocuous (as ++ bs) where
  unquoted c member := by
    rcases List.mem_append.mp member with member | member
    · exact first.unquoted c member
    · exact second.unquoted c member
  uncommented := by
    refine first.uncommented.append second.uncommented fun a ha b _ => ?_
    obtain ⟨noMinus, noSlash⟩ := first.complete a ha
    simp [opensComment, noMinus, noSlash]
  complete c last := by
    rw [List.getLast?_append, Option.mem_def, Option.or_eq_some_iff] at last
    rcases last with last | ⟨-, last⟩
    · exact second.complete c last
    · exact first.complete c last

theorem minus {c : Char} (innocuous : Innocuous (c :: cs)) (other : c ≠ '-') :
    Innocuous ('-' :: c :: cs) where
  unquoted := List.forall_mem_cons.mpr ⟨by decide, innocuous.unquoted⟩
  uncommented := by
    refine List.isChain_cons_cons.mpr ⟨?_, innocuous.uncommented⟩
    simp [opensComment, other]
  complete := by
    rw [List.getLast?_cons_cons]
    exact innocuous.complete

end Innocuous

theorem tame_of_isDigit {c : Char} (digit : c.isDigit = true) : isTame c = true := by
  rw [isTame, decide_eq_true_iff]
  intro special
  simp only [quoteMarks, List.mem_cons, List.not_mem_nil, or_false] at special
  rcases special with rfl | rfl | rfl | rfl | rfl | rfl | rfl <;> simp at digit

theorem tame_of_mem_natDigits {n : Nat} : ∀ c ∈ natDigits n, isTame c = true :=
  fun _ member => tame_of_isDigit (isDigit_of_mem_natDigits member)

structure Numeral (cs : List Char) : Prop extends Innocuous cs where
  starts : ∃ c rest, cs = c :: rest ∧ c.isDigit = true

theorem natDigits_cons (n : Nat) : ∃ c rest, natDigits n = c :: rest ∧ c.isDigit = true := by
  obtain ⟨c, rest, digits⟩ := List.exists_cons_of_ne_nil (Nat.toDigits_ne_nil : natDigits n ≠ [])
  exact ⟨c, rest, digits, isDigit_of_mem_natDigits (digits ▸ List.mem_cons_self)⟩

theorem numeral_natDigits (n : Nat) : Numeral (natDigits n) where
  toInnocuous := Innocuous.of_all tame_of_mem_natDigits
  starts := natDigits_cons n

theorem Numeral.minus {cs : List Char} (numeral : Numeral cs) : Innocuous ('-' :: cs) := by
  obtain ⟨c, rest, rfl, digit⟩ := numeral.starts
  refine numeral.toInnocuous.minus ?_
  rintro rfl
  simp at digit

theorem innocuous_intDigits (n : Int) : Innocuous (intDigits n) := by
  unfold intDigits
  split
  · exact (numeral_natDigits n.natAbs).minus
  · exact (numeral_natDigits n.natAbs).toInnocuous

theorem numeral_positional (d : Decimal) : Numeral (positional ['.', '0'] d) := by
  obtain ⟨c, rest, digits, digit⟩ := natDigits_cons d.coefficient
  have tame : ∀ x ∈ c :: rest, isTame x = true := digits ▸ tame_of_mem_natDigits
  obtain ⟨tameFirst, tameRest⟩ := List.forall_mem_cons.mp tame
  have zeros (n : Nat) : ∀ x ∈ List.replicate n '0', isTame x = true := by
    intro x member
    rw [List.eq_of_mem_replicate member]
    decide
  unfold positional
  rw [digits]
  dsimp only
  split
  · exact ⟨((Innocuous.of_all tame).append (Innocuous.of_all (zeros _))).append
      (Innocuous.of_tame (by decide)), c, _, rfl, digit⟩
  · split
    · next inside =>
      obtain ⟨places, hplaces⟩ : ∃ n, (((c :: rest).length : Int) + d.exponent).toNat = n + 1 :=
        ⟨(((c :: rest).length : Int) + d.exponent).toNat - 1, by omega⟩
      rw [hplaces, List.take_succ_cons]
      refine ⟨Innocuous.of_all ?_, c, _, rfl, digit⟩
      intro x member
      rcases List.mem_append.mp member with whole | point
      · exact tame x (List.mem_of_mem_take (List.take_succ_cons ▸ whole))
      · rcases List.mem_cons.mp point with rfl | fraction
        · decide
        · exact tame x (List.mem_of_mem_drop fraction)
    · refine ⟨@Innocuous.append ('0' :: '.' :: _) _ ?_ (Innocuous.of_all tame), '0', _, rfl,
        by decide⟩
      refine Innocuous.of_all ?_
      exact List.forall_mem_cons.mpr ⟨by decide, List.forall_mem_cons.mpr ⟨by decide, zeros _⟩⟩

theorem numeral_scientific (d : Decimal) : Numeral (scientific [] d) := by
  obtain ⟨c, rest, digits, digit⟩ := natDigits_cons d.coefficient
  have tame : ∀ x ∈ c :: rest, isTame x = true := digits ▸ tame_of_mem_natDigits
  obtain ⟨tameFirst, tameRest⟩ := List.forall_mem_cons.mp tame
  unfold scientific
  rw [digits]
  simp only [List.nil_append, ite_self]
  cases rest with
  | nil =>
    refine ⟨@Innocuous.append [c, 'e'] _ ?_ (innocuous_intDigits _), c, _, rfl, digit⟩
    refine Innocuous.of_all ?_
    exact List.forall_mem_cons.mpr ⟨tameFirst, List.all_eq_true.mp (by decide)⟩
  | cons c' rest =>
    have split : ∀ exponent : List Char, c :: '.' :: (c' :: rest) ++ 'e' :: exponent =
        (c :: '.' :: (c' :: rest) ++ ['e']) ++ exponent := by simp
    dsimp only
    rw [split]
    refine ⟨Innocuous.append (Innocuous.append ?_ ?_) (innocuous_intDigits _), c, _, rfl, digit⟩
    · refine Innocuous.of_all ?_
      exact List.forall_mem_cons.mpr ⟨tameFirst, List.forall_mem_cons.mpr ⟨by decide, tameRest⟩⟩
    · exact Innocuous.of_tame (by decide)

theorem innocuous_float (x : Double) : Innocuous (DoubleFormat.literal.write x) := by
  have magnitude : ∀ d : Decimal, ∀ point : Int, Numeral
      (if -5 < point ∧ point ≤ 16 then positional ['.', '0'] d else scientific [] d) := by
    intro d point
    split
    · exact numeral_positional d
    · exact numeral_scientific d
  unfold DoubleFormat.write DoubleFormat.literal
  dsimp only
  split
  · exact (magnitude _ _).minus
  · exact (magnitude _ _).toInnocuous

def isWordChar (c : Char) : Bool := c.isAlphanum || c == '_'

theorem toNat_lt_of_isWordChar {c : Char} (word : isWordChar c = true) : c.toNat < 128 := by
  rcases Bool.or_eq_true_iff.mp word with alphanumeric | underscore
  · rcases Bool.or_eq_true_iff.mp alphanumeric with letter | digit
    · rcases Bool.or_eq_true_iff.mp letter with upper | lower
      · have range : c.val ≥ 'A'.val ∧ c.val ≤ 'Z'.val := of_decide_eq_true upper
        exact Nat.lt_of_le_of_lt (UInt32.le_iff_toNat_le.mp range.2) (by decide)
      · have last : c.val ≤ 'z'.val := of_decide_eq_true (Bool.and_eq_true_iff.mp lower).2
        exact Nat.lt_of_le_of_lt (UInt32.le_iff_toNat_le.mp last) (by decide)
    · exact Nat.lt_of_le_of_lt (Char.isDigit_iff_toNat.mp digit).2 (by decide)
  · rw [eq_of_beq underscore]
    decide

theorem tame_of_isWordChar {c : Char} (word : isWordChar c = true) : isTame c = true := by
  rw [isTame, decide_eq_true_iff]
  intro special
  simp only [quoteMarks, List.mem_cons, List.not_mem_nil, or_false] at special
  rcases special with rfl | rfl | rfl | rfl | rfl | rfl | rfl <;> simp [isWordChar] at word

theorem upperSequences_beyond : ∀ e ∈ Text.upperSequences, 128 ≤ e.1 := by
  have beyond : Text.upperSequences.toList.all (fun e => Nat.ble 128 e.1) = true := by
    decide +kernel
  intro e member
  exact Nat.le_of_ble_eq_true (List.all_eq_true.mp beyond e (Array.mem_toList_iff.mpr member))

theorem upperRuns_beyond :
    ∀ r ∈ Text.upperRuns, r.first = 0x61 ∧ r.last = 0x7a ∧ r.shift = -32 ∨ 128 ≤ r.first := by
  have known : Text.upperRuns.toList.all (fun r => Nat.ble 128 r.first ||
      Nat.beq r.first 0x61 && Nat.beq r.last 0x7a && r.shift == -32) = true := by decide +kernel
  intro r member
  have cases := List.all_eq_true.mp known r (Array.mem_toList_iff.mpr member)
  simp only [Bool.or_eq_true, Bool.and_eq_true, Nat.ble_eq, Nat.beq_eq, beq_iff_eq] at cases
  rcases cases with beyond | ⟨⟨first, last⟩, shift⟩
  · exact Or.inr beyond
  · exact Or.inl ⟨first, last, shift⟩

theorem upperChar_ascii {c : Char} (ascii : c.toNat < 128) :
    Text.upperChar c = [c] ∨
      0x61 ≤ c.toNat ∧ c.toNat ≤ 0x7a ∧ Text.upperChar c = [Char.ofNat (c.toNat - 32)] := by
  have single : Text.upperSequences.find? (·.1 == c.toNat) = none := by
    rw [Array.find?_eq_none]
    intro e member
    have := upperSequences_beyond e member
    simp
    omega
  rw [Text.upperChar, single]
  dsimp only
  unfold Text.shifted
  split
  · next r found =>
    have covers := Array.find?_some found
    simp only [Text.CaseRun.covers, Bool.and_eq_true, decide_eq_true_eq] at covers
    rcases upperRuns_beyond r (Array.mem_of_find?_eq_some found) with ⟨first, last, shift⟩ | beyond
    · rw [first, last] at covers
      refine Or.inr ⟨covers.1.1, covers.1.2, ?_⟩
      have moved : ((c.toNat : Int) + r.shift).toNat = c.toNat - 32 := by omega
      rw [moved]
    · omega
  · exact Or.inl rfl

theorem isWordChar_capital :
    ∀ n < 128, 0x61 ≤ n → n ≤ 0x7a → isWordChar (Char.ofNat (n - 32)) = true := by
  decide

theorem isWordChar_upperChar {a : Char} (word : isWordChar a = true) :
    ∀ c ∈ Text.upperChar a, isWordChar c = true := by
  have ascii := toNat_lt_of_isWordChar word
  rcases upperChar_ascii ascii with same | ⟨low, high, capital⟩
  · rw [same, List.forall_mem_singleton]
    exact word
  · rw [capital, List.forall_mem_singleton]
    exact isWordChar_capital a.toNat ascii low high

theorem isWordChar_upper {s : String} (words : s.toList.all isWordChar = true) :
    ∀ c ∈ (Text.upper s).toList, isWordChar c = true := by
  intro c member
  rw [Text.upper, String.toList_ofList] at member
  obtain ⟨a, ha, member⟩ := List.mem_flatMap.mp member
  exact isWordChar_upperChar (List.all_eq_true.mp words a ha) c member

namespace Token

def quoted? : Token → Option (Quote × String)
  | .name s => some (.name, s)
  | .literal (.text s) => some (.text, s)
  | _ => none

/-- Names of functions are words and floats are finite. -/
def isPlain : Token → Bool
  | .functionName s => s.toList.all isWordChar
  | .literal (.float x) => x.isFinite
  | _ => true

theorem render_operator (d : Dialect) (op : Operator) :
    ∃ cs, (Token.operator op).render d = .ok cs ∧ Bare cs := by
  have unquoted : op.symbol.toList.all (fun c => !quoteMarks.contains c) = true := by
    cases op <;> rfl
  refine ⟨op.symbol.toList, rfl, fun c member => ?_, ?_⟩
  · simpa using List.all_eq_true.mp unquoted c member
  · cases op <;> decide

theorem innocuous_limitText (d : Dialect) (rows : UInt64) (ordered : Bool) :
    Innocuous (d.limitText rows ordered) := by
  have number := (numeral_natDigits rows.toNat).toInnocuous
  cases d with
  | tSql =>
    refine Innocuous.append (Innocuous.append (Innocuous.append ?_ ?_) number) ?_
    · cases ordered <;> exact Innocuous.of_tame rfl
    · exact Innocuous.of_tame rfl
    · exact Innocuous.of_tame rfl
  | _ => exact Innocuous.append (Innocuous.of_tame rfl) number

theorem functionName?_cases (d : Dialect) (s : String) :
    d.functionName? s = none ∨ ∃ name ∈ ["VAR", "STDEV"], d.functionName? s = some name := by
  cases d with
  | tSql =>
    rw [Dialect.functionName?]
    split
    · exact Or.inr ⟨"VAR", by decide, rfl⟩
    · split
      · exact Or.inr ⟨"STDEV", by decide, rfl⟩
      · exact Or.inl rfl
  | _ => exact Or.inl rfl

theorem innocuous_functionName (d : Dialect) {s : String} (words : s.toList.all isWordChar = true) :
    Innocuous ((d.functionName? s).getD (Text.upper s)).toList := by
  have special : ∀ name ∈ ["VAR", "STDEV"], name.toList.all isTame = true :=
    List.forall_mem_cons.mpr ⟨rfl, List.forall_mem_singleton.mpr rfl⟩
  rcases functionName?_cases d s with usual | ⟨name, member, own⟩
  · rw [usual]
    exact Innocuous.of_all fun c member => tame_of_isWordChar (isWordChar_upper words c member)
  · rw [own]
    exact Innocuous.of_tame (special name member)

/-- What is neither quoted nor an operator is innocuous. -/
theorem render_innocuous (d : Dialect) {t : Token} (plain : t.isPlain = true)
    (bare : t.quoted? = none) (noOperator : ∀ op, t ≠ .operator op) :
    ∃ cs, t.render d = .ok cs ∧ Innocuous cs := by
  cases t with
  | keyword k =>
    refine ⟨k.text.toList, rfl, Innocuous.of_tame ?_⟩
    cases k <;> rfl
  | operator op => exact absurd rfl (noOperator op)
  | indent depth =>
    refine ⟨_, rfl, Innocuous.of_all fun c member => ?_⟩
    rw [List.eq_of_mem_replicate member]
    decide
  | name s => cases bare
  | literal l =>
    cases l with
    | int n => exact ⟨_, rfl, innocuous_intDigits n.toInt⟩
    | float x => exact ⟨_, if_pos plain, innocuous_float x⟩
    | text s => cases bare
    | bool b =>
      refine ⟨_, rfl, Innocuous.of_tame ?_⟩
      cases d <;> cases b <;> rfl
    | null => exact ⟨_, rfl, Innocuous.of_tame rfl⟩
  | functionName s => exact ⟨_, rfl, innocuous_functionName d plain⟩
  | limit rows ordered => exact ⟨_, rfl, innocuous_limitText d rows ordered⟩
  | _ => exact ⟨_, rfl, Innocuous.of_tame (by decide)⟩

end Token

end StarQuery.Sql
