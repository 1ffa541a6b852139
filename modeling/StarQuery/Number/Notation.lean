import StarQuery.Number.Shortest

/-!
The ways of writing a number. In plain text a double has all its places and no exponent; in a query
or a data document it always shows that it is not a whole number, and a very large or small one has
an exponent, with a plus sign in a data document.
-/
namespace StarQuery

def natDigits (n : Nat) : List Char := Nat.toDigits 10 n

theorem isDigit_of_mem_natDigits {n : Nat} {c : Char} (member : c ∈ natDigits n) :
    c.isDigit = true :=
  Nat.isDigit_of_mem_toDigits (by decide) (by decide) member

theorem natDigits_injective {m n : Nat} (same : natDigits m = natDigits n) : m = n := by
  have read := congrArg (Nat.ofDigitChars 10 · 0) same
  simpa [natDigits, Nat.ofDigitChars_ten_toDigits] using read

def intDigits (n : Int) : List Char :=
  if n < 0 then '-' :: natDigits n.natAbs else natDigits n.natAbs

/-- How a format writes a finite double. A number is written positionally when the place of its
point, counted from the first digit, is above `lowest` and at most `highest`. -/
structure DoubleFormat where
  tie : Tie
  range : Option (Int × Int)
  wholeMark : List Char
  exponentMark : List Char

def DoubleFormat.plain : DoubleFormat := ⟨.up, none, [], []⟩

def DoubleFormat.literal : DoubleFormat := ⟨.toEven, some (-5, 16), ['.', '0'], []⟩

def DoubleFormat.document : DoubleFormat := ⟨.toEven, some (-5, 16), ['.', '0'], ['+']⟩

def positional (wholeMark : List Char) (d : Decimal) : List Char :=
  let digits := natDigits d.coefficient
  let point : Int := digits.length + d.exponent
  if 0 ≤ d.exponent then digits ++ List.replicate d.exponent.toNat '0' ++ wholeMark
  else if 0 < point then digits.take point.toNat ++ '.' :: digits.drop point.toNat
  else '0' :: '.' :: List.replicate (-point).toNat '0' ++ digits

def scientific (exponentMark : List Char) (d : Decimal) : List Char :=
  let place : Int := (natDigits d.coefficient).length + d.exponent - 1
  let exponent := if 0 ≤ place then exponentMark ++ intDigits place else intDigits place
  match natDigits d.coefficient with
  | [] => []
  | [digit] => digit :: 'e' :: exponent
  | digit :: rest => digit :: '.' :: rest ++ 'e' :: exponent

def DoubleFormat.write (format : DoubleFormat) (x : Double) : List Char :=
  let d := x.shortest format.tie
  let point : Int := (natDigits d.coefficient).length + d.exponent
  let magnitude :=
    match format.range with
    | none => positional format.wholeMark d
    | some (lowest, highest) =>
      if lowest < point ∧ point ≤ highest then positional format.wholeMark d
      else scientific format.exponentMark d
  if x.negative then '-' :: magnitude else magnitude

def Double.text (x : Double) : List Char :=
  if x.isFinite then DoubleFormat.plain.write x
  else if x.isNaN then "NaN".toList
  else if x.negative then "-inf".toList
  else "inf".toList

end StarQuery
