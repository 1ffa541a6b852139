import StarQuery.Number.Reading
import StarQuery.Text.Pieces
import StarQuery.Toml.Basic

/-!
Truth values, numbers, dates and times of a configuration document. Single underscores may stand
between digits, and a number has no leading zeros. The form of a number is checked when the document
is read, its value where it is asked for.
-/
namespace StarQuery.Toml

def isHexDigit (c : Char) : Bool := c.isDigit || ('a' ≤ c && c ≤ 'f') || ('A' ≤ c && c ≤ 'F')

def hexDigitValue (c : Char) : Nat :=
  if c.isDigit then c.toNat - '0'.toNat
  else if 'a' ≤ c then c.toNat - 'a'.toNat + 10
  else c.toNat - 'A'.toNat + 10

def readDigits? (isDigit : Char → Bool) (cs : List Char) : Option (List Char) :=
  let groups := Text.splitChars '_' cs
  if groups.all fun group => !group.isEmpty && group.all isDigit then some groups.flatten else none

def readWhole? (cs : List Char) : Option (List Char) := do
  match ← readDigits? Char.isDigit cs with
  | '0' :: _ :: _ => none
  | digits => some digits

def inRange (n : Int) : Bool := -(Nat.pow 2 127 : Nat) ≤ n && n < (Nat.pow 2 128 : Nat)

def ofInteger (n : Int) : Toml := if inRange n then .integer n else .unvalued

def readRadix? (radix : Nat) (isDigit : Char → Bool) (cs : List Char) : Option Toml :=
  if cs.isEmpty then some .unvalued
  else do
    let digits ← readDigits? isDigit cs
    some (ofInteger (digits.foldl (fun n c => radix * n + hexDigitValue c) 0))

/-- Whether a text has the form of a whole number, with underscores, whose groups after the first
only start with a hexadecimal digit and, up to the last, end with one. -/
def isLooseWhole (cs : List Char) : Bool :=
  match Text.splitChars '_' cs with
  | first :: second :: rest =>
    !cs.contains ' ' && first.all Char.isDigit && !first.isEmpty && first.head? != some '0' &&
      (second :: rest).all (fun group => group.head?.any isHexDigit) &&
      (second :: rest).dropLast.all fun group => group.getLast?.any isHexDigit
  | _ => false

def readInteger? (negative : Bool) (cs : List Char) : Option Toml :=
  match readWhole? cs with
  | some digits =>
    some (ofInteger (if negative then -(digitsValue digits : Int) else digitsValue digits))
  | none => if isLooseWhole cs then some .unvalued else none

def isNumberChar (c : Char) : Bool := c.isDigit || c == '_'

def readPower? : List Char → Option Int
  | [] => some 0
  | c :: rest => do
    if c = 'e' ∨ c = 'E' then
      let (negative, unsigned) := readSign rest
      let digits ← readDigits? Char.isDigit unsigned
      some (if negative then -(digitsValue digits : Int) else digitsValue digits)
    else none

def ofDecimal (negative : Bool) (whole places : List Char) (power : Int) : Toml :=
  let x := Double.ofDecimal negative (digitsValue (whole ++ places)) (power - places.length)
  if x.isFinite then .real x else .unvalued

def readReal? (negative : Bool) (cs : List Char) : Option Toml := do
  let whole ← readWhole? (cs.takeWhile isNumberChar)
  match cs.dropWhile isNumberChar with
  | '.' :: rest =>
    let places ← readDigits? Char.isDigit (rest.takeWhile isNumberChar)
    some (ofDecimal negative whole places (← readPower? (rest.dropWhile isNumberChar)))
  | rest => some (ofDecimal negative whole [] (← readPower? rest))

def infinity (negative : Bool) : Double := Double.withSign negative Double.infinityBits

def nan (negative : Bool) : Double :=
  Double.withSign negative (Double.infinityBits + Double.fractionSize / 2)

def isRealMark (c : Char) : Bool := c == '.' || c == 'e' || c == 'E'

def readDecimal? (cs : List Char) : Option Toml :=
  let (negative, unsigned) := readSign cs
  if unsigned = "inf".toList then some (.real (infinity negative))
  else if unsigned = "nan".toList then some (.real (nan negative))
  else if unsigned.any isRealMark then readReal? negative unsigned
  else readInteger? negative unsigned

def isLeapYear (year : Nat) : Bool := year % 4 == 0 && (year % 100 != 0 || year % 400 == 0)

def daysIn (year month : Nat) : Nat :=
  if month = 2 then (if isLeapYear year then 29 else 28)
  else if month = 4 ∨ month = 6 ∨ month = 9 ∨ month = 11 then 30
  else 31

def readField? (count : Nat) (cs : List Char) : Option (Nat × List Char) :=
  let digits := cs.take count
  if digits.length = count ∧ digits.all Char.isDigit then some (digitsValue digits, cs.drop count)
  else none

def readMark? (mark : Char) : List Char → Option (List Char)
  | c :: rest => if c = mark then some rest else none
  | [] => none

def readDate? (cs : List Char) : Option (List Char) := do
  let (year, cs) ← readField? 4 cs
  let (month, cs) ← readField? 2 (← readMark? '-' cs)
  let (day, cs) ← readField? 2 (← readMark? '-' cs)
  if 1 ≤ month ∧ month ≤ 12 ∧ 1 ≤ day ∧ day ≤ daysIn year month then some cs else none

def readSecondFraction? : List Char → Option (List Char)
  | '.' :: rest =>
    if (rest.takeWhile Char.isDigit).isEmpty then none else some (rest.dropWhile Char.isDigit)
  | cs => some cs

/-- The seconds of a time, which may be left out. A leap second counts sixty. -/
def readSeconds? : List Char → Option (List Char)
  | ':' :: rest => do
    let (second, cs) ← readField? 2 rest
    if second ≤ 60 then readSecondFraction? cs else none
  | cs => some cs

def readTime? (cs : List Char) : Option (List Char) := do
  let (hour, cs) ← readField? 2 cs
  let (minute, cs) ← readField? 2 (← readMark? ':' cs)
  if hour ≤ 23 ∧ minute ≤ 59 then readSeconds? cs else none

def readOffset? : List Char → Option (List Char)
  | [] => some []
  | c :: rest =>
    if c = 'Z' ∨ c = 'z' then some rest
    else if c = '+' ∨ c = '-' then do
      let (hour, cs) ← readField? 2 rest
      let (minute, cs) ← readField? 2 (← readMark? ':' cs)
      if hour ≤ 23 ∧ minute ≤ 59 then some cs else none
    else none

def isMomentMark (c : Char) : Bool := c == 'T' || c == 't' || c == ' '

def afterMoment? (cs : List Char) : Option (List Char) :=
  match readTime? cs with
  | some rest => some rest
  | none => do
    match ← readDate? cs with
    | [] => some []
    | mark :: rest => if isMomentMark mark then readOffset? (← readTime? rest) else none

def readScalar? (cs : List Char) : Option Toml :=
  match cs with
  | '0' :: 'x' :: rest => readRadix? 16 isHexDigit rest
  | '0' :: 'o' :: rest => readRadix? 8 (fun c => '0' ≤ c && c ≤ '7') rest
  | '0' :: 'b' :: rest => readRadix? 2 (fun c => c == '0' || c == '1') rest
  | _ =>
    if cs = "true".toList then some (.bool true)
    else if cs = "false".toList then some (.bool false)
    else if afterMoment? cs == some [] then some .moment
    else readDecimal? cs

def isWordChar (c : Char) : Bool := !"=,[]\x7b\x7d \t#\r\n".toList.contains c

def goesOn (c : Char) : Bool := isWordChar c && c != '.' && c != '"' && c != '\''

def takeWords (blanks : List Char) : List Char → List Char × List Char
  | [] => ([], blanks.reverse)
  | c :: rest =>
    if c = ' ' ∨ c = '\t' then takeWords (c :: blanks) rest
    else if goesOn c ∨ (blanks.isEmpty ∧ isWordChar c) then
      let (words, rest) := takeWords [] rest
      (blanks.reverse ++ c :: words, rest)
    else ([], blanks.reverse ++ c :: rest)

/-- A scalar at the front of the text, such as a date and a time with a blank between them. -/
def takeScalar (cs : List Char) : List Char × List Char := takeWords [] cs

end StarQuery.Toml
