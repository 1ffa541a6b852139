import StarQuery.Json.Basic
import StarQuery.Number.Reading

/-!
Reading a data document. Each reader takes what it needs from the front of the text and returns the
rest with its result, or nothing if the text is malformed.
-/
namespace StarQuery.Json

def dropBlanks (cs : List Char) : List Char :=
  cs.dropWhile fun c => c == ' ' || c == '\n' || c == '\t' || c == '\r'

def hexValue? (c : Char) : Option Nat :=
  if c.isDigit then some (c.toNat - '0'.toNat)
  else if 'a' ≤ c ∧ c ≤ 'f' then some (c.toNat - 'a'.toNat + 10)
  else if 'A' ≤ c ∧ c ≤ 'F' then some (c.toNat - 'A'.toNat + 10)
  else none

def readHex4? : List Char → Option (Nat × List Char)
  | a :: b :: c :: d :: rest => do
    let high := (← hexValue? a) * 16 + (← hexValue? b)
    let low := (← hexValue? c) * 16 + (← hexValue? d)
    some (high * 256 + low, rest)
  | _ => none

/-- The character after a backslash and `u`: one unit, or a high and a low surrogate that together
name a code point beyond the basic plane. -/
def readUnit? (cs : List Char) : Option (Char × List Char) := do
  let (high, rest) ← readHex4? cs
  if 0xD800 ≤ high ∧ high < 0xDC00 then
    match rest with
    | '\\' :: 'u' :: rest =>
      let (low, rest) ← readHex4? rest
      if 0xDC00 ≤ low ∧ low < 0xE000 then
        some (Char.ofNat (0x10000 + (high - 0xD800) * 0x400 + (low - 0xDC00)), rest)
      else none
    | _ => none
  else if 0xDC00 ≤ high ∧ high < 0xE000 then none
  else some (Char.ofNat high, rest)

def plainEscape? : Char → Option Char
  | '"' => some '"'
  | '\\' => some '\\'
  | '/' => some '/'
  | 'b' => some '\x08'
  | 'f' => some '\x0c'
  | 'n' => some '\n'
  | 'r' => some '\r'
  | 't' => some '\t'
  | _ => none

def readTextFrom : Nat → List Char → List Char → Option (String × List Char)
  | 0, _, _ => none
  | _ + 1, _, [] => none
  | fuel + 1, read, c :: rest =>
    if c = '"' then some (String.ofList read.reverse, rest)
    else if c = '\\' then
      match rest with
      | 'u' :: rest => do
        let (c, rest) ← readUnit? rest
        readTextFrom fuel (c :: read) rest
      | e :: rest => do
        let c ← plainEscape? e
        readTextFrom fuel (c :: read) rest
      | [] => none
    else if c.toNat < 0x20 then none
    else readTextFrom fuel (c :: read) rest

def readText? (cs : List Char) : Option (String × List Char) :=
  readTextFrom (cs.length + 1) [] cs

def takeSignificand : Nat → Nat → List Char → Nat × Nat × List Char
  | value, count, [] => (value, count, [])
  | value, count, c :: rest =>
    if c.isDigit && value * 10 + (c.toNat - '0'.toNat) < UInt64.size then
      takeSignificand (value * 10 + (c.toNat - '0'.toNat)) (count + 1) rest
    else (value, count, c :: rest)

def powerOfTen (n : Nat) : Double := Double.nearest false (Nat.pow 10 n) 1

/-- A significand scaled by a power of ten. Both are rounded before they are combined, so the result
can be a step away from the nearest double. A scale beyond the tables divides in stages. -/
def scaled? : Nat → Double → Int → Option Double
  | 0, x, _ => some x
  | fuel + 1, x, exponent =>
    if exponent.natAbs ≤ 308 then
      if 0 ≤ exponent then
        let y := x.mul (powerOfTen exponent.toNat)
        if y.isFinite then some y else none
      else some (x.div (powerOfTen exponent.natAbs))
    else if x.isZero then some x
    else if 0 ≤ exponent then none
    else scaled? fuel (x.div (powerOfTen 308)) (exponent + 308)

/-- A number with a fraction or an exponent, or too long for a word. Digits after those that fit a
word are dropped; before the point each of them still counts as a factor of ten. -/
def real? (negative : Bool) (significand : Nat) (exponent : Int) : Option Double :=
  (scaled? 8 (Double.nearest false significand 1) (max exponent (-2000))).map fun x =>
    if negative then x.neg else x

def readExponent? (cs : List Char) : Option (Int × List Char) :=
  let (negative, digits) := readSign cs
  let taken := digits.takeWhile Char.isDigit
  if taken.isEmpty then none
  else
    let n : Int := digitsValue taken
    some (if negative then -n else n, digits.dropWhile Char.isDigit)

def readScale? (negative : Bool) (significand : Nat) (exponent : Int) :
    List Char → Option (JsonNumber × List Char)
  | c :: rest =>
    if c = 'e' ∨ c = 'E' then do
      let (e, rest) ← readExponent? rest
      some (.real (← real? negative significand (exponent + e)), rest)
    else do some (.real (← real? negative significand exponent), c :: rest)
  | [] => do some (.real (← real? negative significand exponent), [])

def readNumber? (cs : List Char) : Option (JsonNumber × List Char) :=
  let (negative, unsigned) :=
    match cs with
    | '-' :: rest => (true, rest)
    | _ => (false, cs)
  let (significand, taken, afterTaken) := takeSignificand 0 0 unsigned
  let dropped := (afterTaken.takeWhile Char.isDigit).length
  let rest := afterTaken.dropWhile Char.isDigit
  if taken = 0 || (unsigned.head? == some '0' && 1 < taken + dropped) then none
  else
    match rest with
    | '.' :: places =>
      let (extended, more, afterPlaces) := takeSignificand significand 0 places
      if (places.takeWhile Char.isDigit).isEmpty then none
      else readScale? negative extended (dropped - more) (afterPlaces.dropWhile Char.isDigit)
    | 'e' :: _ => readScale? negative significand dropped rest
    | 'E' :: _ => readScale? negative significand dropped rest
    | _ =>
      if 0 < dropped then readScale? negative significand dropped rest
      else if !negative then some (.whole significand, rest)
      else if 0 < significand && significand ≤ Double.signWeight then
        some (.whole (-(significand : Int)), rest)
      else some (.real (Double.nearest true significand 1), rest)

mutual

def readValue? : Nat → List Char → Option (Json × List Char)
  | 0, _ => none
  | fuel + 1, cs =>
    match dropBlanks cs with
    | 'n' :: 'u' :: 'l' :: 'l' :: rest => some (.null, rest)
    | 't' :: 'r' :: 'u' :: 'e' :: rest => some (.bool true, rest)
    | 'f' :: 'a' :: 'l' :: 's' :: 'e' :: rest => some (.bool false, rest)
    | '"' :: rest => do
      let (s, rest) ← readText? rest
      some (.text s, rest)
    | '[' :: rest =>
      match dropBlanks rest with
      | ']' :: rest => some (.list [], rest)
      | rest => do
        let (items, rest) ← readItems? fuel rest
        some (.list items, rest)
    | '\x7b' :: rest =>
      match dropBlanks rest with
      | '\x7d' :: rest => some (.object [], rest)
      | rest => do
        let (fields, rest) ← readFields? fuel rest
        some (ofFields fields, rest)
    | rest => do
      let (n, rest) ← readNumber? rest
      some (.number n, rest)

def readItems? : Nat → List Char → Option (List Json × List Char)
  | 0, _ => none
  | fuel + 1, cs => do
    let (item, rest) ← readValue? fuel cs
    match dropBlanks rest with
    | ',' :: rest =>
      let (items, rest) ← readItems? fuel rest
      some (item :: items, rest)
    | ']' :: rest => some ([item], rest)
    | _ => none

def readFields? : Nat → List Char → Option (List (String × Json) × List Char)
  | 0, _ => none
  | fuel + 1, cs =>
    match dropBlanks cs with
    | '"' :: rest => do
      let (name, rest) ← readText? rest
      match dropBlanks rest with
      | ':' :: rest =>
        let (value, rest) ← readValue? fuel rest
        match dropBlanks rest with
        | ',' :: rest =>
          let (fields, rest) ← readFields? fuel rest
          some ((name, value) :: fields, rest)
        | '\x7d' :: rest => some ([(name, value)], rest)
        | _ => none
      | _ => none
    | _ => none

end

def read? (s : String) : Option Json := do
  let cs := s.toList
  let (j, rest) ← readValue? (2 * cs.length + 2) cs
  if (dropBlanks rest).isEmpty then some j else none

end StarQuery.Json
