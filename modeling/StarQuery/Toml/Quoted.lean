import StarQuery.Toml.Scalar

/-!
Texts of a configuration document: between double quotes with escapes, or between single quotes as
they stand; between three quotes of either kind a text may run over several lines.
-/
namespace StarQuery.Toml

def isPlain (c : Char) : Bool := c == '\t' || (0x20 ≤ c.toNat && c.toNat != 0x7f)

def afterNewline? : List Char → Option (List Char)
  | '\n' :: rest => some rest
  | '\r' :: '\n' :: rest => some rest
  | _ => none

def dropSpaces (cs : List Char) : List Char := cs.dropWhile fun c => c == ' ' || c == '\t'

def readCodePoint? (count : Nat) (cs : List Char) : Option (Char × List Char) :=
  let digits := cs.take count
  let n := digits.foldl (fun n c => 16 * n + hexDigitValue c) 0
  if digits.length = count ∧ digits.all isHexDigit ∧ n.isValidChar then
    some (Char.ofNat n, cs.drop count)
  else none

def readEscape? : List Char → Option (Char × List Char)
  | 'b' :: rest => some ('\x08', rest)
  | 't' :: rest => some ('\t', rest)
  | 'n' :: rest => some ('\n', rest)
  | 'f' :: rest => some ('\x0c', rest)
  | 'r' :: rest => some ('\r', rest)
  | 'e' :: rest => some ('\x1b', rest)
  | '"' :: rest => some ('"', rest)
  | '\\' :: rest => some ('\\', rest)
  | 'x' :: rest => readCodePoint? 2 rest
  | 'u' :: rest => readCodePoint? 4 rest
  | 'U' :: rest => readCodePoint? 8 rest
  | _ => none

def dropLines : List Char → List Char
  | ' ' :: rest => dropLines rest
  | '\t' :: rest => dropLines rest
  | '\n' :: rest => dropLines rest
  | '\r' :: '\n' :: rest => dropLines rest
  | cs => cs

/-- A backslash at the end of a line takes away the blanks and ends of lines up to the next text. -/
def afterContinuation? (cs : List Char) : Option (List Char) :=
  (afterNewline? (dropSpaces cs)).map dropLines

def readLineFrom (quote : Char) (escapes : Bool) :
    Nat → List Char → List Char → Option (String × List Char)
  | 0, _, _ => none
  | _ + 1, _, [] => none
  | fuel + 1, read, c :: rest =>
    if c = quote then some (String.ofList read.reverse, rest)
    else if escapes ∧ c = '\\' then do
      let (c, rest) ← readEscape? rest
      readLineFrom quote escapes fuel (c :: read) rest
    else if isPlain c then readLineFrom quote escapes fuel (c :: read) rest
    else none

def readBlockFrom (quote : Char) (escapes : Bool) :
    Nat → List Char → List Char → Option (String × List Char)
  | 0, _, _ => none
  | _ + 1, _, [] => none
  | fuel + 1, read, c :: rest =>
    if c = quote then
      let run := (c :: rest).takeWhile (· == quote)
      if run.length < 3 then
        readBlockFrom quote escapes fuel (run ++ read) ((c :: rest).drop run.length)
      else
        let extra := min (run.length - 3) 2
        some (String.ofList (read.reverse ++ run.take extra), (c :: rest).drop (extra + 3))
    else if escapes ∧ c = '\\' then
      match afterContinuation? rest with
      | some rest => readBlockFrom quote escapes fuel read rest
      | none => do
        let (c, rest) ← readEscape? rest
        readBlockFrom quote escapes fuel (c :: read) rest
    else
      match c, rest with
      | '\r', '\n' :: rest => readBlockFrom quote escapes fuel ('\n' :: '\r' :: read) rest
      | c, rest =>
        if c = '\n' ∨ isPlain c then readBlockFrom quote escapes fuel (c :: read) rest else none

def readBlock? (quote : Char) (escapes : Bool) (cs : List Char) : Option (String × List Char) :=
  readBlockFrom quote escapes (cs.length + 1) [] ((afterNewline? cs).getD cs)

def readLine? (quote : Char) (escapes : Bool) (cs : List Char) : Option (String × List Char) :=
  readLineFrom quote escapes (cs.length + 1) [] cs

def readText? : List Char → Option (String × List Char)
  | '"' :: '"' :: '"' :: rest => readBlock? '"' true rest
  | '\'' :: '\'' :: '\'' :: rest => readBlock? '\'' false rest
  | '"' :: rest => readLine? '"' true rest
  | '\'' :: rest => readLine? '\'' false rest
  | _ => none

end StarQuery.Toml
