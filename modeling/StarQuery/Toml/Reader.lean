import StarQuery.Toml.Quoted
import StarQuery.Toml.Tree

/-!
Reading a configuration document. Each reader takes what it needs from the front of the text and
returns the rest with its result, or nothing if the text is malformed.
-/
namespace StarQuery.Toml

def afterComment : List Char → List Char
  | '#' :: rest => rest.dropWhile isPlain
  | cs => cs

def dropFillerFrom : Nat → List Char → List Char
  | 0, cs => cs
  | fuel + 1, cs =>
    match afterNewline? (afterComment (dropSpaces cs)) with
    | some rest => dropFillerFrom fuel rest
    | none => afterComment (dropSpaces cs)

def dropFiller (cs : List Char) : List Char := dropFillerFrom cs.length cs

def isBareKeyChar (c : Char) : Bool := c.isAlphanum || c == '_' || c == '-'

def readKey? (cs : List Char) : Option (String × List Char) :=
  match cs with
  | '"' :: rest => readLine? '"' true rest
  | '\'' :: rest => readLine? '\'' false rest
  | _ =>
    let name := cs.takeWhile isBareKeyChar
    if name.isEmpty then none else some (String.ofList name, cs.dropWhile isBareKeyChar)

def readPathFrom : Nat → List Char → Option (List String × List Char)
  | 0, _ => none
  | fuel + 1, cs => do
    let (key, rest) ← readKey? (dropSpaces cs)
    match dropSpaces rest with
    | '.' :: rest =>
      let (path, rest) ← readPathFrom fuel rest
      some (key :: path, rest)
    | rest => some ([key], rest)

/-- How deep lists and tables may be nested, and how many keys a path may have. -/
def maxDepth : Nat := 80

def readPath? (cs : List Char) : Option (List String × List Char) := do
  let (path, rest) ← readPathFrom (cs.length + 1) cs
  if path.length ≤ maxDepth then some (path, rest) else none

def readItems? (item : List Char → Option (Toml × List Char)) :
    Nat → List Char → Option (List Toml × List Char)
  | 0, _ => none
  | fuel + 1, cs =>
    match dropFiller cs with
    | ']' :: rest => some ([], rest)
    | cs => do
      let (value, rest) ← item cs
      match dropFiller rest with
      | ',' :: rest =>
        let (values, rest) ← readItems? item fuel rest
        some (value :: values, rest)
      | ']' :: rest => some ([value], rest)
      | _ => none

def readEntry? (skip : List Char → List Char) (item : List Char → Option (Toml × List Char))
    (cs : List Char) : Option ((List String × Toml) × List Char) := do
  let (path, rest) ← readPath? cs
  match skip rest with
  | '=' :: rest =>
    let (value, rest) ← item (skip rest)
    some ((path, value), skip rest)
  | _ => none

def readEntries? (item : List Char → Option (Toml × List Char)) :
    Nat → List Char → Option (List (List String × Toml) × List Char)
  | 0, _ => none
  | fuel + 1, cs =>
    match dropFiller cs with
    | '\x7d' :: rest => some ([], rest)
    | cs => do
      let (entry, rest) ← readEntry? dropFiller item cs
      match rest with
      | ',' :: rest =>
        let (entries, rest) ← readEntries? item fuel rest
        some (entry :: entries, rest)
      | '\x7d' :: rest => some ([entry], rest)
      | _ => none

def readPlain? (cs : List Char) : Option (Toml × List Char) :=
  match readText? cs with
  | some (s, rest) => some (.text s, rest)
  | none => do
    let (scalar, rest) := takeScalar cs
    some (← readScalar? scalar, rest)

def readValue? : Nat → List Char → Option (Toml × List Char)
  | 0, cs => readPlain? cs
  | depth + 1, cs =>
    match cs with
    | '[' :: rest => do
      let (items, rest) ← readItems? (readValue? depth) (cs.length + 1) rest
      some (.list items, rest)
    | '\x7b' :: rest => do
      let (entries, rest) ← readEntries? (readValue? depth) (cs.length + 1) rest
      some (← ofEntries? entries, rest)
    | _ => readPlain? cs

def readStatement? (cs : List Char) : Option (Option Statement × List Char) :=
  match cs with
  | [] => some (none, [])
  | '\n' :: _ => some (none, cs)
  | '\r' :: _ => some (none, cs)
  | '#' :: _ => some (none, cs)
  | '[' :: '[' :: rest => do
    match ← readPath? rest with
    | (path, ']' :: ']' :: rest) => some (some (.openElement path), rest)
    | _ => none
  | '[' :: rest => do
    match ← readPath? rest with
    | (path, ']' :: rest) => some (some (.openTable path), rest)
    | _ => none
  | _ => do
    let ((path, value), rest) ← readEntry? dropSpaces (readValue? maxDepth) cs
    some (some (.assign path value), rest)

def readStatements? : Nat → List Char → Option (List Statement)
  | 0, _ => none
  | fuel + 1, cs => do
    let (statement, rest) ← readStatement? (dropSpaces cs)
    match afterComment (dropSpaces rest) with
    | [] => some statement.toList
    | rest =>
      let statements ← readStatements? fuel (← afterNewline? rest)
      some (statement.toList ++ statements)

def dropMark : List Char → List Char
  | '\ufeff' :: rest => rest
  | cs => cs

def read? (s : String) : Option Toml := do
  let cs := dropMark s.toList
  ofStatements? (← readStatements? (cs.length + 1) cs)

end StarQuery.Toml
