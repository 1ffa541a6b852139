import StarQuery.Ascending
import StarQuery.Number.Notation

/-! Data documents: null, truth values, numbers, texts, lists and objects, and their text without
any blanks. -/
namespace StarQuery

inductive JsonNumber where
  | whole (n : Int)
  | real (x : Double)
  deriving DecidableEq

inductive Json where
  | null
  | bool (b : Bool)
  | number (n : JsonNumber)
  | text (s : String)
  | list (items : List Json)
  | object (fields : List (String × Json))

namespace Json

instance : Inhabited Json := ⟨.null⟩

def int (n : Int) : Json := .number (.whole n)

/-- An object with its fields in ascending order of their names; the last of a repeated name
counts. -/
def ofFields (fields : List (String × Json)) : Json := .object (Ascending.ofEntries fields)

def field? (name : String) : Json → Option Json
  | .object fields => Ascending.get? name fields
  | _ => none

def hexPair (n : Nat) : List Char := [Nat.digitChar (n / 16), Nat.digitChar (n % 16)]

/-- Only the quote, the backslash and control characters are escaped, five of those by a letter. -/
def escapeChar (c : Char) : List Char :=
  if c = '"' then ['\\', '"']
  else if c = '\\' then ['\\', '\\']
  else if c = '\n' then ['\\', 'n']
  else if c = '\r' then ['\\', 'r']
  else if c = '\t' then ['\\', 't']
  else if c = '\x08' then ['\\', 'b']
  else if c = '\x0c' then ['\\', 'f']
  else if c.toNat < 0x20 then ['\\', 'u', '0', '0'] ++ hexPair c.toNat
  else [c]

def textChars (s : String) : List Char := ['"'] ++ s.toList.flatMap escapeChar ++ ['"']

def numberChars : JsonNumber → List Char
  | .whole n => intDigits n
  | .real x => if x.isFinite then DoubleFormat.document.write x else "null".toList

mutual

def chars : Json → List Char
  | .null => "null".toList
  | .bool true => "true".toList
  | .bool false => "false".toList
  | .number n => numberChars n
  | .text s => textChars s
  | .list items => '[' :: itemChars items ++ [']']
  | .object fields => '\x7b' :: fieldChars fields ++ ['\x7d']

def itemChars : List Json → List Char
  | [] => []
  | [item] => chars item
  | item :: items => chars item ++ ',' :: itemChars items

def fieldChars : List (String × Json) → List Char
  | [] => []
  | [(name, value)] => textChars name ++ ':' :: chars value
  | (name, value) :: fields => textChars name ++ ':' :: chars value ++ ',' :: fieldChars fields

end

def compact (j : Json) : String := String.ofList j.chars

end Json

end StarQuery
