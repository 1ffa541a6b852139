import StarQuery.Text.CaseClass
import StarQuery.Text.CharClass

/-!
A display label from a technical name: `manufacturer_address` becomes `Manufacturer Address`. Only
ASCII letters change their case.
-/
namespace StarQuery.Naming

structure TitleState where
  newWord : Bool
  firstWord : Bool
  started : Bool
  last : Char

def TitleState.initial : TitleState := ⟨true, true, false, ' '⟩

/-- What one character writes, and the state after it. Anything but a letter or numeral ends a word,
as does a numeral itself; a capital after a small letter begins one. -/
def TitleState.step (s : TitleState) (c : Char) : List Char × TitleState :=
  if !Text.isAlphanumeric c then ([], { s with newWord := s.newWord || s.started })
  else if Text.isNumeral c then ([c], { s with newWord := true, started := true })
  else if s.newWord || (Text.isLower s.last && Text.isUpper c) then
    ((if s.firstWord then [] else [' ']) ++ [c.toUpper],
      { s with newWord := false, firstWord := false, started := true })
  else ([c.toLower], { s with started := true, last := c })

def titleFrom (s : TitleState) : List Char → List Char
  | [] => []
  | c :: rest =>
    let (written, next) := s.step c
    written ++ titleFrom next rest

def humanize (name : String) : String := String.ofList (titleFrom .initial name.toList)

end StarQuery.Naming
