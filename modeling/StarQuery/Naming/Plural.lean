import StarQuery.Text.Casing
import StarQuery.Text.CharClass

/-!
The plural of an English noun: words without a plural, irregular words, then rules on the end of the
word, the most special first.
-/
namespace StarQuery.Naming

inductive Glyph where
  | exactly (c : Char)
  | oneOf (cs : List Char)
  | noneOf (cs : List Char)

def Glyph.admits (c : Char) : Glyph → Bool
  | .exactly d => c == d
  | .oneOf ds => ds.contains c
  | .noneOf ds => !ds.contains c

/-- A word whose stem ends as one of `stems` says, followed by one of `endings`, keeps its stem and
takes `replacement`. -/
structure PluralRule where
  stems : List (List Glyph)
  endings : List String
  replacement : String

def literally (s : String) : List Glyph := s.toList.map .exactly

def rule (stems endings : List String) (replacement : String) : PluralRule :=
  ⟨stems.map literally, endings, replacement⟩

def oneOf (s : String) : Glyph := .oneOf s.toList

def noneOf (s : String) : Glyph := .noneOf s.toList

def uncountable : List String := [
  "accommodation", "adulthood", "advertising", "advice", "aggression", "aid", "air", "aircraft",
  "alcohol", "anger", "applause", "arithmetic", "assistance", "athletics", "bacon", "baggage",
  "beef", "biology", "blood", "botany", "bread", "butter", "carbon", "cardboard", "cash", "chalk",
  "chaos", "chess", "crossroads", "countryside", "dancing", "deer", "dignity", "dirt", "dust",
  "economics", "education", "electricity", "engineering", "enjoyment", "envy", "equipment",
  "ethics", "evidence", "evolution", "fame", "fiction", "flour", "flu", "food", "fuel", "fun",
  "furniture", "gallows", "garbage", "garlic", "genetics", "gold", "golf", "gossip", "grammar",
  "gratitude", "grief", "guilt", "gymnastics", "happiness", "hardware", "harm", "hate", "hatred",
  "health", "heat", "help", "homework", "honesty", "honey", "hospitality", "housework", "humour",
  "hunger", "hydrogen", "ice", "importance", "inflation", "information", "innocence", "iron",
  "irony", "jam", "jewelry", "judo", "karate", "knowledge", "lack", "laughter", "lava", "leather",
  "leisure", "lightning", "linguine", "linguini", "linguistics", "literature", "litter",
  "livestock", "logic", "loneliness", "luck", "luggage", "macaroni", "machinery", "magic",
  "management", "mankind", "marble", "mathematics", "mayonnaise", "measles", "methane", "milk",
  "money", "mud", "music", "mumps", "nature", "news", "nitrogen", "nonsense", "nurture",
  "nutrition", "obedience", "obesity", "oxygen", "pasta", "patience", "physics", "poetry",
  "pollution", "poverty", "pride", "psychology", "publicity", "punctuation", "quartz", "racism",
  "relaxation", "reliability", "research", "respect", "revenge", "rice", "rubbish", "rum",
  "safety", "scenery", "seafood", "seaside", "series", "shame", "sheep", "shopping", "sleep",
  "smoke", "smoking", "snow", "soap", "software", "soil", "spaghetti", "species", "steam", "stuff",
  "stupidity", "sunshine", "symmetry", "tennis", "thirst", "thunder", "timber", "traffic",
  "transportation", "trust", "underwear", "unemployment", "unity", "validity", "veal",
  "vegetation", "vegetarianism", "vengeance", "violence", "vitality", "warmth", "wealth",
  "weather", "welfare", "wheat", "wildlife", "wisdom", "yoga", "zinc", "zoology"]

def irregular : List (String × String) := [
  ("ox", "oxen"), ("man", "men"), ("woman", "women"), ("die", "dice"), ("yes", "yeses"),
  ("foot", "feet"), ("eave", "eaves"), ("goose", "geese"), ("tooth", "teeth"), ("quiz", "quizzes")]

def pluralRules : List PluralRule := [
  rule ["eaux"] [""] "",
  rule ["child"] ["ren", ""] "ren",
  rule ["person", "people"] [""] "ople",
  rule ["mice", "lice", "mouse", "louse"] [""] "ice",
  rule ["matr", "cod", "mur", "sil", "vert", "ind", "append"] ["ix", "ex"] "ices",
  rule ["x", "ch", "ss", "sh", "zz"] [""] "es",
  rule ["xes", "ches", "sses", "shes", "zzes"] [""] "",
  ⟨[[noneOf "ch", oneOf "ieo", oneOf "ln"]], ["ey"], "ies"⟩,
  ⟨[[noneOf "aeiouy"], literally "qu"], ["y"], "ies"⟩,
  rule ["ar", "l", "ea", "eo", "oa", "hoo"] ["f"] "ves",
  rule ["kni", "wi", "li"] ["fe"] "ves",
  rule [""] ["sis"] "ses",
  rule ["apheli", "hyperbat", "periheli", "asyndet", "noumen", "phenomen", "criteri", "organ",
    "prolegomen", "hedr", "automat"] ["a", "on"] "a",
  rule ["agend", "addend", "millenni", "dat", "extrem", "bacteri", "desiderat", "strat",
    "candelabr", "errat", "ov", "symposi", "curricul", "automat", "quor"] ["a", "um"] "a",
  rule ["her", "at", "gr"] ["o"] "oes",
  rule ["seraph", "cherub"] ["im", ""] "im",
  rule ["alumn", "alg", "vertebr"] ["a", "ae"] "ae",
  rule ["alumn", "syllab", "octop", "vir", "radi", "nucle", "fung", "cact", "stimul", "termin",
    "bacill", "foc", "uter", "loc", "strat"] ["us", "i"] "i",
  ⟨[[noneOf "l"] ++ literally "ias", [oneOf "aeiou"] ++ literally "las",
    [oneOf "emjzr"] ++ literally "as", [oneOf "iu"] ++ literally "am"], [""], ""⟩,
  ⟨[literally "e" ++ [oneOf "mn"] ++ literally "u"], ["s", ""], "s"⟩,
  ⟨[literally "alias", [noneOf "aou"] ++ literally "us", literally "tlas", literally "gas",
    literally "ris"], [""], "es"⟩,
  rule ["ax", "test"] ["is"] "es",
  ⟨[[noneOf "aeiou"] ++ literally "ese"], [""], ""⟩,
  rule [""] ["s"] "s"]

def stripStem : List Glyph → List Char → Option (List Char)
  | [], before => some before
  | _ :: _, [] => none
  | g :: stem, c :: before => if g.admits c then stripStem stem before else none

def stripEnding : List Char → List Char → Option (List Char)
  | [], rest => some rest
  | _ :: _, [] => none
  | e :: ending, c :: rest => if e = c then stripEnding ending rest else none

/-- How much of a text, last character first, belongs to the word that ends with the given stem: the
stem and the word characters before it. -/
def wordLength (stem : List Glyph) (reversed : List Char) : Option Nat :=
  (stripStem stem.reverse reversed).map fun before =>
    stem.length + (before.takeWhile Text.isWordChar).length

def PluralRule.plural? (r : PluralRule) (word : List Char) : Option (List Char) :=
  r.endings.findSome? fun ending =>
    (stripEnding ending.toList.reverse word.reverse).bind fun reversed =>
      (r.stems.filterMap fun stem => wordLength stem reversed).max?.map fun length =>
        (reversed.take length).reverse ++ r.replacement.toList

def pluralize (word : String) : String :=
  if uncountable.contains word then word
  else
    match irregular.lookup word with
    | some plural => plural
    | none =>
      match pluralRules.findSome? (·.plural? word.toList) with
      | some plural => String.ofList plural
      | none => word ++ "s"

def modelNouns : List (String × String) := [
  ("person", "people"), ("child", "children"), ("analysis", "analyses"),
  ("criterion", "criteria"), ("datum", "data"), ("medium", "media"), ("index", "indices"),
  ("matrix", "matrices")]

def capitalized : List Char → List Char
  | [] => []
  | c :: rest => Text.upperChar c ++ rest

def lastWord (reversed : List Char) : List Char × List Char :=
  ((reversed.takeWhile (· ≠ ' ')).reverse, (reversed.dropWhile (· ≠ ' ')).reverse)

def pluralizeLabel (label : String) : String :=
  match lastWord label.toList.reverse with
  | ([], _) => label
  | (first :: rest, head) =>
    let small := Text.lower (String.ofList (first :: rest))
    let plural :=
      match modelNouns.find? fun (one, many) => small == one || small == many with
      | some (_, many) => many
      | none => pluralize small
    let written := if Text.isUpper first then capitalized plural.toList else plural.toList
    String.ofList (head ++ written)

end StarQuery.Naming
