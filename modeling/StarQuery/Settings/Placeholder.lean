import StarQuery.Settings.Basic
import StarQuery.Text.CharClass

/-!
Placeholders for environment variables in a setting: a dollar sign with a name after it, in braces
or bare. A bare name goes as far as it can; a dollar sign with no name after it stands for itself.
The value of a variable is taken as it is and never looked at for placeholders. Main statement: the
parts of a template are expanded independently of one another.
-/
namespace StarQuery.Settings

abbrev Environment := String → Option String

/-- What follows `name=` at the front of the line `key=value`. A name with an equals sign in it
reaches into the value. -/
def valueIn? (name key value : String) : Option String :=
  let line := key.toList ++ '=' :: value.toList
  if (name.toList ++ ['=']).isPrefixOf line then
    some (String.ofList (line.drop (name.toList.length + 1)))
  else none

def Environment.ofList (values : List (String × String)) : Environment := fun name =>
  values.reverse.findSome? fun (key, value) => valueIn? name key value

inductive Piece where
  | plain (c : Char)
  | variable (name : List Char)
  deriving DecidableEq

def isNameChar (c : Char) : Bool := Text.isAlphanumeric c || c == '_'

/-- A brace that is never closed takes in the rest of the text. -/
def pieces : List Char → List Piece
  | [] => []
  | '$' :: '\x7b' :: rest =>
    .variable (rest.takeWhile (· != '\x7d')) :: pieces ((rest.dropWhile (· != '\x7d')).drop 1)
  | '$' :: rest =>
    if (rest.takeWhile isNameChar).isEmpty then .plain '$' :: pieces rest
    else .variable (rest.takeWhile isNameChar) :: pieces (rest.dropWhile isNameChar)
  | c :: rest => .plain c :: pieces rest
  termination_by cs => cs.length
  decreasing_by
    all_goals
      have braced := (List.dropWhile_sublist (l := rest) (· != '\x7d')).length_le
      have bare := (List.dropWhile_sublist (l := rest) isNameChar).length_le
      simp only [List.length_cons, List.length_drop]
      omega

def Piece.expand (env : Environment) : Piece → Except SettingsError (List Char)
  | .plain c => .ok [c]
  | .variable name =>
    match env (String.ofList name) with
    | some value => .ok value.toList
    | none => .error (.missingVariable (String.ofList name))

def expandAll (env : Environment) : List Piece → Except SettingsError (List Char)
  | [] => .ok []
  | p :: ps => do
    let first ← p.expand env
    let rest ← expandAll env ps
    .ok (first ++ rest)

theorem expandAll_append (env : Environment) (ps qs : List Piece) :
    expandAll env (ps ++ qs) = (do
      let first ← expandAll env ps
      let rest ← expandAll env qs
      .ok (first ++ rest)) := by
  induction ps with
  | nil => cases h : expandAll env qs <;> simp [expandAll, h, bind, Except.bind]
  | cons p ps ih =>
    cases hp : p.expand env <;>
      simp only [List.cons_append, expandAll, hp, bind, Except.bind] at ih ⊢
    cases hps : expandAll env ps <;> cases hqs : expandAll env qs <;> simp [ih, hps, hqs]

def expand (env : Environment) (template : String) : Except SettingsError String :=
  (expandAll env (pieces template.toList)).map String.ofList

def CompilerSettings.resolveDialect (s : CompilerSettings) (env : Environment) :
    Except SettingsError Sql.Dialect := do
  let name ← expand env s.dialect
  match Sql.Dialect.ofName name with
  | .ok dialect => .ok dialect
  | .error _ => .error (.unsupportedDialect name)

end StarQuery.Settings
