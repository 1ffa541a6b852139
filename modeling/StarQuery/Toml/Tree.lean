import StarQuery.Toml.Basic

/-!
The tables of a document while its statements are taken in. A table remembers how it came about,
because only some may be opened or extended later: each table is opened at most once, and what a
value or a dotted key has defined is not opened again.
-/
namespace StarQuery.Toml

inductive Origin where
  | opened
  | implied
  | dotted
  deriving DecidableEq

inductive Node where
  | leaf (value : Toml)
  | table (origin : Origin) (fields : List (String × Node))
  | elements (latest : List (String × Node)) (earlier : List (List (String × Node)))

abbrev Fields := List (String × Node)

namespace Fields

def get? (key : String) (fields : Fields) : Option Node := (fields.find? (·.1 == key)).map (·.2)

def replace (key : String) (node : Node) (fields : Fields) : Fields :=
  fields.map fun (k, n) => if k = key then (k, node) else (k, n)

/-- Changes the table at the end of a path and creates those on the way that are not there, with the
origin `fresh`. A dotted key does not lead into a table that has been opened. Of a list of tables
the path leads into the latest. -/
def descend (fresh : Origin) (change : Origin → Fields → Option Fields) :
    List String → Origin → Fields → Option Fields
  | [], origin, fields => change origin fields
  | key :: path, _, fields =>
    match get? key fields with
    | none => do
      let inner ← descend fresh change path fresh []
      some (fields ++ [(key, .table fresh inner)])
    | some (.leaf _) => none
    | some (.table origin inner) =>
      if fresh = .dotted ∧ origin = .opened then none
      else do
        let inner ← descend fresh change path origin inner
        some (replace key (.table origin inner) fields)
    | some (.elements latest earlier) => do
      let latest ← descend fresh change path .opened latest
      some (replace key (.elements latest earlier) fields)

def assign (path : List String) (value : Toml) (fields : Fields) : Option Fields := do
  let key ← path.getLast?
  let owners := path.dropLast
  let put (origin : Origin) (inner : Fields) : Option Fields :=
    if (origin == .dotted) == owners.isEmpty || (get? key inner).isSome then none
    else some (inner ++ [(key, .leaf value)])
  descend .dotted put owners .opened fields

def openTable (path : List String) (fields : Fields) : Option Fields := do
  let key ← path.getLast?
  let put (_ : Origin) (inner : Fields) : Option Fields :=
    match get? key inner with
    | none => some (inner ++ [(key, .table .opened [])])
    | some (.table .implied fields) => some (replace key (.table .opened fields) inner)
    | some _ => none
  descend .implied put path.dropLast .opened fields

def openElement (path : List String) (fields : Fields) : Option Fields := do
  let key ← path.getLast?
  let put (_ : Origin) (inner : Fields) : Option Fields :=
    match get? key inner with
    | none => some (inner ++ [(key, .elements [] [])])
    | some (.elements latest earlier) => some (replace key (.elements [] (latest :: earlier)) inner)
    | some _ => none
  descend .implied put path.dropLast .opened fields

end Fields

mutual

def Node.value : Node → Toml
  | .leaf value => value
  | .table _ fields => .table (fieldValues fields)
  | .elements latest earlier => .list (.table (fieldValues latest) :: tableValues earlier).reverse

def fieldValues : List (String × Node) → List (String × Toml)
  | [] => []
  | (key, node) :: rest => (key, node.value) :: fieldValues rest

def tableValues : List (List (String × Node)) → List Toml
  | [] => []
  | fields :: rest => .table (fieldValues fields) :: tableValues rest

end

structure Draft where
  fields : Fields := []
  opened : List String := []

def Draft.take (d : Draft) : Statement → Option Draft
  | .assign path value => do
    let put (_ : Origin) : Fields → Option Fields := Fields.assign path value
    let fields ← Fields.descend .implied put d.opened .opened d.fields
    some { d with fields }
  | .openTable path => do some ⟨← Fields.openTable path d.fields, path⟩
  | .openElement path => do some ⟨← Fields.openElement path d.fields, path⟩

/-- The table that the statements define, unless they contradict one another. -/
def ofStatements? (statements : List Statement) : Option Toml := do
  let draft ← statements.foldlM Draft.take {}
  some (.table (fieldValues draft.fields))

def ofEntries? (entries : List (List String × Toml)) : Option Toml := do
  let fields ← entries.foldlM (fun fields (path, value) => Fields.assign path value fields) []
  some (.table (fieldValues fields))

end StarQuery.Toml
