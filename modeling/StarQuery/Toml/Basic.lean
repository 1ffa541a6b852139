import StarQuery.Number.Nearest

/-!
Configuration documents: tables of named values. A document is a sequence of statements; taken in
order they build one tree of tables.
-/
namespace StarQuery

inductive Toml where
  | text (s : String)
  | integer (n : Int)
  | real (x : Double)
  | bool (b : Bool)
  /-- What has the form of a number but no value: it is out of range, has no digits, or has
  characters among its digits that are none. Only asking for its value is an error. -/
  | unvalued
  | moment
  | list (items : List Toml)
  | table (fields : List (String × Toml))

namespace Toml

instance : Inhabited Toml := ⟨.table []⟩

inductive Statement where
  | assign (path : List String) (value : Toml)
  | openTable (path : List String)
  | openElement (path : List String)

mutual

def isValued : Toml → Bool
  | .unvalued => false
  | .list items => allValued items
  | .table fields => fieldsValued fields
  | _ => true

def allValued : List Toml → Bool
  | [] => true
  | item :: rest => item.isValued && allValued rest

def fieldsValued : List (String × Toml) → Bool
  | [] => true
  | (_, value) :: rest => value.isValued && fieldsValued rest

end

def field? (name : String) : Toml → Option Toml
  | .table fields => (fields.find? (·.1 == name)).map (·.2)
  | _ => none

end Toml

end StarQuery
