import StarQuery.Value.Basic

/-!
Flat result rows: named values in the order of the result. Main statement: no name occurs twice in a
row.
-/
namespace StarQuery.Crosstab

def names (entries : List (String × Value)) : List String := entries.map (·.1)

def putEntry (name : String) (value : Value) : List (String × Value) → List (String × Value)
  | [] => [(name, value)]
  | (n, v) :: rest => if n = name then (n, value) :: rest else (n, v) :: putEntry name value rest

theorem mem_names_putEntry {name other : String} {value : Value} {entries : List (String × Value)} :
    other ∈ names (putEntry name value entries) ↔ other = name ∨ other ∈ names entries := by
  induction entries with
  | nil => simp [putEntry, names]
  | cons entry rest ih =>
    by_cases h : entry.1 = name
    · simp [putEntry, names, h]
    · simp only [names] at ih
      simp only [putEntry, names, h, if_false, List.map_cons, List.mem_cons, ih]
      exact or_left_comm

theorem nodup_names_putEntry {name : String} {value : Value} {entries : List (String × Value)}
    (h : (names entries).Nodup) : (names (putEntry name value entries)).Nodup := by
  induction entries with
  | nil => simp [putEntry, names]
  | cons entry rest ih =>
    obtain ⟨n, v⟩ := entry
    have parts : n ∉ names rest ∧ (names rest).Nodup := List.nodup_cons.mp h
    by_cases same : n = name
    · rw [putEntry, if_pos same]
      exact h
    · have absent : n ∉ names (putEntry name value rest) := by
        rw [mem_names_putEntry, not_or]
        exact ⟨same, parts.1⟩
      rw [putEntry, if_neg same]
      exact List.nodup_cons.mpr ⟨absent, ih parts.2⟩

structure Row where
  entries : List (String × Value)
  distinct : (names entries).Nodup
  deriving DecidableEq

namespace Row

def empty : Row := ⟨[], List.nodup_nil⟩

def put (name : String) (value : Value) (r : Row) : Row :=
  ⟨putEntry name value r.entries, nodup_names_putEntry r.distinct⟩

/-- Of two entries with one name the first gives the place and the last the value. -/
def ofList (entries : List (String × Value)) : Row :=
  entries.foldl (fun r (name, value) => r.put name value) empty

def keys (r : Row) : List String := names r.entries

def get? (r : Row) (name : String) : Option Value := r.entries.lookup name

def value (r : Row) (name : String) : Value := (r.get? name).getD .null

def ofJson? : Json → Option Row
  | .object fields => some (ofList (fields.map fun (name, j) => (name, Value.ofJson j)))
  | _ => none

end Row

end StarQuery.Crosstab
