/-!
Lists kept in ascending order of a key, without repetition: the order in which cells, observed
values and the fields of a data document are shown. Main statements: inserting adds the new element
and loses none, and a list in ascending order has the elements that it was made of.
-/
namespace StarQuery.Ascending

variable {κ α : Type} [Ord κ]

def insert (x : κ) : List κ → List κ
  | [] => [x]
  | y :: rest =>
    match compare x y with
    | .lt => x :: y :: rest
    | .eq => y :: rest
    | .gt => y :: insert x rest

def ofList (xs : List κ) : List κ := xs.foldl (fun sorted x => insert x sorted) []

def alter (key : κ) (change : Option α → α) : List (κ × α) → List (κ × α)
  | [] => [(key, change none)]
  | (k, a) :: rest =>
    match compare key k with
    | .lt => (key, change none) :: (k, a) :: rest
    | .eq => (k, change (some a)) :: rest
    | .gt => (k, a) :: alter key change rest

def put (key : κ) (a : α) (entries : List (κ × α)) : List (κ × α) :=
  alter key (fun _ => a) entries

def get? (key : κ) : List (κ × α) → Option α
  | [] => none
  | (k, a) :: rest => if compare key k == .eq then some a else get? key rest

/-- Of two entries with one key the later one counts. -/
def ofEntries (entries : List (κ × α)) : List (κ × α) :=
  entries.foldl (fun sorted (key, a) => put key a sorted) []

theorem mem_insert [Std.LawfulEqOrd κ] {x y : κ} {xs : List κ} :
    y ∈ insert x xs ↔ y = x ∨ y ∈ xs := by
  induction xs with
  | nil => simp [insert]
  | cons z rest ih =>
    unfold insert
    split
    · simp
    · next h =>
      have : x = z := Std.LawfulEqOrd.eq_of_compare h
      subst this
      simp
    · simp only [List.mem_cons, ih]
      exact or_left_comm

theorem mem_ofList [Std.LawfulEqOrd κ] {x : κ} {xs : List κ} : x ∈ ofList xs ↔ x ∈ xs := by
  suffices h : ∀ sorted : List κ,
      x ∈ xs.foldl (fun sorted y => insert y sorted) sorted ↔ x ∈ sorted ∨ x ∈ xs by
    simpa [ofList] using h []
  induction xs with
  | nil => simp
  | cons y rest ih =>
    intro sorted
    rw [List.foldl_cons, ih, mem_insert, List.mem_cons, or_left_comm, or_assoc, or_left_comm]

end StarQuery.Ascending
