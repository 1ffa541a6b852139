import Mathlib.Data.List.Forall2

/-!
Computations that may fail, where they succeed. Main statements: a sequence succeeds through a
result of its first part, and a traversal succeeds exactly when every element does.
-/
namespace StarQuery

variable {α β ε : Type}

theorem bind_ok {x : Except ε α} {f : α → Except ε β} {b : β} (success : x >>= f = .ok b) :
    ∃ a, x = .ok a ∧ f a = .ok b := by
  cases x with
  | error e => cases success
  | ok a => exact ⟨a, rfl, success⟩

theorem map_ok {x : Except ε α} {f : α → β} {b : β} (success : x.map f = .ok b) :
    ∃ a, x = .ok a ∧ f a = b := by
  cases x with
  | error e => cases success
  | ok a => exact ⟨a, rfl, Except.ok.inj success⟩

theorem mapM_eq_ok_iff {f : α → Except ε β} {as : List α} {bs : List β} :
    as.mapM f = .ok bs ↔ List.Forall₂ (fun a b => f a = .ok b) as bs := by
  induction as generalizing bs with
  | nil =>
    cases bs with
    | nil => simp [pure, Except.pure]
    | cons b rest => simp [pure, Except.pure]
  | cons a rest ih =>
    rw [List.mapM_cons]
    cases first : f a with
    | error e =>
      constructor
      · intro h
        cases h
      · rintro (_ | ⟨hb, _⟩)
        rw [first] at hb
        cases hb
    | ok b =>
      cases more : rest.mapM f with
      | error e =>
        constructor
        · intro h
          cases h
        · rintro (_ | ⟨_, htail⟩)
          rw [ih.mpr htail] at more
          cases more
      | ok values =>
        constructor
        · intro h
          obtain rfl : b :: values = bs := by simpa [bind, Except.bind, pure, Except.pure] using h
          exact List.Forall₂.cons first (ih.mp more)
        · rintro (_ | ⟨hb, htail⟩)
          rw [first] at hb
          rw [ih.mpr htail] at more
          cases hb
          cases more
          rfl

theorem eq_map_of_forall₂ {r : α → β → Prop} {f : α → β} {as : List α} {bs : List β}
    (each : ∀ a b, r a b → b = f a) (related : List.Forall₂ r as bs) : bs = as.map f := by
  induction related with
  | nil => rfl
  | cons first _ ih => rw [List.map_cons, ← each _ _ first, ← ih]

theorem exists_left_of_forall₂ {r : α → β → Prop} {as : List α} {bs : List β}
    (related : List.Forall₂ r as bs) {b : β} (member : b ∈ bs) : ∃ a ∈ as, r a b := by
  induction related with
  | nil => cases member
  | @cons a _ _ _ first _ ih =>
    rcases List.mem_cons.mp member with rfl | member
    · exact ⟨a, List.mem_cons_self, first⟩
    · obtain ⟨c, hc, hr⟩ := ih member
      exact ⟨c, List.mem_cons_of_mem a hc, hr⟩

theorem exists_right_of_forall₂ {r : α → β → Prop} {as : List α} {bs : List β}
    (related : List.Forall₂ r as bs) {a : α} (member : a ∈ as) : ∃ b ∈ bs, r a b :=
  exists_left_of_forall₂ (r := flip r) related.flip member

end StarQuery
