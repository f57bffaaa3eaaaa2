/-!
# Vectors behind shared pointers

Vectors are allocated one after the other and reached by their number; a pointer
is null or the number of one (`Points`). What a vector is appended is seen
through every pointer to it and through no other.
-/

namespace Amy.Base

variable {α : Type}

structure Vectors (α : Type) where
  cells : List (List α)

namespace Vectors

variable {s t : Vectors α} {p q : Option Nat} {a : Nat} {v : List α}

/-- A pointer that is null or leads to a vector. -/
def Points (s : Vectors α) (p : Option Nat) : Prop := ∀ a ∈ p, a < s.cells.length

/-- `*p`, `none` for a null pointer. -/
def deref (s : Vectors α) (p : Option Nat) : Option (List α) := p.bind fun a => s.cells[a]?

def next (s : Vectors α) : Nat := s.cells.length

def alloc (s : Vectors α) (v : List α) : Vectors α := ⟨s.cells ++ [v]⟩

/-- `push_back` of each of `v` to the vector `a`. -/
def append (s : Vectors α) (a : Nat) (v : List α) : Vectors α := ⟨s.cells.modify a (· ++ v)⟩

theorem points_none : s.Points none := by
  intro a ha
  cases ha

theorem Points.alloc (h : s.Points p) (v : List α) : (s.alloc v).Points p := by
  intro a ha
  have := h a ha
  simp only [Vectors.alloc, List.length_append, List.length_singleton]
  omega

theorem points_next (s : Vectors α) (v : List α) : (s.alloc v).Points (some s.next) := by
  intro a ha
  obtain rfl := Option.some_inj.mp ha
  simp [Vectors.alloc, next]

theorem Points.append (h : s.Points p) (a : Nat) (v : List α) : (s.append a v).Points p := by
  intro b hb
  simpa [Vectors.append] using h b hb

/-- A pointer that is not null leads to a vector. -/
theorem Points.deref_none (h : s.Points p) : s.deref p = none ↔ p = none := by
  cases p with
  | none => simp [deref]
  | some a =>
    have ha : a < s.cells.length := h a rfl
    simp [deref, ha]

theorem deref_alloc (h : s.Points p) (v : List α) : (s.alloc v).deref p = s.deref p := by
  cases p with
  | none => rfl
  | some a =>
    have ha : a < s.cells.length := h a rfl
    simp [deref, Vectors.alloc, List.getElem?_append_left ha]

theorem deref_next (s : Vectors α) (v : List α) : (s.alloc v).deref (some s.next) = some v := by
  simp [deref, Vectors.alloc, next]

theorem deref_append_same (s : Vectors α) (a : Nat) (v : List α) :
    (s.append a v).deref (some a) = (s.deref (some a)).map (· ++ v) := by
  simp [deref, append]

theorem deref_append_other (s : Vectors α) {a : Nat} (v : List α) (h : p ≠ some a) :
    (s.append a v).deref p = s.deref p := by
  cases p with
  | none => rfl
  | some b =>
    have hab : a ≠ b := fun hab => h (by rw [hab])
    simp [deref, append, hab]

/-- **Appending is seen through the pointers to the vector, and no others.** -/
theorem deref_append_iff (h : s.Points (some a)) (v : List α) (p : Option Nat) :
    (s.append a v).deref p = s.deref p ↔ v = [] ∨ p ≠ some a := by
  by_cases hp : p = some a
  · subst hp
    have ha : a < s.cells.length := h a rfl
    rw [deref_append_same]
    simp [deref, ha]
  · simp [deref_append_other s v hp, hp]

end Vectors

end Amy.Base
