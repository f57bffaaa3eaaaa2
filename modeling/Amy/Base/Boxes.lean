import Mathlib.Logic.Function.Basic
import Mathlib.Data.List.Nodup

/-!
# Boxes

A box holds one cell at most, allocates one for each value it is set to and frees
the one it held. In every `Owned` state a cell is held by one box until it is
freed, which happens once, and `Owned.deref_reset` says that a box holds what it
was set to, whatever the others are set to.
-/

namespace Amy.Base

structure Boxes (α : Type) where
  /-- The address of the cell each box holds. -/
  box : Nat → Option Nat
  /-- What is in each cell, or nothing where none is allocated. -/
  cell : Nat → Option α
  /-- The next address. -/
  fresh : Nat
  /-- The addresses freed, oldest first. -/
  freed : List Nat

namespace Boxes

variable {α : Type} {b : Boxes α} {a k j : Nat} {v : Option α}

def empty : Boxes α := ⟨fun _ => none, fun _ => none, 0, []⟩

/-- Box `k` holds a new cell with the value, or none. -/
def point (b : Boxes α) (k : Nat) : Option α → Boxes α
  | some x => { b with
      box := Function.update b.box k (some b.fresh)
      cell := Function.update b.cell b.fresh (some x)
      fresh := b.fresh + 1 }
  | none => { b with box := Function.update b.box k none }

def free (b : Boxes α) : Option Nat → Boxes α
  | some a => { b with cell := Function.update b.cell a none, freed := b.freed ++ [a] }
  | none => b

/-- Box `k` is set to a value, or emptied: what it held before is freed last. -/
def reset (b : Boxes α) (k : Nat) (v : Option α) : Boxes α := (b.point k v).free (b.box k)

def deref (b : Boxes α) (k : Nat) : Option (Option α) :=
  match b.box k with
  | none => some none
  | some a => (b.cell a).map some

structure Owned (b : Boxes α) : Prop where
  alive : ∀ k a, b.box k = some a → (b.cell a).isSome
  unique : ∀ k j a, b.box k = some a → b.box j = some a → k = j
  held : ∀ a, (b.cell a).isSome → ∃ k, b.box k = some a
  issued : ∀ a, (b.cell a).isSome → a < b.fresh
  once : b.freed.Nodup
  gone : ∀ a, a ∈ b.freed ↔ a < b.fresh ∧ b.cell a = none

theorem empty_owned : Owned (empty : Boxes α) :=
  ⟨nofun, nofun, nofun, nofun, .nil, fun a => by simp [empty]⟩

@[simp] theorem reset_box (b : Boxes α) (k : Nat) (v : Option α) :
    (b.reset k v).box = Function.update b.box k (v.map fun _ => b.fresh) := by
  unfold reset
  cases v <;> cases b.box k <;> rfl

@[simp] theorem reset_fresh (b : Boxes α) (k : Nat) (v : Option α) :
    (b.reset k v).fresh = b.fresh + v.toList.length := by
  unfold reset
  cases v <;> cases b.box k <;> rfl

@[simp] theorem reset_freed (b : Boxes α) (k : Nat) (v : Option α) :
    (b.reset k v).freed = b.freed ++ (b.box k).toList := by
  unfold reset
  cases v <;> cases b.box k <;> simp [point, free]

theorem Owned.fresh_empty (h : Owned b) : b.cell b.fresh = none := by
  cases hc : b.cell b.fresh with
  | none => rfl
  | some x => exact absurd (h.issued b.fresh (by simp [hc])) (by omega)

/-- No box holds an address that is not alive. -/
theorem Owned.box_ne (h : Owned b) (ha : b.cell a = none) (k : Nat) : b.box k ≠ some a := by
  intro hk
  have := h.alive k a hk
  simp [ha] at this

/-- A cell afterwards: the new one, the one that was freed, or one of the others. -/
theorem Owned.cell_reset (h : Owned b) (k : Nat) (v : Option α) (a : Nat) :
    (b.reset k v).cell a =
      if a = b.fresh then v else if b.box k = some a then none else b.cell a := by
  have hempty := h.fresh_empty
  have hnew := h.box_ne hempty k
  unfold reset
  cases hk : b.box k with
  | none => cases v <;> split_ifs with ha <;> simp_all [point, free]
  | some d =>
    have hd : d ≠ b.fresh := fun hd => hnew (hd ▸ hk)
    cases v <;> simp only [point, free, Function.update_apply, Option.some.injEq] <;> grind

theorem Owned.reset (h : Owned b) (k : Nat) (v : Option α) : Owned (b.reset k v) := by
  have hcell := h.cell_reset k v
  have hlt : ∀ j a, b.box j = some a → a < b.fresh := fun j a hj => h.issued a (h.alive j a hj)
  have hbox : ∀ j a, (b.reset k v).box j = some a →
      (j = k ∧ a = b.fresh ∧ v.isSome) ∨ (j ≠ k ∧ b.box j = some a) := by
    intro j a hj
    by_cases hjk : j = k
    · subst hjk
      cases v with
      | none => simp at hj
      | some x => exact .inl ⟨rfl, by simpa using hj.symm, rfl⟩
    · exact .inr ⟨hjk, by simpa [Function.update_of_ne hjk] using hj⟩
  -- another box does not hold the cell that is freed
  have hkeep : ∀ j a, j ≠ k → b.box j = some a → b.box k ≠ some a := fun j a hj ha hk =>
    hj (h.unique j k a ha hk)
  refine ⟨fun j a hj => ?_, fun i j a hi hj => ?_, fun a ha => ?_, fun a ha => ?_, ?_, fun a => ?_⟩
  · rw [hcell]
    rcases hbox j a hj with ⟨-, rfl, hv⟩ | ⟨hjk, ha⟩
    · rwa [if_pos rfl]
    · rw [if_neg (Nat.ne_of_lt (hlt j a ha)), if_neg (hkeep j a hjk ha)]
      exact h.alive j a ha
  · rcases hbox i a hi with ⟨rfl, ha, -⟩ | ⟨hik, ha⟩ <;>
      rcases hbox j a hj with ⟨rfl, ha', -⟩ | ⟨hjk, ha'⟩
    · rfl
    · exact absurd ha (Nat.ne_of_lt (hlt j a ha'))
    · exact absurd ha' (Nat.ne_of_lt (hlt i a ha))
    · exact h.unique i j a ha ha'
  · rw [hcell] at ha
    split_ifs at ha with hf hk
    · obtain ⟨x, rfl⟩ := Option.isSome_iff_exists.mp ha
      exact ⟨k, by simp [hf]⟩
    · cases ha
    · obtain ⟨j, hj⟩ := h.held a ha
      have hjk : j ≠ k := fun hjk => hk (hjk ▸ hj)
      exact ⟨j, by simpa [Function.update_of_ne hjk] using hj⟩
  · rw [hcell] at ha
    rw [reset_fresh]
    split_ifs at ha with hf hk
    · obtain ⟨x, rfl⟩ := Option.isSome_iff_exists.mp ha
      simp [hf]
    · cases ha
    · have := h.issued a ha
      omega
  · rw [reset_freed]
    cases hk : b.box k with
    | none => simpa using h.once
    | some d =>
      have hd : d ∉ b.freed := fun hd => h.box_ne ((h.gone d).mp hd).2 k hk
      refine List.nodup_append.mpr ⟨h.once, by simp, fun x hx y hy hxy => ?_⟩
      obtain rfl : y = d := by simpa using hy
      exact hd (hxy ▸ hx)
  · rw [reset_freed, reset_fresh, hcell, List.mem_append, h.gone]
    have hlen : v.toList.length = if v.isSome then 1 else 0 := by cases v <;> rfl
    have hk := hlt k a
    have halive := h.alive k a
    rw [Option.mem_toList, hlen]
    cases v <;> grind

/-- **A box holds what it was set to**, and no other box is changed. -/
theorem Owned.deref_reset (h : Owned b) (k : Nat) (v : Option α) (j : Nat) :
    (b.reset k v).deref j = if j = k then some v else b.deref j := by
  unfold deref
  rw [reset_box]
  by_cases hj : j = k
  · subst hj
    rw [Function.update_self, if_pos rfl]
    cases v with
    | none => rfl
    | some x => simp [h.cell_reset]
  · rw [Function.update_of_ne hj, if_neg hj]
    cases hb : b.box j with
    | none => rfl
    | some a =>
      have hlt := h.issued a (h.alive j a hb)
      have hk : b.box k ≠ some a := fun hk => hj (h.unique j k a hb hk)
      simp only [h.cell_reset, if_neg (Nat.ne_of_lt hlt), if_neg hk]

end Boxes

end Amy.Base
