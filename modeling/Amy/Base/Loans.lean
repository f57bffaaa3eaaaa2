import Mathlib.Data.List.Basic

/-!
# Memory that is lent

Blocks are allocated and freed, and things that have their `home` in a block are
lent to someone who uses them later. `Loans.uses` says, for each use, what was
lent and whether its block was still alive.
-/

namespace Amy.Base

variable {β π : Type} [DecidableEq β]

inductive Loan (β π : Type) where
  | alloc (b : β)
  | free (b : β)
  /-- These are lent, in place of what was lent before. -/
  | lend (ps : List π)
  /-- What is lent is used. -/
  | use
  deriving DecidableEq, Repr

structure Loans (β π : Type) where
  alive : List β
  lent : List π
  /-- What was lent at each use, and whether it was alive, oldest first. -/
  uses : List (List (π × Bool))

namespace Loans

def start : Loans β π := ⟨[], [], []⟩

variable (home : π → β)

def step (l : Loans β π) : Loan β π → Loans β π
  | .alloc b => { l with alive := l.alive ++ [b] }
  | .free b => { l with alive := l.alive.erase b }
  | .lend ps => { l with lent := ps }
  | .use => { l with uses := l.uses ++ [l.lent.map fun p => (p, decide (home p ∈ l.alive))] }

def run (l : Loans β π) (es : List (Loan β π)) : Loans β π := es.foldl (step home) l

variable {home} {l : Loans β π} {p : π}

@[simp] theorem run_nil : l.run home [] = l := rfl

@[simp] theorem run_cons (e : Loan β π) (es : List (Loan β π)) :
    l.run home (e :: es) = (l.step home e).run home es := rfl

theorem run_append (es fs : List (Loan β π)) :
    l.run home (es ++ fs) = (l.run home es).run home fs := List.foldl_append

/-- At each use, `good` says which of the things lent were alive. -/
def Uses (good : π → Bool) (l : Loans β π) : Prop := ∀ u ∈ l.uses, ∀ p ∈ u, p.2 = good p.1

omit [DecidableEq β] in
theorem Uses.start (good : π → Bool) : Uses good (start : Loans β π) := by
  intro u hu
  cases hu

theorem Uses.use {good : π → Bool} (h : Uses good l)
    (hlent : ∀ p ∈ l.lent, (home p ∈ l.alive) ↔ good p = true) : Uses good (l.step home .use) := by
  intro u hu
  rcases List.mem_append.mp hu with hu | hu
  · exact h u hu
  · obtain rfl := List.mem_singleton.mp hu
    intro x hx
    obtain ⟨p, hp, rfl⟩ := List.mem_map.mp hx
    simp [hlent p hp]

end Loans

end Amy.Base
