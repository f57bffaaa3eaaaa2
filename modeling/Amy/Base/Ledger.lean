import Mathlib.Data.List.Basic
import Mathlib.Data.Nat.Find
import Mathlib.Data.List.Induction

/-!
# A ledger of writes, commits and rollbacks

Writes are named by their position in the history. A write is pending until a
successful commit makes it durable or a successful rollback discards it; a
failed commit or rollback leaves the pending writes as they are. `Kept` says
which writes are durable without running the ledger: those before the last
successful commit that no successful rollback discarded before it.
`mem_durable` and `mem_pending` are the two characterisations.
-/

namespace Amy.Base

namespace Ledger

inductive Event where
  | write
  | commit (ok : Bool)
  | rollback (ok : Bool)
  deriving DecidableEq, Repr

end Ledger

structure Ledger where
  durable : List Nat
  pending : List Nat
  clock : Nat
  deriving DecidableEq, Repr

namespace Ledger

def empty : Ledger := ⟨[], [], 0⟩

def step (l : Ledger) : Event → Ledger
  | .write => ⟨l.durable, l.pending ++ [l.clock], l.clock + 1⟩
  | .commit true => ⟨l.durable ++ l.pending, [], l.clock + 1⟩
  | .rollback true => ⟨l.durable, [], l.clock + 1⟩
  | .commit false | .rollback false => ⟨l.durable, l.pending, l.clock + 1⟩

def run (evs : List Event) : Ledger := evs.foldl step empty

@[simp] theorem run_nil : run [] = empty := rfl

@[simp] theorem run_snoc (evs : List Event) (e : Event) : run (evs ++ [e]) = (run evs).step e := by
  simp [run]

theorem run_two (evs : List Event) (e f : Event) :
    run (evs ++ [e, f]) = ((run evs).step e).step f := by
  simp [run]

/-! ## Histories -/

variable {evs : List Event} {n : Nat}

def CommittedAt (evs : List Event) (k : Nat) : Prop := evs[k]? = some (.commit true)

def RolledBackAt (evs : List Event) (k : Nat) : Prop := evs[k]? = some (.rollback true)

def WrittenAt (evs : List Event) (k : Nat) : Prop := evs[k]? = some .write

/-- The last successful commit of the history is at `j`. -/
def LastCommit (evs : List Event) (j : Nat) : Prop :=
  CommittedAt evs j ∧ ∀ k, j < k → ¬ CommittedAt evs k

/-- A successful rollback before `j` discards what was written at `n`: no
successful commit stands between the two. -/
def Discarded (evs : List Event) (n j : Nat) : Prop :=
  ∃ k, n < k ∧ k < j ∧ RolledBackAt evs k ∧ ∀ l, n < l → l < k → ¬ CommittedAt evs l

/-- Written before the last successful commit and not discarded before it. -/
def Kept (evs : List Event) (n : Nat) : Prop :=
  WrittenAt evs n ∧ ∃ j, LastCommit evs j ∧ n < j ∧ ¬ Discarded evs n j

/-- Written, with no successful commit or rollback after it. -/
def Leftover (evs : List Event) (n : Nat) : Prop :=
  WrittenAt evs n ∧ ∀ k, n < k → ¬ CommittedAt evs k ∧ ¬ RolledBackAt evs k

/-- Some successful commit comes after the write before any successful rollback does. -/
def Sealed (evs : List Event) (n : Nat) : Prop :=
  WrittenAt evs n ∧ ∃ j, n < j ∧ CommittedAt evs j ∧ ∀ k, n < k → k < j → ¬ RolledBackAt evs k

theorem exists_lastCommit {j : Nat} (h : CommittedAt evs j) : ∃ l, LastCommit evs l ∧ j ≤ l := by
  induction hd : evs.length - j using Nat.strongRecOn generalizing j with
  | ind d ih =>
    by_cases hl : ∃ k, j < k ∧ CommittedAt evs k
    · obtain ⟨k, hk, hc⟩ := hl
      have hlen : k < evs.length := (List.getElem?_eq_some_iff.mp hc).1
      obtain ⟨l, hl, hkl⟩ := ih (evs.length - k) (by omega) hc rfl
      exact ⟨l, hl, by omega⟩
    · refine ⟨j, ⟨h, fun k hk hc => hl ⟨k, hk, hc⟩⟩, Nat.le_refl j⟩

theorem sealed_iff_kept : Sealed evs n ↔ Kept evs n := by
  constructor
  · rintro ⟨hw, j, hnj, hc, hno⟩
    obtain ⟨l, hl, hjl⟩ := exists_lastCommit hc
    refine ⟨hw, l, hl, by omega, ?_⟩
    rintro ⟨k, hnk, hkl, hr, hnone⟩
    -- the discarding rollback would have to come before the sealing commit
    by_cases hkj : k < j
    · exact hno k hnk hkj hr
    · have hne : j ≠ k := by
        rintro rfl
        unfold CommittedAt at hc; unfold RolledBackAt at hr
        rw [hc] at hr; cases hr
      exact hnone j hnj (by omega) hc
  · classical
    rintro ⟨hw, j, ⟨hc, _⟩, hnj, hnd⟩
    have hex : ∃ k, n < k ∧ CommittedAt evs k := ⟨j, hnj, hc⟩
    -- the first successful commit after the write seals it
    obtain ⟨hf1, hf2⟩ := Nat.find_spec hex
    refine ⟨hw, Nat.find hex, hf1, hf2, fun k hnk hkf hr => hnd ⟨k, hnk, ?_, hr, ?_⟩⟩
    · exact lt_of_lt_of_le hkf (Nat.find_min' hex ⟨hnj, hc⟩)
    · exact fun l hnl hlk hcl => Nat.find_min hex (lt_trans hlk hkf) ⟨hnl, hcl⟩

theorem run_clock (evs : List Event) : (run evs).clock = evs.length := by
  induction evs using List.reverseRecOn with
  | nil => rfl
  | append_singleton evs e ih =>
    rw [run_snoc, List.length_append]
    cases e with
    | write => simp [step, ih]
    | commit ok => cases ok <;> simp [step, ih]
    | rollback ok => cases ok <;> simp [step, ih]

theorem leftover_snoc (evs : List Event) (e : Event) : Leftover (evs ++ [e]) n ↔
    (e = .write ∧ n = evs.length) ∨
      (Leftover evs n ∧ e ≠ .commit true ∧ e ≠ .rollback true) := by
  simp only [Leftover, WrittenAt, CommittedAt, RolledBackAt, List.getElem?_append,
    List.getElem?_singleton]
  grind

theorem sealed_snoc (evs : List Event) (e : Event) : Sealed (evs ++ [e]) n ↔
    Sealed evs n ∨ (e = .commit true ∧ Leftover evs n) := by
  simp only [Sealed, Leftover, WrittenAt, CommittedAt, RolledBackAt, List.getElem?_append,
    List.getElem?_singleton]
  grind

theorem mem_pending : n ∈ (run evs).pending ↔ Leftover evs n := by
  induction evs using List.reverseRecOn with
  | nil => simp [empty, Leftover, WrittenAt]
  | append_singleton evs e ih =>
    rw [run_snoc, leftover_snoc, ← ih, ← run_clock]
    cases e with
    | write => simp [step, or_comm]
    | commit ok => cases ok <;> simp [step]
    | rollback ok => cases ok <;> simp [step]

theorem mem_durable_sealed : n ∈ (run evs).durable ↔ Sealed evs n := by
  induction evs using List.reverseRecOn with
  | nil => simp [empty, Sealed, WrittenAt]
  | append_singleton evs e ih =>
    rw [run_snoc, sealed_snoc, ← ih, ← mem_pending]
    cases e with
    | write => simp [step]
    | commit ok => cases ok <;> simp [step]
    | rollback ok => cases ok <;> simp [step]

/-- **The durable writes of a history.** -/
theorem mem_durable : n ∈ (run evs).durable ↔ Kept evs n := by
  rw [mem_durable_sealed, sealed_iff_kept]

theorem Leftover.not_kept (h : Leftover evs n) : ¬ Kept evs n := by
  rintro ⟨_, j, ⟨hc, _⟩, hnj, _⟩
  exact (h.2 j hnj).1 hc

end Ledger

end Amy.Base
