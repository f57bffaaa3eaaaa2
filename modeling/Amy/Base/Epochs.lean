import Mathlib.Data.List.Basic

/-!
# Work stamped with an epoch

Work is numbered in the order it is issued and stamped with the epoch it is
issued in; a new epoch makes all earlier work stale. `Stamped cut next epoch
closed pending`: pending work `(n, e)` carries the current epoch exactly when it
was issued from number `cut` on, which is where the epoch began, and a system
that is `closed` has stale work only.
-/

namespace Amy.Base

structure Stamped (cut next epoch : Nat) (closed : Prop) (pending : List (Nat × Nat)) : Prop where
  begun : cut ≤ next
  issued : ∀ p ∈ pending, p.1 < next
  stamp : ∀ p ∈ pending, p.2 ≤ epoch ∧ (p.2 = epoch ↔ cut ≤ p.1)
  stale : closed → ∀ p ∈ pending, p.1 < cut

namespace Stamped

variable {cut next epoch : Nat} {closed closed' : Prop} {pending pending' : List (Nat × Nat)}

theorem start (epoch : Nat) (closed : Prop) : Stamped 0 0 epoch closed [] :=
  ⟨Nat.le_refl 0, by simp, by simp, by simp⟩

theorem keep (h : Stamped cut next epoch closed pending) (hsub : pending' ⊆ pending)
    (hc : closed' → closed) : Stamped cut next epoch closed' pending' :=
  ⟨h.begun, fun p hp => h.issued p (hsub hp), fun p hp => h.stamp p (hsub hp),
    fun hc' p hp => h.stale (hc hc') p (hsub hp)⟩

theorem skip (h : Stamped cut next epoch closed pending) :
    Stamped cut (next + 1) epoch closed pending :=
  ⟨Nat.le_succ_of_le h.begun, fun p hp => Nat.lt_succ_of_lt (h.issued p hp), h.stamp, h.stale⟩

theorem issue (h : Stamped cut next epoch closed pending) (hc : ¬ closed') :
    Stamped cut (next + 1) epoch closed' (pending ++ [(next, epoch)]) := by
  refine ⟨Nat.le_succ_of_le h.begun, fun p hp => ?_, fun p hp => ?_, fun hc' => absurd hc' hc⟩ <;>
    rcases List.mem_append.mp hp with hp | hp
  · exact Nat.lt_succ_of_lt (h.issued p hp)
  · obtain rfl := List.mem_singleton.mp hp
    exact Nat.lt_succ_self next
  · exact h.stamp p hp
  · obtain rfl := List.mem_singleton.mp hp
    exact ⟨Nat.le_refl epoch, iff_of_true rfl h.begun⟩

theorem advance (h : Stamped cut next epoch closed pending) (closed' : Prop) :
    Stamped next next (epoch + 1) closed' pending := by
  refine ⟨Nat.le_refl next, h.issued, fun p hp => ?_, fun _ => h.issued⟩
  have hlt := h.issued p hp
  have hle := (h.stamp p hp).1
  omega

/-- A closed system has no work that a new epoch would make stale. -/
theorem advance_closed (h : Stamped cut next epoch closed pending) (hc : closed) :
    Stamped next next epoch closed pending := by
  refine ⟨Nat.le_refl next, h.issued, fun p hp => ⟨(h.stamp p hp).1, ?_⟩, fun _ => h.issued⟩
  have hlt := h.issued p hp
  have hstale := h.stale hc p hp
  have hiff := (h.stamp p hp).2
  omega

end Stamped

end Amy.Base
