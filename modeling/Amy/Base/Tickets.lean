import Mathlib.Data.List.Nodup
import Mathlib.Data.List.Perm.Subperm
import Mathlib.Data.List.Range

/-!
# Numbered tickets

Tickets are issued in the order of their numbers; each is held in one place and
may move to another or be lost. `Tickets next lost held`: of the tickets below
`next` those of the list `held` are held, each once, and `lost` are not.
-/

namespace Amy.Base

structure Tickets (next lost : Nat) (held : List Nat) : Prop where
  nodup : held.Nodup
  issued : ∀ n ∈ held, n < next
  total : held.length + lost = next

namespace Tickets

variable {next lost n : Nat} {held held' : List Nat}

theorem start : Tickets 0 0 [] := ⟨.nil, by simp, rfl⟩

theorem perm (h : Tickets next lost held) (hp : held'.Perm held) : Tickets next lost held' :=
  ⟨hp.nodup_iff.mpr h.nodup, fun n hn => h.issued n (hp.mem_iff.mp hn), hp.length_eq ▸ h.total⟩

theorem issue (h : Tickets next lost held) : Tickets (next + 1) lost (next :: held) := by
  have hnew : next ∉ held := fun hn => Nat.lt_irrefl _ (h.issued _ hn)
  refine ⟨List.nodup_cons.mpr ⟨hnew, h.nodup⟩, fun n hn => ?_, ?_⟩
  · rcases List.mem_cons.mp hn with rfl | hn
    · omega
    · have := h.issued n hn
      omega
  · have := h.total
    simp only [List.length_cons]
    omega

theorem lose (h : Tickets next lost (n :: held)) : Tickets next (lost + 1) held := by
  refine ⟨(List.nodup_cons.mp h.nodup).2, fun m hm => h.issued m (by simp [hm]), ?_⟩
  have := h.total
  simp only [List.length_cons] at this
  omega

/-- **Every ticket is held exactly once just when none was lost.** -/
theorem count_eq_one_iff (h : Tickets next lost held) :
    (∀ n < next, held.count n = 1) ↔ lost = 0 := by
  have htotal := h.total
  constructor
  · intro hall
    have hsub : List.range next ⊆ held := fun n hn =>
      List.count_pos_iff.mp (by rw [hall n (List.mem_range.mp hn)]; exact Nat.one_pos)
    have hle := (List.nodup_range.subperm hsub).length_le
    rw [List.length_range] at hle
    omega
  · rintro rfl n hn
    have hsub : held ⊆ List.range next := fun m hm => List.mem_range.mpr (h.issued m hm)
    have hperm : held.Perm (List.range next) :=
      (h.nodup.subperm hsub).perm_of_length_le (by simp [← htotal])
    exact List.nodup_iff_count_eq_one.mp h.nodup n (hperm.mem_iff.mpr (List.mem_range.mpr hn))

end Tickets

/-! ## Tickets held in three places -/

section Places

variable {α : Type} (n : α) (a b c : List α)

theorem perm_first : (a ++ [n] ++ (b ++ c)).Perm (n :: (a ++ (b ++ c))) := by
  rw [List.append_assoc]
  exact List.perm_middle

theorem perm_second : (a ++ (b ++ [n] ++ c)).Perm (n :: (a ++ (b ++ c))) := by
  have h : a ++ (b ++ [n] ++ c) = a ++ b ++ n :: c := by simp
  rw [h, ← List.append_assoc a]
  exact List.perm_middle

theorem perm_third : (a ++ (b ++ (c ++ [n]))).Perm (n :: (a ++ (b ++ c))) := by
  rw [← List.append_assoc, ← List.append_assoc, ← List.append_assoc]
  exact List.perm_append_singleton n _

theorem perm_second_third : (a ++ (b ++ (c ++ [n]))).Perm (a ++ (n :: b ++ c)) :=
  (perm_third n a b c).trans List.perm_middle.symm

end Places

end Amy.Base
