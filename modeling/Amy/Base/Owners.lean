import Mathlib.Data.List.Nodup

/-!
# Things with one owner

Things are issued one by one to an owner that holds one at most and releases
what it held when it takes the next; `key` is what a release names. `Owners key
issued released current`: every thing issued is held or was released, once.
-/

namespace Amy.Base

variable {α β : Type}

structure Owners (key : α → β) (issued : List α) (released : List β) (current : Option α) :
    Prop where
  distinct : (issued.map key).Nodup
  accounted : (issued.map key).Perm (released ++ (current.map key).toList)
  held : ∀ a ∈ current, a ∈ issued

namespace Owners

variable {key : α → β} {issued : List α} {released : List β} {current : Option α} {a : α} {b : β}

theorem start (key : α → β) : Owners key [] [] none := ⟨by simp, by simp, by simp⟩

theorem release (h : Owners key issued released current) :
    Owners key issued (released ++ (current.map key).toList) none :=
  ⟨h.distinct, by simpa using h.accounted, by simp⟩

theorem give (h : Owners key issued released current) (hnew : key a ∉ issued.map key) :
    Owners key (issued ++ [a]) (released ++ (current.map key).toList) (some a) := by
  refine ⟨?_, ?_, fun b hb => ?_⟩
  · rw [List.map_append, List.nodup_append]
    refine ⟨h.distinct, by simp, fun b hb c hc he => ?_⟩
    obtain rfl : c = key a := by simpa using hc
    exact hnew (he ▸ hb)
  · simpa using h.accounted.append_right [key a]
  · obtain rfl := Option.some_inj.mp hb
    simp

section Once

variable [DecidableEq β]

/-- What was issued is held and not released, or released once and not held. -/
theorem once (h : Owners key issued released current) (ha : a ∈ issued) :
    (current = some a ∧ released.count (key a) = 0) ∨
      (current ≠ some a ∧ released.count (key a) = 1) := by
  have hone : (released ++ (current.map key).toList).count (key a) = 1 := by
    rw [← h.accounted.count_eq]
    exact List.count_eq_one_of_mem h.distinct (List.mem_map_of_mem ha)
  rw [List.count_append] at hone
  by_cases hc : current = some a
  · subst hc
    simp only [Option.map_some, Option.toList_some, List.count_singleton_self] at hone
    exact .inl ⟨rfl, by omega⟩
  · refine .inr ⟨hc, ?_⟩
    have hzero : (current.map key).toList.count (key a) = 0 := by
      cases current with
      | none => simp
      | some c =>
        -- one key belongs to one thing
        have hne : key c ≠ key a := fun he =>
          hc (congrArg some (List.inj_on_of_nodup_map h.distinct (h.held c rfl) ha he))
        exact List.count_eq_zero.mpr (by simpa using Ne.symm hne)
    omega

theorem count_le_one (h : Owners key issued released current) (b : β) :
    released.count b ≤ 1 := by
  have hle := List.nodup_iff_count_le_one.mp h.distinct b
  rw [h.accounted.count_eq, List.count_append] at hle
  omega

end Once

theorem issued_of_released (h : Owners key issued released current) (hb : b ∈ released) :
    ∃ a ∈ issued, key a = b := by
  have hm : b ∈ issued.map key := h.accounted.mem_iff.mpr (List.mem_append_left _ hb)
  exact List.mem_map.mp hm

end Owners

end Amy.Base
