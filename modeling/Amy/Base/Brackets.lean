import Mathlib.Data.List.Basic

/-!
# Traces in brackets

A thing is opened, used and closed, and opened again: `Bracketed opens closes
free l b`: the trace `l` opens, uses and closes in this order and leaves the
thing open exactly if `b`. An attempt to open may fail, and what is `free` may
come at any time. `Bracketed.since` finds the attempt that opened it and
`Bracketed.covers` the one before each use and each close.
-/

namespace Amy.Base

variable {α : Type} {opens closes free : α → Prop} {l : List α} {a : α} {b : Bool}

inductive Bracketed (opens closes free : α → Prop) : List α → Bool → Prop where
  | nil : Bracketed opens closes free [] false
  /-- An attempt to open, which succeeds if `b`. -/
  | opened {l : List α} {a : α} (b : Bool) : Bracketed opens closes free l false → opens a →
      Bracketed opens closes free (l ++ [a]) b
  | used {l : List α} {a : α} : Bracketed opens closes free l true → ¬ closes a →
      Bracketed opens closes free (l ++ [a]) true
  | closed {l : List α} {a : α} : Bracketed opens closes free l true → closes a →
      Bracketed opens closes free (l ++ [a]) false
  | free {l : List α} {a : α} {b : Bool} : Bracketed opens closes free l b → free a → ¬ closes a →
      Bracketed opens closes free (l ++ [a]) b

namespace Bracketed

/-- After the trace `x` the thing was last opened, not closed. -/
def Covered (opens closes : α → Prop) (x : List α) : Prop :=
  ∃ u o v, x = u ++ o :: v ∧ opens o ∧ ∀ d ∈ v, ¬ closes d

theorem Covered.snoc (h : Covered opens closes l) (ha : ¬ closes a) :
    Covered opens closes (l ++ [a]) := by
  obtain ⟨u, o, v, rfl, ho, hv⟩ := h
  refine ⟨u, o, v ++ [a], by simp, ho, fun d hd => ?_⟩
  rcases List.mem_append.mp hd with hd | hd
  · exact hv d hd
  · exact List.mem_singleton.mp hd ▸ ha

theorem since (h : Bracketed opens closes free l true) : Covered opens closes l := by
  generalize hb : true = b at h
  induction h with
  | nil => cases hb
  | @opened l a b _ ho _ => exact ⟨l, a, [], rfl, ho, by simp⟩
  | used _ hc ih => exact (ih hb).snoc hc
  | closed _ _ _ => cases hb
  | free _ _ hc ih => exact (ih hb).snoc hc

/-- `c` is the last of a trace, or in what comes before its last. -/
theorem snoc_split {x y : List α} {c : α} (h : l ++ [a] = x ++ c :: y) :
    (l = x ∧ a = c) ∨ ∃ z, l = x ++ c :: z := by
  rcases List.eq_nil_or_concat' y with rfl | ⟨z, d, rfl⟩
  · obtain ⟨hx, hc⟩ := List.append_inj' h rfl
    exact .inl ⟨hx, by simpa using hc⟩
  · rw [← List.cons_append, ← List.append_assoc] at h
    exact .inr ⟨z, (List.append_inj' h rfl).1⟩

/-- **Every use and every close is of a thing opened since the close before it.** -/
theorem covers (h : Bracketed opens closes free l b) {x y : List α} {c : α} (hl : l = x ++ c :: y)
    (ho : ¬ opens c) (hf : ¬ free c) : Covered opens closes x := by
  induction h generalizing y with
  | nil => simp at hl
  | opened b _ hopen ih =>
    obtain ⟨-, rfl⟩ | ⟨z, hz⟩ := snoc_split hl
    · exact absurd hopen ho
    · exact ih hz
  | used hprior _ ih =>
    obtain ⟨rfl, -⟩ | ⟨z, hz⟩ := snoc_split hl
    · exact hprior.since
    · exact ih hz
  | closed hprior _ ih =>
    obtain ⟨rfl, -⟩ | ⟨z, hz⟩ := snoc_split hl
    · exact hprior.since
    · exact ih hz
  | free _ hfree _ ih =>
    obtain ⟨-, rfl⟩ | ⟨z, hz⟩ := snoc_split hl
    · exact absurd hfree hf
    · exact ih hz

end Bracketed

end Amy.Base
