import Mathlib.Data.List.Basic

/-!
# Runs of a partial step function

`step s a` is the state after action `a`, or `none` where `a` is not enabled.
`Run step ok s as t`: the actions `as` lead from `s` to `t` and every step
`(u, a)` on the way satisfies `ok u a`. A run grows at its end, so an
induction over it is about its last step: `Run.invariant` packages the
induction once, `Run.invariantAlong` with the actions taken so far in sight;
`exists_end` is the one of a measure that steps lower.
-/

namespace Amy.Base

variable {σ α : Type} {step : σ → α → Option σ} {ok : σ → α → Prop}

inductive Run (step : σ → α → Option σ) (ok : σ → α → Prop) (s : σ) : List α → σ → Prop where
  | start : Run step ok s [] s
  | snoc {as : List α} {t u : σ} {a : α} : Run step ok s as t → ok t a → step t a = some u →
      Run step ok s (as ++ [a]) u

abbrev anyStep : σ → α → Prop := fun _ _ => True

/-- **Invariants of runs.** What holds at the start and is kept by every
allowed step holds in every state reached. -/
theorem Run.invariant {s t : σ} {as : List α} {I : σ → Prop} (h : Run step ok s as t) (h0 : I s)
    (hstep : ∀ u a v, I u → ok u a → step u a = some v → I v) : I t := by
  induction h with
  | start => exact h0
  | snoc _ hok hs ih => exact hstep _ _ _ ih hok hs

/-- `Run.invariant` for a property of the actions taken so far and the state. -/
theorem Run.invariantAlong {s t : σ} {as : List α} {I : List α → σ → Prop}
    (h : Run step ok s as t) (h0 : I [] s)
    (hstep : ∀ bs u a v, I bs u → ok u a → step u a = some v → I (bs ++ [a]) v) : I as t := by
  induction h with
  | start => exact h0
  | snoc _ hok hs ih => exact hstep _ _ _ _ ih hok hs

theorem Run.trans {s t u : σ} {as bs : List α} (h1 : Run step ok s as t)
    (h2 : Run step ok t bs u) : Run step ok s (as ++ bs) u := by
  induction h2 with
  | start => simpa using h1
  | snoc _ hok hs ih => rw [← List.append_assoc]; exact ih.snoc hok hs

theorem Run.single {s t : σ} {a : α} (hok : ok s a) (h : step s a = some t) :
    Run step ok s [a] t := Run.start.snoc hok h

/-- **Ends of runs.** Where some allowed step keeps `I` and lowers `n` as long as
it is not `done`, a run gets there. -/
theorem exists_end {I done : σ → Prop} (n : σ → Nat)
    (hgo : ∀ s, I s → ¬ done s → ∃ a t, ok s a ∧ step s a = some t ∧ I t ∧ n t < n s) {s : σ}
    (hs : I s) : ∃ as t, Run step ok s as t ∧ I t ∧ done t := by
  induction hn : n s using Nat.strongRecOn generalizing s with
  | ind k ih =>
    by_cases hd : done s
    · exact ⟨[], s, .start, hs, hd⟩
    · obtain ⟨a, t, hok, hstep, ht, hlt⟩ := hgo s hs hd
      obtain ⟨as, u, hrun, hend⟩ := ih _ (hn ▸ hlt) ht rfl
      exact ⟨[a] ++ as, u, (Run.single hok hstep).trans hrun, hend⟩

/-- A run from its actions, computed: `some t` when every action is enabled. -/
def exec (step : σ → α → Option σ) : σ → List α → Option σ
  | s, [] => some s
  | s, a :: as => (step s a).bind (exec step · as)

theorem exec_append (s : σ) (as bs : List α) :
    exec step s (as ++ bs) = (exec step s as).bind (exec step · bs) := by
  induction as generalizing s with
  | nil => rfl
  | cons a as ih => simp [exec, Option.bind_assoc, ih]

theorem Run.exec {s t : σ} {as : List α} (h : Run step ok s as t) :
    Base.exec step s as = some t := by
  induction h with
  | start => rfl
  | snoc _ _ hs ih => simp [exec_append, ih, Base.exec, hs]

theorem run_of_exec {s t : σ} {as : List α} (hok : ∀ a ∈ as, ∀ u, ok u a)
    (h : exec step s as = some t) : Run step ok s as t := by
  induction as generalizing s with
  | nil => simp only [exec, Option.some.injEq] at h; subst h; exact .start
  | cons a as ih =>
    simp only [exec, Option.bind_eq_some_iff] at h
    obtain ⟨u, hu, hr⟩ := h
    exact (Run.single (hok a (by simp) s) hu).trans (ih (fun b hb => hok b (by simp [hb])) hr)

/-- `step` where it is allowed, and no step elsewhere. -/
def allowed (step : σ → α → Option σ) (ok : σ → α → Prop) [∀ s a, Decidable (ok s a)] (s : σ)
    (a : α) : Option σ :=
  if ok s a then step s a else none

theorem run_of_exec_allowed [∀ s a, Decidable (ok s a)] {s t : σ} {as : List α}
    (h : exec (allowed step ok) s as = some t) : Run step ok s as t := by
  induction as generalizing s with
  | nil => simp only [exec, Option.some.injEq] at h; subst h; exact .start
  | cons a as ih =>
    simp only [exec, Option.bind_eq_some_iff, allowed] at h
    obtain ⟨u, hu, hr⟩ := h
    split_ifs at hu with hok
    exact (Run.single hok hu).trans (ih hr)

end Amy.Base
