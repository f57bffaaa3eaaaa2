import Amy.Base.Runs
import Mathlib.Logic.Function.Basic

/-!
# Parties that share a queue

The entries of a shared queue carry the party they belong to; `restrict k q` is
what party `k` has in it. First in, first out for all is first in, first out for
each.

A run seen through a view of its states, each step being a few steps of the
viewed system, is a run of that system (`Run.seen`).
-/

namespace Amy.Base

variable {κ α β γ σ τ : Type}

/-! ## What is one party's -/

section Restrict

variable [DecidableEq κ] {k j : κ}

def restrict (k : κ) (q : List (κ × α)) : List α :=
  q.filterMap fun p => if p.1 = k then some p.2 else none

@[simp] theorem restrict_nil : restrict k ([] : List (κ × α)) = [] := rfl

@[simp] theorem restrict_append (p q : List (κ × α)) :
    restrict k (p ++ q) = restrict k p ++ restrict k q := by
  simp [restrict]

@[simp] theorem restrict_self (a : α) (q : List (κ × α)) :
    restrict k ((k, a) :: q) = a :: restrict k q := by
  simp [restrict]

theorem restrict_other (h : j ≠ k) (a : α) (q : List (κ × α)) :
    restrict k ((j, a) :: q) = restrict k q := by
  simp [restrict, h]

theorem restrict_cons (j k : κ) (a : α) (q : List (κ × α)) :
    restrict k ((j, a) :: q) = (if j = k then [a] else []) ++ restrict k q := by
  by_cases h : j = k
  · subst h
    simp
  · simp [restrict_other h, h]

theorem restrict_first {q : List (κ × α)} (h : restrict k q ≠ []) :
    ∃ p a r, q = p ++ (k, a) :: r ∧ ∀ x ∈ p, x.1 ≠ k := by
  induction q with
  | nil => exact absurd rfl h
  | cons x q ih =>
    obtain ⟨j, b⟩ := x
    by_cases hj : j = k
    · subst hj
      exact ⟨[], b, q, rfl, by simp⟩
    · rw [restrict_other hj] at h
      obtain ⟨p, a, r, rfl, hp⟩ := ih h
      exact ⟨(j, b) :: p, a, r, rfl, by simpa using ⟨hj, fun a b hm => hp (a, b) hm⟩⟩

theorem count_restrict [DecidableEq α] (a : α) (q : List (κ × α)) :
    (restrict k q).count a = q.count (k, a) := by
  induction q with
  | nil => rfl
  | cons p q ih =>
    obtain ⟨j, b⟩ := p
    by_cases h : j = k
    · subst h
      by_cases hb : b = a
      · simp [hb, ih]
      · simp [List.count_cons_of_ne hb, hb, ih]
    · simp [restrict_other h, ih, h]

theorem restrict_flatMap (f : β → List (κ × α)) (l : List β) :
    restrict k (l.flatMap f) = l.flatMap fun b => restrict k (f b) := by
  induction l with
  | nil => rfl
  | cons b l ih => simp [ih]

end Restrict

/-! ## A run through a view -/

section Seen

variable {step : σ → α → Option σ} {ok : σ → α → Prop} {step' : τ → β → Option τ}
  {ok' : τ → β → Prop} {view : σ → τ}

/-- The steps of the viewed system that the actions `as` from `s` are. -/
def seen (step : σ → α → Option σ) (sees : σ → α → List β) : σ → List α → List β
  | _, [] => []
  | s, a :: as => sees s a ++ ((step s a).map (seen step sees · as)).getD []

theorem seen_snoc (sees : σ → α → List β) {s t : σ} {as : List α} (h : exec step s as = some t)
    (a : α) : seen step sees s (as ++ [a]) = seen step sees s as ++ sees t a := by
  induction as generalizing s with
  | nil =>
    obtain rfl := Option.some_inj.mp h
    cases hs : step s a <;> simp [seen, hs]
  | cons b as ih =>
    obtain ⟨u, hu, ht⟩ := Option.bind_eq_some_iff.mp h
    simp [seen, hu, ih ht]

theorem Run.within {I : σ → Prop} {s t : σ} {as : List α} (h : Run step ok s as t) (h0 : I s)
    (hstep : ∀ u a v, I u → ok u a → step u a = some v → I v) :
    Run step (fun u a => ok u a ∧ I u) s as t := by
  induction h with
  | start => exact .start
  | snoc hr hok hs ih => exact ih.snoc ⟨hok, hr.invariant h0 hstep⟩ hs

/-- **A run seen through a view is a run.** -/
theorem Run.seen {sees : σ → α → List β} {s t : σ} {as : List α} (h : Run step ok s as t)
    (hview : ∀ u a v, ok u a → step u a = some v → Run step' ok' (view u) (sees u a) (view v)) :
    Run step' ok' (view s) (seen step sees s as) (view t) := by
  induction h with
  | start => exact .start
  | snoc hr hok hs ih =>
    rw [seen_snoc sees hr.exec]
    exact ih.trans (hview _ _ _ hok hs)

/-- What each step shows of its action, the run shows of its actions. -/
theorem Run.seen_flatMap {sees : σ → α → List β} {f : β → List γ} {g : α → List γ}
    (hfg : ∀ s a, (sees s a).flatMap f = g a) {s t : σ} {as : List α} (h : Run step ok s as t) :
    (Base.seen step sees s as).flatMap f = as.flatMap g := by
  induction h with
  | start => rfl
  | snoc hr _ _ ih =>
    rw [seen_snoc sees hr.exec]
    simp [ih, hfg]

end Seen

end Amy.Base
