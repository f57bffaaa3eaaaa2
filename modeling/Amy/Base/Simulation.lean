import Mathlib.Data.List.Basic

/-!
# Simulation between labelled systems

`Trace step s es t`: steps under the labels `es` lead from `s` to `t`. A relation
under which every step of one system is matched by a step of the other under the
same label carries its traces over (`Trace.simulate`), so what the second system
never shows, the first never shows either.
-/

namespace Amy.Base

variable {σ τ ε : Type} {step : σ → ε → σ → Prop} {step' : τ → ε → τ → Prop}

inductive Trace (step : σ → ε → σ → Prop) (s : σ) : List ε → σ → Prop where
  | nil : Trace step s [] s
  | snoc {es : List ε} {t u : σ} {e : ε} : Trace step s es t → step t e u →
      Trace step s (es ++ [e]) u

theorem Trace.cons {s t u : σ} {es : List ε} {e : ε} (hs : step s e t) (h : Trace step t es u) :
    Trace step s (e :: es) u := by
  induction h with
  | nil => exact (show Trace step s ([] ++ [e]) t from .snoc .nil hs)
  | snoc _ hlast ih => exact ih.snoc hlast

theorem Trace.one {s t : σ} {e : ε} (h : Trace step s [e] t) : step s e t := by
  generalize hall : [e] = all at h
  cases h with
  | nil => cases hall
  | @snoc es u _ d hr hs =>
    obtain ⟨hes, hd⟩ := List.append_inj' (show [] ++ [e] = es ++ [d] from hall) rfl
    subst hes
    obtain rfl : e = d := by simpa using hd
    generalize hnil : [] = gs at hr
    cases hr with
    | nil => exact hs
    | snoc => simp at hnil

theorem Trace.split {s u : σ} {es fs : List ε} (h : Trace step s (es ++ fs) u) :
    ∃ t, Trace step s es t ∧ Trace step t fs u := by
  generalize hall : es ++ fs = all at h
  induction h generalizing fs with
  | nil =>
    obtain ⟨rfl, rfl⟩ := List.append_eq_nil_iff.mp hall
    exact ⟨s, .nil, .nil⟩
  | @snoc gs t u e hr hs ih =>
    rcases List.eq_nil_or_concat' fs with rfl | ⟨fs, d, rfl⟩
    · rw [List.append_nil] at hall
      exact ⟨u, hall ▸ hr.snoc hs, .nil⟩
    · rw [← List.append_assoc] at hall
      obtain ⟨hgs, hd⟩ := List.append_inj' hall rfl
      obtain rfl : d = e := by simpa using hd
      obtain ⟨v, hv, hrest⟩ := ih hgs
      exact ⟨v, hv, hrest.snoc hs⟩

/-- **Simulation**: `R` carries the traces of one system over to the other. -/
theorem Trace.simulate {R : σ → τ → Prop}
    (hsim : ∀ s e s' t, R s t → step s e s' → ∃ t', step' t e t' ∧ R s' t') {s s' : σ} {t : τ}
    {es : List ε} (h : Trace step s es s') (hR : R s t) : ∃ t', Trace step' t es t' ∧ R s' t' := by
  induction h with
  | nil => exact ⟨t, .nil, hR⟩
  | snoc _ hs ih =>
    obtain ⟨u, htrace, hu⟩ := ih
    obtain ⟨v, hstep, hv⟩ := hsim _ _ _ _ hu hs
    exact ⟨v, htrace.snoc hstep, hv⟩

end Amy.Base
