import Mathlib.Data.List.Basic

/-!
# States that cannot be told apart

A machine answers every action with a reply. Two states are `Alike` when every
list of actions draws the same replies from both; a relation that the actions
keep and under which the replies agree shows states alike (`alike_of_kept`).
-/

namespace Amy.Base

variable {σ α β : Type} {step : σ → α → σ × β}

def after (step : σ → α → σ × β) (s : σ) (as : List α) : σ := as.foldl (fun s a => (step s a).1) s

def replies (step : σ → α → σ × β) : σ → List α → List β
  | _, [] => []
  | s, a :: as => (step s a).2 :: replies step (step s a).1 as

@[simp] theorem after_cons (s : σ) (a : α) (as : List α) :
    after step s (a :: as) = after step (step s a).1 as := rfl

@[simp] theorem replies_nil (s : σ) : replies step s [] = [] := rfl

@[simp] theorem replies_cons (s : σ) (a : α) (as : List α) :
    replies step s (a :: as) = (step s a).2 :: replies step (step s a).1 as := rfl

/-- No list of actions draws different replies. -/
def Alike (step : σ → α → σ × β) (s t : σ) : Prop := ∀ as, replies step s as = replies step t as

/-- **Bisimulation.** States in a relation that every action keeps, and under
which it draws the same reply, are alike. -/
theorem alike_of_kept {R : σ → σ → Prop}
    (hR : ∀ s t a, R s t → (step s a).2 = (step t a).2 ∧ R (step s a).1 (step t a).1) {s t : σ}
    (h : R s t) : Alike step s t := by
  intro as
  induction as generalizing s t with
  | nil => rfl
  | cons a as ih =>
    obtain ⟨hreply, hnext⟩ := hR s t a h
    rw [replies_cons, replies_cons, hreply, ih hnext]

end Amy.Base
