/-!
# References to what an owner holds

Things handed out refer to what one owner holds. `Leased refers held out`: what
a thing of `out` refers to is what is held. An owner that gives up what it holds
only while nothing refers to it keeps this (`Leased.step`).
-/

namespace Amy.Base

variable {α κ : Type} {refers : α → κ → Prop} {held held' : Option κ} {out out' : List α}

def Leased (refers : α → κ → Prop) (held : Option κ) (out : List α) : Prop :=
  ∀ x ∈ out, ∀ k, refers x k → held = some k

/-- Nothing handed out refers to anything. -/
def Unreferred (refers : α → κ → Prop) (out : List α) : Prop := ∀ x ∈ out, ∀ k, ¬ refers x k

theorem Leased.nil (refers : α → κ → Prop) (held : Option κ) : Leased refers held [] := by
  intro x hx
  cases hx

theorem Unreferred.leased (h : Unreferred refers out) (held : Option κ) :
    Leased refers held out :=
  fun x hx k hk => absurd hk (h x hx k)

theorem Leased.sub (h : Leased refers held out) (hsub : out' ⊆ out) : Leased refers held out' :=
  fun x hx => h x (hsub hx)

/-- **A step keeps the references good** if what is held changes only while there
are none, and what is new refers to what is held afterwards. -/
theorem Leased.step (h : Leased refers held out) (hheld : held' = held ∨ Unreferred refers out)
    (hout : ∀ x ∈ out', x ∈ out ∨ ∀ k, refers x k → held' = some k) :
    Leased refers held' out' := by
  have hkept : Leased refers held' out := by
    rcases hheld with rfl | hnone
    · exact h
    · exact hnone.leased held'
  intro x hx
  rcases hout x hx with hx | hnew
  · exact hkept x hx
  · exact hnew

end Amy.Base
