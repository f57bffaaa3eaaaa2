import Amy.Base.Runs

/-!
# Copies of what a system hands out

A system hands things out: an action gives some, and some are still on their
way. Whoever holds one copies and drops it at any time (`Lender.copyStep`).
`Careful idle` runs take an action that `releases` while everything handed out
is `idle`; `Run.lent` is their invariant rule.
-/

namespace Amy.Base

variable {σ α τ : Type}

structure Lender (σ α τ : Type) where
  step : σ → α → Option σ
  /-- Things on their way. -/
  coming : σ → List τ
  /-- Things an action hands out. -/
  gives : σ → α → σ → List τ
  releases : σ → α → Bool

/-- A system and the copies that are held. -/
structure Lent (σ τ : Type) where
  state : σ
  copies : List τ

inductive Lending (α : Type) where
  | act (a : α)
  /-- The `k`th of the things held is copied. -/
  | copy (k : Nat)
  | drop (k : Nat)
  deriving DecidableEq, Repr

/-- The actions of the system itself. -/
def Lending.acts (bs : List (Lending α)) : List α :=
  bs.filterMap fun
    | .act a => some a
    | _ => none

namespace Lender

variable (S : Lender σ α τ)

def copyStep (c : Lent σ τ) : Lending α → Option (Lent σ τ)
  | .act a => match S.step c.state a with
    | none => none
    | some s => some ⟨s, c.copies ++ S.gives c.state a s⟩
  | .copy k => match c.copies[k]? with
    | none => none
    | some x => some { c with copies := c.copies ++ [x] }
  | .drop k => if k < c.copies.length then some { c with copies := c.copies.eraseIdx k } else none

/-- Everything handed out and not dropped. -/
def out (c : Lent σ τ) : List τ := c.copies ++ S.coming c.state

def Careful (idle : τ → Prop) (c : Lent σ τ) : Lending α → Prop
  | .act a => S.releases c.state a = true → ∀ x ∈ S.out c, idle x
  | .copy _ | .drop _ => True

instance (idle : τ → Prop) [DecidablePred idle] (c : Lent σ τ) :
    (b : Lending α) → Decidable (S.Careful idle c b)
  | .act _ => inferInstanceAs (Decidable (_ → _))
  | .copy _ | .drop _ => .isTrue trivial

end Lender

/-- **Invariants of what is handed out.** What holds at the start, of fewer
things too, and is kept by every action that releases idle things only, holds
in every state reached. -/
theorem Run.lent {S : Lender σ α τ} {idle : τ → Prop} {s : σ} {bs : List (Lending α)}
    {c : Lent σ τ} {I : List α → σ → List τ → Prop}
    (hrun : Run S.copyStep (S.Careful idle) ⟨s, []⟩ bs c) (h0 : I [] s (S.coming s))
    (hsub : ∀ as t out out', I as t out → out' ⊆ out → I as t out')
    (hact : ∀ as t out a u, I as t out → S.coming t ⊆ out →
      (S.releases t a = true → ∀ x ∈ out, idle x) → S.step t a = some u →
      I (as ++ [a]) u (out ++ (S.gives t a u ++ S.coming u))) :
    I (Lending.acts bs) c.state (S.out c) := by
  refine hrun.invariantAlong (I := fun bs c => I (Lending.acts bs) c.state (S.out c))
    (by simpa [Lending.acts, Lender.out] using h0) fun bs c b d h hok hstep => ?_
  have hacts : Lending.acts (bs ++ [b]) = Lending.acts bs ++ Lending.acts [b] := by
    simp [Lending.acts]
  rw [hacts]
  cases b with
  | act a =>
    simp only [Lender.copyStep] at hstep
    cases hs : S.step c.state a with
    | none => rw [hs] at hstep; cases hstep
    | some u =>
      rw [hs] at hstep
      cases hstep
      refine hsub _ _ _ _ (hact _ _ _ a u h (List.subset_append_right _ _) hok hs) ?_
      intro x hx
      simp only [Lender.out, List.mem_append] at hx ⊢
      tauto
  | copy k =>
    simp only [Lender.copyStep] at hstep
    cases hk : c.copies[k]? with
    | none => rw [hk] at hstep; cases hstep
    | some y =>
      rw [hk] at hstep
      cases hstep
      have hy : y ∈ c.copies := List.mem_of_getElem? hk
      simp only [Lending.acts, List.filterMap_cons, List.filterMap_nil, List.append_nil]
      refine hsub _ _ _ _ h fun x hx => ?_
      simp only [Lender.out, List.mem_append, List.mem_singleton] at hx ⊢
      rcases hx with (hx | rfl) | hx
      · exact .inl hx
      · exact .inl hy
      · exact .inr hx
  | drop k =>
    simp only [Lender.copyStep] at hstep
    split_ifs at hstep
    cases hstep
    simp only [Lending.acts, List.filterMap_cons, List.filterMap_nil, List.append_nil]
    refine hsub _ _ _ _ h fun x hx => ?_
    simp only [Lender.out, List.mem_append] at hx ⊢
    exact hx.imp_left List.mem_of_mem_eraseIdx

end Amy.Base
