import Amy.Base.Clients

/-!
# Crowds of clients

`place c k` is the machine as client `k` of a crowd `c` sees it, and `client c k`
its memory and what its handlers were called with, nothing before it starts. In a
crowd that keeps each client at its program, and can bring any of them to the end
of its round (`Attends`), each makes its program (`Attends.plays`).
-/

namespace Amy.Base

variable {γ κ S T σ ι ο α : Type}

def AtProgram (C : Calls S ι ο) (idle : S → T → Prop) (busy : S → ο → T → Prop)
    (handler : σ → ο → Next σ ι) (p : Play S σ ι ο) (t : T) : Option (σ × List ο) → Prop
  | none => idle p.service t
  | some m => ∃ n, AtPlay C idle busy ((C.round handler)^[n] p) ⟨t, m.1, m.2⟩

variable {step : γ → α → Option γ} {serving : γ → α → Prop} {I : γ → Prop} {place : γ → κ → T}
  {client : γ → κ → Option (σ × List ο)} {C : Calls S ι ο} {ok : S → ι → Prop}
  {idle : S → T → Prop} {busy : S → ο → T → Prop} {handler : κ → σ → ο → Next σ ι}
  {program : κ → Play S σ ι ο}

theorem AtProgram.own [DecidableEq κ] (place : γ → κ → T)
    (client : γ → κ → Option (σ × List ο)) {c c' : γ} {k : κ}
    (h : ∀ j, AtProgram C idle busy (handler j) (program j) (place c j) (client c j))
    (hk : AtProgram C idle busy (handler k) (program k) (place c' k) (client c' k))
    (hother : ∀ j, k ≠ j → place c' j = place c j ∧ client c' j = client c j) (j : κ) :
    AtProgram C idle busy (handler j) (program j) (place c' j) (client c' j) := by
  by_cases hkj : k = j
  · exact hkj ▸ hk
  · rw [(hother j hkj).1, (hother j hkj).2]
    exact h j

/-- What a crowd with invariant `I` does for its clients by the actions that serve
them. -/
structure Attends (step : γ → α → Option γ) (serving : γ → α → Prop) (I : γ → Prop)
    (place : γ → κ → T) (client : γ → κ → Option (σ × List ο)) (C : Calls S ι ο)
    (ok : S → ι → Prop) (idle : S → T → Prop) (busy : S → ο → T → Prop)
    (handler : κ → σ → ο → Next σ ι) (program : κ → Play S σ ι ο) : Prop where
  kept : ∀ {c a c'}, I c → step c a = some c' → I c'
  at_program : ∀ {c}, I c →
    ∀ k, AtProgram C idle busy (handler k) (program k) (place c k) (client c k)
  advance : ∀ {c k m p}, I c → client c k = some m → AtPlay C idle busy p ⟨place c k, m.1, m.2⟩ →
    C.Allowed (handler k) ok p → p.request.isSome → ∃ bs c' m', Run step serving c bs c' ∧
      client c' k = some m' ∧
      AtPlay C idle busy (C.round (handler k) p) ⟨place c' k, m'.1, m'.2⟩
  stuck : ∀ {c k m p}, I c → client c k = some m → AtPlay C idle busy p ⟨place c k, m.1, m.2⟩ →
    (∀ a, serving c a → step c a = none) → p.request = none

namespace Attends

/-- **Any client gets as far as its program**, served in turn with the others. -/
theorem advances (h : Attends step serving I place client C ok idle busy handler program) {c : γ}
    (hc : I c) {k : κ} {m : σ × List ο} (hm : client c k = some m) {p : Play S σ ι ο}
    (hp : AtPlay C idle busy p ⟨place c k, m.1, m.2⟩) (hok : C.Allowed (handler k) ok p) (n : Nat) :
    ∃ bs c' m', Run step serving c bs c' ∧ I c' ∧ client c' k = some m' ∧
      AtPlay C idle busy ((C.round (handler k))^[n] p) ⟨place c' k, m'.1, m'.2⟩ := by
  induction n with
  | zero => exact ⟨[], c, m, .start, hc, hm, hp⟩
  | succ n ih =>
    obtain ⟨bs, d, m', hrun, hd, hmd, hpd⟩ := ih
    rw [Function.iterate_succ_apply']
    cases hr : ((C.round (handler k))^[n] p).request with
    | none =>
      refine ⟨bs, d, m', hrun, hd, hmd, ?_⟩
      rwa [Calls.round_ended hr]
    | some r =>
      obtain ⟨bs', c', m'', hrun', hm', hp'⟩ := h.advance hd hmd hpd (hok.rounds n) (by simp [hr])
      exact ⟨_, c', m'', hrun.trans hrun', hrun'.invariant hd fun _ _ _ hu _ hs => h.kept hu hs,
        hm', hp'⟩

/-- **Each client of a crowd makes its program.** In every state reached, its
handlers have been called with what the first `n` calls return; it can be brought
as far as its program gets, and the crowd is stuck only where every program that
was started has ended. -/
theorem plays (h : Attends step serving I place client C ok idle busy handler program) {c₀ c : γ}
    (h0 : I c₀) {ok' : γ → α → Prop} {as : List α} (hrun : Run step ok' c₀ as c) {k : κ}
    (hok : C.Allowed (handler k) ok (program k)) {m : σ × List ο} (hm : client c k = some m) :
    ∃ n, let q := (C.round (handler k))^[n] (program k)
      m.1 = q.memory ∧ m.2 = q.seen ∧ (q.request = none → idle q.service (place c k)) ∧
        ((∀ a, serving c a → step c a = none) → q.request = none) ∧
        ∀ N, ∃ bs c' m', Run step serving c bs c' ∧ client c' k = some m' ∧
          m'.2 = ((C.round (handler k))^[N + n] (program k)).seen := by
  have hc : I c := hrun.invariant h0 fun _ _ _ hu _ hs => h.kept hu hs
  have hk := h.at_program hc k
  rw [hm] at hk
  obtain ⟨n, hn⟩ := hk
  refine ⟨n, hn.1, hn.2.1, fun hnone => ?_, h.stuck hc hm hn, fun N => ?_⟩
  · have hidle := hn.2.2
    rwa [hnone] at hidle
  · obtain ⟨bs, c', m', hrun', -, hm', hp'⟩ := h.advances hc hm hn (hok.rounds n) N
    rw [← Function.iterate_add_apply] at hp'
    exact ⟨bs, c', m', hrun', hm', hp'.2.1⟩

end Attends

end Amy.Base
