import Amy.Base.Runs
import Mathlib.Logic.Function.Iterate

/-!
# Clients written as completion handlers

A client starts an operation and goes on in the handler of its completion, which
may start the next. `Calls` is a service as blocking calls and `round` one turn
of the client's program with them. `Machine` is a service that works on what is
submitted to it in steps of its own before it answers, `drive` a client on it.
Where the machine realises the calls operation by operation (`Realises`), the
driven client is at every moment at a round of the blocking program
(`Realises.run`), gets stuck only where that has ended (`Realises.stuck`), and
can get as far as it gets (`Realises.completes`).
-/

namespace Amy.Base

variable {S T σ ι ο α : Type}

/-- How a handler ends: with nothing more to do, or by starting an operation, at
once or if the service answers that there is more. -/
inductive Next (σ ι : Type) where
  | stop (m : σ)
  | start (m : σ) (r : ι)
  | startIf (m : σ) (r : ι)
  deriving DecidableEq, Repr

/-- What a handler leaves: the service, its memory, and what it starts. -/
def Next.finish (ask : S → S × Bool) (s : S) : Next σ ι → S × σ × Option ι
  | .stop m => (s, m, none)
  | .start m r => (s, m, some r)
  | .startIf m r =>
    let a := ask s
    (a.1, m, if a.2 then some r else none)

/-! ## The blocking program -/

structure Calls (S ι ο : Type) where
  exec : S → ι → S × ο
  ask : S → S × Bool

/-- A client between two blocking calls. -/
structure Play (S σ ι ο : Type) where
  service : S
  memory : σ
  /-- The call to make next. -/
  request : Option ι
  /-- What the handlers were called with, oldest first. -/
  seen : List ο

def Calls.round (C : Calls S ι ο) (handler : σ → ο → Next σ ι) (p : Play S σ ι ο) :
    Play S σ ι ο :=
  match p.request with
  | none => p
  | some r =>
    let x := C.exec p.service r
    let n := (handler p.memory x.2).finish C.ask x.1
    ⟨n.1, n.2.1, n.2.2, p.seen ++ [x.2]⟩

/-- The program about to make call `r`. -/
def Play.begin (s : S) (m : σ) (r : ι) : Play S σ ι ο := ⟨s, m, some r, []⟩

/-! ## The driven machine -/

structure Machine (T ι ο α : Type) where
  submit : T → ι → T
  /-- A step on what was submitted. -/
  step : T → α → Option T
  /-- The next handler to invoke, with what it is called with. -/
  answer : T → Option (T × ο)
  ask : T → T × Bool

structure Driven (T σ ο : Type) where
  machine : T
  memory : σ
  seen : List ο

inductive DrivenAction (α : Type) where
  | step (a : α)
  /-- The next handler is invoked, and runs. -/
  | handle
  deriving DecidableEq, Repr

def Machine.submitted (M : Machine T ι ο α) (t : T) : Option ι → T
  | none => t
  | some r => M.submit t r

def Machine.drive (M : Machine T ι ο α) (handler : σ → ο → Next σ ι) (d : Driven T σ ο) :
    DrivenAction α → Option (Driven T σ ο)
  | .step a => (M.step d.machine a).map fun t => { d with machine := t }
  | .handle => (M.answer d.machine).map fun x =>
    let n := (handler d.memory x.2).finish M.ask x.1
    ⟨M.submitted n.1 n.2.2, n.2.1, d.seen ++ [x.2]⟩

def Machine.begin (M : Machine T ι ο α) (t : T) (m : σ) (r : ι) : Driven T σ ο :=
  ⟨M.submit t r, m, []⟩

/-! ## Simulation -/

/-- `idle s t`: machine `t` has nothing to do and stands where the calls left
`s`. `busy s o t`: it works on what will leave it as `s`, and answer `o`. Only
calls that `ok` allows are submitted. -/
structure Realises (M : Machine T ι ο α) (C : Calls S ι ο) (ok : S → ι → Prop)
    (idle : S → T → Prop) (busy : S → ο → T → Prop) : Prop where
  submit : ∀ {s t r}, idle s t → ok s r → busy (C.exec s r).1 (C.exec s r).2 (M.submit t r)
  step : ∀ {s o t a t'}, busy s o t → M.step t a = some t' → busy s o t'
  answer : ∀ {s o t t' o'}, busy s o t → M.answer t = some (t', o') → o' = o ∧ idle s t'
  ask : ∀ {s t}, idle s t → (M.ask t).2 = (C.ask s).2 ∧ idle (C.ask s).1 (M.ask t).1
  rests : ∀ {s t}, idle s t → (∀ a, M.step t a = none) ∧ M.answer t = none
  finishes : ∀ {s o t}, busy s o t →
    ∃ as t', Run M.step anyStep t as t' ∧ (M.answer t').isSome

variable {M : Machine T ι ο α} {C : Calls S ι ο} {ok : S → ι → Prop} {idle : S → T → Prop}
  {busy : S → ο → T → Prop} {handler : σ → ο → Next σ ι} {p : Play S σ ι ο} {d d' : Driven T σ ο}

def AtPlay (C : Calls S ι ο) (idle : S → T → Prop) (busy : S → ο → T → Prop) (p : Play S σ ι ο)
    (d : Driven T σ ο) : Prop :=
  d.memory = p.memory ∧ d.seen = p.seen ∧
    p.request.elim (idle p.service d.machine)
      fun r => busy (C.exec p.service r).1 (C.exec p.service r).2 d.machine

def Calls.Allowed (C : Calls S ι ο) (handler : σ → ο → Next σ ι) (ok : S → ι → Prop)
    (p : Play S σ ι ο) : Prop :=
  ∀ n, ∀ r ∈ ((C.round handler)^[n] p).request, ok ((C.round handler)^[n] p).service r

theorem Calls.round_ended (h : p.request = none) : C.round handler p = p := by
  simp [Calls.round, h]

theorem Calls.rounds_ended {n k : Nat} (h : ((C.round handler)^[n] p).request = none) (hk : n ≤ k) :
    (C.round handler)^[k] p = (C.round handler)^[n] p := by
  induction hk with
  | refl => rfl
  | step _ ih =>
    rw [Function.iterate_succ_apply', ih, Calls.round_ended h]

theorem Calls.Allowed.of_ended {n : Nat} (hend : ((C.round handler)^[n] p).request = none)
    (h : ∀ k < n, ∀ r ∈ ((C.round handler)^[k] p).request,
      ok ((C.round handler)^[k] p).service r) : C.Allowed handler ok p := by
  intro k r hr
  rcases Nat.lt_or_ge k n with hk | hk
  · exact h k hk r hr
  · simp [Calls.rounds_ended hend hk, hend] at hr

theorem Calls.Allowed.rounds (h : C.Allowed handler ok p) (n : Nat) :
    C.Allowed handler ok ((C.round handler)^[n] p) := by
  intro m
  have hmn := h (m + n)
  rwa [Function.iterate_add_apply] at hmn

namespace Realises

theorem handled (h : Realises M C ok idle busy) {s : S} {t : T} (hst : idle s t) (n : Next σ ι)
    (hok : ∀ r ∈ (n.finish C.ask s).2.2, ok (n.finish C.ask s).1 r) (os : List ο) :
    AtPlay C idle busy ⟨(n.finish C.ask s).1, (n.finish C.ask s).2.1, (n.finish C.ask s).2.2, os⟩
      ⟨M.submitted (n.finish M.ask t).1 (n.finish M.ask t).2.2, (n.finish M.ask t).2.1, os⟩ := by
  cases n with
  | stop m => exact ⟨rfl, rfl, hst⟩
  | start m r => exact ⟨rfl, rfl, h.submit hst (hok r rfl)⟩
  | startIf m r =>
    obtain ⟨heq, hidle⟩ := h.ask hst
    simp only [Next.finish, heq] at hok ⊢
    refine ⟨rfl, rfl, ?_⟩
    cases hmore : (C.ask s).2 with
    | false => exact hidle
    | true =>
      rw [hmore] at hok
      exact h.submit hidle (hok r rfl)

theorem handle (h : Realises M C ok idle busy) (hp : AtPlay C idle busy p d)
    (hok : C.Allowed handler ok p) (hd : M.drive handler d .handle = some d') :
    AtPlay C idle busy (C.round handler p) d' := by
  obtain ⟨hmem, hseen, hat⟩ := hp
  obtain ⟨⟨t, o⟩, ht, rfl⟩ := Option.map_eq_some_iff.mp hd
  cases hr : p.request with
  | none =>
    rw [hr] at hat
    rw [(h.rests hat).2] at ht
    cases ht
  | some r =>
    rw [hr] at hat
    obtain ⟨rfl, hidle⟩ := h.answer hat ht
    have hnext := hok 1
    simp only [Function.iterate_one, Calls.round, hr] at hnext
    simp only [Calls.round, hr, hmem, hseen]
    exact h.handled hidle _ hnext _

theorem kept (h : Realises M C ok idle busy) (hp : AtPlay C idle busy p d) {a : α} {t : T}
    (hs : M.step d.machine a = some t) : AtPlay C idle busy p { d with machine := t } := by
  obtain ⟨hmem, hseen, hat⟩ := hp
  refine ⟨hmem, hseen, ?_⟩
  cases hr : p.request with
  | none =>
    -- nothing moves once the program has ended
    rw [hr] at hat
    rw [(h.rests hat).1] at hs
    cases hs
  | some r =>
    rw [hr] at hat
    exact h.step hat hs

/-- **A step of the driven client** stays at its round or ends it. -/
theorem drive (h : Realises M C ok idle busy) (hp : AtPlay C idle busy p d)
    (hok : C.Allowed handler ok p) {a : DrivenAction α} (hd : M.drive handler d a = some d') :
    AtPlay C idle busy p d' ∨ AtPlay C idle busy (C.round handler p) d' := by
  cases a with
  | handle => exact .inr (h.handle hp hok hd)
  | step a =>
    obtain ⟨t, ht, rfl⟩ := Option.map_eq_some_iff.mp hd
    exact .inl (h.kept hp ht)

/-- **At every moment the driven client is at a round of the blocking program.** -/
theorem run (h : Realises M C ok idle busy) (hp : AtPlay C idle busy p d)
    (hok : C.Allowed handler ok p) {as : List (DrivenAction α)}
    (hrun : Run (M.drive handler) anyStep d as d') :
    ∃ n, AtPlay C idle busy ((C.round handler)^[n] p) d' := by
  refine hrun.invariant (I := fun d => ∃ n, AtPlay C idle busy ((C.round handler)^[n] p) d)
    ⟨0, hp⟩ fun u a v ⟨n, hn⟩ _ hstep => ?_
  rcases h.drive hn (hok.rounds n) hstep with hv | hv
  · exact ⟨n, hv⟩
  · exact ⟨n + 1, by rwa [Function.iterate_succ_apply']⟩

theorem waits {t t' : T} {as : List α} (hrun : Run M.step anyStep t as t') (m : σ) (os : List ο) :
    Run (M.drive handler) anyStep ⟨t, m, os⟩ (as.map .step) ⟨t', m, os⟩ := by
  induction hrun with
  | start => exact .start
  | snoc _ _ hs ih =>
    rw [List.map_append]
    exact ih.snoc trivial (by simp [Machine.drive, hs])

/-- **The machine answers the call it works on.** -/
theorem advance (h : Realises M C ok idle busy) (hp : AtPlay C idle busy p d)
    (hok : C.Allowed handler ok p) {r : ι} (hr : p.request = some r) :
    ∃ as d', Run (M.drive handler) anyStep d (as ++ [.handle]) d' ∧
      AtPlay C idle busy (C.round handler p) d' := by
  have hat := hp.2.2
  rw [hr] at hat
  obtain ⟨as, t, hrun, ht⟩ := h.finishes hat
  have hbusy : busy (C.exec p.service r).1 (C.exec p.service r).2 t :=
    hrun.invariant (I := fun t => busy (C.exec p.service r).1 (C.exec p.service r).2 t) hat
      fun _ _ _ hu _ hs => h.step hu hs
  have hwait : AtPlay C idle busy p ⟨t, d.memory, d.seen⟩ := ⟨hp.1, hp.2.1, by rw [hr]; exact hbusy⟩
  obtain ⟨d', hd⟩ : ∃ d', M.drive handler ⟨t, d.memory, d.seen⟩ .handle = some d' :=
    Option.isSome_iff_exists.mp (by simpa [Machine.drive] using ht)
  exact ⟨as.map .step, d', (waits hrun d.memory d.seen).snoc trivial hd, h.handle hwait hok hd⟩

theorem stuck (h : Realises M C ok idle busy) (hp : AtPlay C idle busy p d)
    (hok : C.Allowed handler ok p) (hstuck : ∀ a, M.drive handler d a = none) :
    p.request = none := by
  cases hr : p.request with
  | none => rfl
  | some r =>
    obtain ⟨as, d', hrun, -⟩ := h.advance hp hok hr
    have hexec := hrun.exec
    cases as with
    | nil => simp [exec, hstuck] at hexec
    | cons a as => simp [exec, hstuck] at hexec

theorem ended (h : Realises M C ok idle busy) (hp : AtPlay C idle busy p d)
    (hend : p.request = none) (a : DrivenAction α) : M.drive handler d a = none := by
  have hidle := hp.2.2
  rw [hend] at hidle
  obtain ⟨hstep, hanswer⟩ := h.rests hidle
  cases a with
  | step a => simp [Machine.drive, hstep]
  | handle => simp [Machine.drive, hanswer]

/-- **The driven client gets as far as the blocking program.** -/
theorem completes (h : Realises M C ok idle busy) (hp : AtPlay C idle busy p d)
    (hok : C.Allowed handler ok p) (n : Nat) :
    ∃ as d', Run (M.drive handler) anyStep d as d' ∧
      AtPlay C idle busy ((C.round handler)^[n] p) d' := by
  induction n with
  | zero => exact ⟨[], d, .start, hp⟩
  | succ n ih =>
    obtain ⟨as, d', hrun, hat⟩ := ih
    rw [Function.iterate_succ_apply']
    cases hr : ((C.round handler)^[n] p).request with
    | none =>
      exact ⟨as, d', hrun, by rwa [Calls.round_ended hr]⟩
    | some r =>
      obtain ⟨bs, d'', hrun', hat'⟩ := h.advance hat (hok.rounds n) hr
      exact ⟨_, d'', hrun.trans hrun', hat'⟩

/-- **A driven client makes its blocking program.** At every moment its handlers
have been called with what the first `n` calls of the program return, and have
come as far; once the program has ended the machine rests where it ended. The
client is stuck only there, and otherwise gets as far as the program does. -/
theorem plays (h : Realises M C ok idle busy) {s : S} {t : T} {m : σ} {r : ι} (hst : idle s t)
    (hok : C.Allowed handler ok (Play.begin s m r)) {as : List (DrivenAction α)}
    (hrun : Run (M.drive handler) anyStep (M.begin t m r) as d) :
    ∃ n, let p := (C.round handler)^[n] (Play.begin s m r)
      d.memory = p.memory ∧ d.seen = p.seen ∧ (p.request = none → idle p.service d.machine) ∧
        ((∀ a, M.drive handler d a = none) → p.request = none) ∧
        ∀ k, ∃ bs d', Run (M.drive handler) anyStep d bs d' ∧
          d'.seen = ((C.round handler)^[k + n] (Play.begin s m r)).seen := by
  have hbegin : AtPlay C idle busy (Play.begin s m r) (M.begin t m r) :=
    ⟨rfl, rfl, h.submit hst (hok 0 r rfl)⟩
  obtain ⟨n, hn⟩ := h.run hbegin hok hrun
  refine ⟨n, hn.1, hn.2.1, fun hnone => ?_, h.stuck hn (hok.rounds n), fun k => ?_⟩
  · have hidle := hn.2.2
    rwa [hnone] at hidle
  · obtain ⟨bs, d', hrun', hk⟩ := h.completes hn (hok.rounds n) k
    rw [← Function.iterate_add_apply] at hk
    exact ⟨bs, d', hrun', hk.2.1⟩

/-- **A program that only adds to what it has put out**, and ends with `outs`: the
driven client has put out a prefix of it, is stuck only with all of it, and can
get there. -/
theorem puts (h : Realises M C ok idle busy) {s : S} {t : T} {m : σ} {r : ι} (hst : idle s t)
    (hok : C.Allowed handler ok (Play.begin s m r)) {β : Type} (out : σ → List β)
    (hgrow : ∀ n, out ((C.round handler)^[n] (Play.begin s m r)).memory <+:
      out ((C.round handler)^[n + 1] (Play.begin s m r)).memory) {outs : List β} {k : Nat}
    (hend : ((C.round handler)^[k] (Play.begin s m r)).request = none)
    (houts : out ((C.round handler)^[k] (Play.begin s m r)).memory = outs)
    {as : List (DrivenAction α)} (hrun : Run (M.drive handler) anyStep (M.begin t m r) as d) :
    out d.memory <+: outs ∧ ((∀ a, M.drive handler d a = none) → out d.memory = outs) ∧
      ∃ bs d', Run (M.drive handler) anyStep d bs d' ∧ (∀ a, M.drive handler d' a = none) ∧
        out d'.memory = outs := by
  have hbegin : AtPlay C idle busy (Play.begin s m r) (M.begin t m r) :=
    ⟨rfl, rfl, h.submit hst (hok 0 r rfl)⟩
  obtain ⟨n, hn⟩ := h.run hbegin hok hrun
  rw [hn.1]
  have hpast : ∀ j, k ≤ j → (C.round handler)^[j] (Play.begin s m r) =
      (C.round handler)^[k] (Play.begin s m r) := fun j hj => Calls.rounds_ended hend hj
  have hmono : ∀ j, n ≤ j → out ((C.round handler)^[n] (Play.begin s m r)).memory <+:
      out ((C.round handler)^[j] (Play.begin s m r)).memory := fun j hj => by
    induction hj with
    | refl => exact List.prefix_rfl
    | step _ ih => exact ih.trans (hgrow _)
  refine ⟨?_, fun hstuck => ?_, ?_⟩
  · rcases Nat.le_total n k with hnk | hnk
    · exact houts ▸ hmono k hnk
    · have hall : out ((C.round handler)^[n] (Play.begin s m r)).memory = outs := by
        rw [hpast n hnk, houts]
      exact hall ▸ List.prefix_rfl
  · have hnone := h.stuck hn (hok.rounds n) hstuck
    rcases Nat.le_total n k with hnk | hnk
    · rw [← Calls.rounds_ended hnone hnk, houts]
    · rw [hpast n hnk, houts]
  · obtain ⟨bs, d', hrun', hk⟩ := h.completes hn (hok.rounds n) k
    rw [← Function.iterate_add_apply, hpast _ (Nat.le_add_right k n)] at hk
    exact ⟨bs, d', hrun', h.ended hk hend, by rw [hk.1, houts]⟩

end Realises

end Amy.Base
