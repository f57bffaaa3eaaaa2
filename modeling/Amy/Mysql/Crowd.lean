import Amy.Mysql.Shutdown
import Amy.Mysql.Clients
import Amy.Base.Crowds

/-!
# Clients that share a `mysql_service`

Every connector of the service has a client, which goes on in its handlers. The
operations of all of them wait in one queue for one worker, and their handlers
are invoked from one io_service: each client makes its own blocking program all
the same, and none of them is ever left waiting for another.
-/

namespace Amy

namespace MysqlService

open Base

variable {M σ : Type}

structure Crowd (M σ : Type) where
  shared : SharedWorld M
  /-- Each client's memory and what its handlers were called with; nothing before
  it starts. -/
  clients : Nat → Option (σ × List Outcome)

inductive CrowdAction where
  /-- Client `k` starts its first operation. -/
  | «begin» (k : Nat)
  | work
  /-- The oldest handler posted is invoked, and runs. -/
  | handle
  deriving DecidableEq, Repr

namespace Crowd

def start (impls : Nat → Implementation M) : Crowd M σ := ⟨.start impls, fun _ => none⟩

variable (L : Library M) (handler : Nat → σ → Outcome → Next σ Request)
  (first : Nat → σ × Request)

def ask (k : Nat) (s : SharedWorld M) : SharedWorld M × Bool :=
  let a := askMore L (s.impls k)
  (s.update k a.1, a.2)

def submitted (k : Nat) (s : SharedWorld M) : Option Request → SharedWorld M
  | none => s
  | some r => s.initiate L k r

def step (c : Crowd M σ) : CrowdAction → Option (Crowd M σ)
  | .begin k =>
    match c.clients k with
    | some _ => none
    | none => some ⟨c.shared.initiate L k (first k).2,
        Function.update c.clients k (some ((first k).1, []))⟩
  | .work => (c.shared.step L .work).map fun s => { c with shared := s }
  | .handle =>
    match c.shared.io with
    | [] => none
    | (k, x) :: _ => (c.shared.step L .deliver).bind fun s => (c.clients k).map fun m =>
      let n := (handler k m.1 x.outcome).finish (ask L k) s
      ⟨submitted L k n.1 n.2.2, Function.update c.clients k (some (n.2.1, m.2 ++ [x.outcome]))⟩

variable {L handler first} {c c' : Crowd M σ} {s : SharedWorld M} {k j : Nat}

/-! ## What a client sees -/

theorem view_work (hup : s.workIoService.isSome) {s' : SharedWorld M}
    (hs : s.step L .work = some s') (k : Nat) :
    s'.view k = s.view k ∨ (s.view k).step L .work = some (s'.view k) := by
  have hrun : Run (World.step L) anyStep (s.view k) (SharedWorld.sees k s .work) (s'.view k) :=
    SharedWorld.step_view hup (by simp) hs k fun _ _ => trivial
  have hview := hrun.exec
  simp only [SharedWorld.sees] at hview
  split_ifs at hview
  · exact .inr (by simpa [exec] using hview)
  · exact .inl (Eq.symm (by simpa [exec] using hview))

theorem view_deliver (hup : s.workIoService.isSome) {s' : SharedWorld M} {x : Completion}
    {cs : List (Nat × Completion)} (hio : s.io = (j, x) :: cs) (hs : s.step L .deliver = some s') :
    (s.view j).step L .deliver = some (s'.view j) ∧ ∀ k, j ≠ k → s'.view k = s.view k := by
  have hrun : ∀ k, Run (World.step L) anyStep (s.view k) (SharedWorld.sees k s .deliver)
      (s'.view k) := fun k => SharedWorld.step_view hup (by simp) hs k fun _ _ => trivial
  have hview := fun k => (hrun k).exec
  simp only [SharedWorld.sees, hio, List.head?_cons, Option.map_some, Option.some.injEq] at hview
  exact ⟨by simpa [exec] using hview j, fun k hjk => Eq.symm (by simpa [exec, hjk] using hview k)⟩

theorem view_submitted (hup : s.workIoService.isSome) (r : Option Request) :
    (submitted L j s r).view k =
      if j = k then (machine L).submitted (s.view k) r else s.view k := by
  cases r with
  | none => simp [submitted, Machine.submitted]
  | some r => exact SharedWorld.view_initiate hup r

theorem view_finish (hup : s.workIoService.isSome) (n : Next σ Request) :
    (n.finish (ask L j) s).2 = (n.finish (machine L).ask (s.view j)).2 ∧
      (submitted L j (n.finish (ask L j) s).1 (n.finish (ask L j) s).2.2).view j =
        (machine L).submitted (n.finish (machine L).ask (s.view j)).1
          (n.finish (machine L).ask (s.view j)).2.2 := by
  cases n with
  | stop m => exact ⟨rfl, rfl⟩
  | start m r => exact ⟨rfl, by simp [Next.finish, view_submitted hup]⟩
  | startIf m r =>
    refine ⟨rfl, ?_⟩
    simp only [Next.finish, ask, machine, SharedWorld.view_impl]
    rw [view_submitted (s := s.update j (askMore L (s.impls j)).1) hup, if_pos rfl,
      SharedWorld.view_update, if_pos rfl]
    rfl

theorem view_other (hup : s.workIoService.isSome) (h : j ≠ k) (n : Next σ Request) :
    (submitted L j (n.finish (ask L j) s).1 (n.finish (ask L j) s).2.2).view k = s.view k := by
  cases n with
  | stop m => rfl
  | start m r => simp [Next.finish, view_submitted hup, h]
  | startIf m r =>
    simp only [Next.finish, ask]
    rw [view_submitted (s := s.update j (askMore L (s.impls j)).1) hup, if_neg h,
      SharedWorld.view_update, if_neg h]

/-! ## Each client makes its own program -/

section Program

variable {impls : Nat → Implementation M}

def program (impls : Nat → Implementation M) (first : Nat → σ × Request) (k : Nat) :
    Play (Implementation M) σ Request Outcome :=
  .begin (impls k) (first k).1 (first k).2

/-- Every client is at its program, and the service is at work. -/
structure Playing (L : Library M) (handler : Nat → σ → Outcome → Next σ Request)
    (first : Nat → σ × Request) (impls : Nat → Implementation M) (c : Crowd M σ) : Prop where
  up : c.shared.workIoService.isSome
  served : c.shared.Served
  at_program : ∀ k, AtProgram (calls L) World.Idle (World.Busy L) (handler k)
    (program impls first k) (c.shared.view k) (c.clients k)

/-- Every operation of every program is one that may be initiated. -/
def Allowed (L : Library M) (handler : Nat → σ → Outcome → Next σ Request)
    (first : Nat → σ × Request) (impls : Nat → Implementation M) : Prop :=
  ∀ k, (calls L).Allowed (handler k) Askable (program impls first k)

theorem initiate_kept (hup : s.workIoService.isSome) (hs : s.Served) (k : Nat) (r : Request) :
    (s.initiate L k r).workIoService.isSome ∧ (s.initiate L k r).Served :=
  ⟨SharedWorld.step_up (L := L) (a := .initiate k r) hup (by simp) rfl,
    hs.step (L := L) (a := .initiate k r) rfl⟩

theorem finish_kept (hup : s.workIoService.isSome) (hs : s.Served) (n : Next σ Request) :
    (submitted L j (n.finish (ask L j) s).1 (n.finish (ask L j) s).2.2).workIoService.isSome ∧
      (submitted L j (n.finish (ask L j) s).1 (n.finish (ask L j) s).2.2).Served := by
  have hsub : ∀ {s : SharedWorld M}, s.workIoService.isSome → s.Served → ∀ r,
      (submitted L j s r).workIoService.isSome ∧ (submitted L j s r).Served := by
    intro s hup hs r
    cases r with
    | none => exact ⟨hup, hs⟩
    | some r => exact initiate_kept hup hs j r
  cases n with
  | stop m => exact ⟨hup, hs⟩
  | start m r => exact hsub hup hs (some r)
  | startIf m r =>
    exact hsub (s := s.update j (askMore L (s.impls j)).1) hup ⟨hs.stays, hs.started, hs.work⟩ _

theorem Playing.begin (h : Playing L handler first impls c) (hok : Allowed L handler first impls)
    (hstep : c.step L handler first (.begin j) = some c') : Playing L handler first impls c' := by
  simp only [step] at hstep
  cases hj : c.clients j with
  | some m => rw [hj] at hstep; cases hstep
  | none =>
    rw [hj] at hstep
    obtain rfl := Option.some_inj.mp hstep
    obtain ⟨hup, hs⟩ := initiate_kept (L := L) h.up h.served j (first j).2
    have hview := fun k => SharedWorld.view_initiate (L := L) (s := c.shared) (j := j) (k := k) h.up
      (first j).2
    refine ⟨hup, hs, AtProgram.own (fun c k => c.shared.view k) clients (k := j) h.at_program ?_
      fun k hjk => ⟨?_, Function.update_of_ne (Ne.symm hjk) _ _⟩⟩
    · have hk := h.at_program j
      rw [hj] at hk
      simp only [hview, if_true, Function.update_self]
      exact ⟨0, rfl, rfl, World.Idle.initiate hk (hok j 0 (first j).2 rfl)⟩
    · simp only [hview, if_neg hjk]

theorem Playing.work (h : Playing L handler first impls c)
    (hstep : c.step L handler first .work = some c') : Playing L handler first impls c' := by
  obtain ⟨s, hs, rfl⟩ := Option.map_eq_some_iff.mp hstep
  refine ⟨SharedWorld.step_up h.up (by simp) hs, h.served.step hs, fun k => ?_⟩
  have hk := h.at_program k
  rcases view_work h.up hs k with hsame | hown
  · rw [hsame]
    exact hk
  · cases hm : c.clients k with
    | none =>
      rw [hm] at hk
      have hidle : (c.shared.view k).work = [] := hk.2.1
      simp [World.step, hidle] at hown
    | some m =>
      rw [hm] at hk
      obtain ⟨n, hn⟩ := hk
      exact ⟨n, (realises L).kept (a := ()) hn hown⟩

theorem step_handle (h : Playing L handler first impls c) {x : Completion}
    {cs : List (Nat × Completion)} (hio : c.shared.io = (j, x) :: cs)
    (hstep : c.step L handler first .handle = some c') :
    (∀ k, j ≠ k → c'.shared.view k = c.shared.view k ∧ c'.clients k = c.clients k) ∧
      (∃ m m', c.clients j = some m ∧ c'.clients j = some m' ∧
        (machine L).drive (handler j) ⟨c.shared.view j, m.1, m.2⟩ .handle =
          some ⟨c'.shared.view j, m'.1, m'.2⟩) ∧
      c'.shared.workIoService.isSome ∧ c'.shared.Served := by
  simp only [step, hio] at hstep
  obtain ⟨s, hs, hstep⟩ := Option.bind_eq_some_iff.mp hstep
  obtain ⟨m, hm, rfl⟩ := Option.map_eq_some_iff.mp hstep
  have hup : s.workIoService.isSome := SharedWorld.step_up h.up (by simp) hs
  obtain ⟨hown, hother⟩ := view_deliver h.up hio hs
  refine ⟨fun k hjk => ⟨?_, Function.update_of_ne (Ne.symm hjk) _ _⟩,
    ⟨m, _, hm, Function.update_self .., ?_⟩, finish_kept hup (h.served.step hs) _⟩
  · rw [view_other hup hjk, hother k hjk]
  · obtain ⟨hmem, hsub⟩ := view_finish (L := L) (j := j) hup (handler j m.1 x.outcome)
    have hhead : (c.shared.view j).io.head? = some x := by simp [SharedWorld.view, hio]
    rw [hsub, hmem]
    simp [Machine.drive, machine, hhead, hown]

theorem Playing.handle (h : Playing L handler first impls c) (hok : Allowed L handler first impls)
    (hstep : c.step L handler first .handle = some c') : Playing L handler first impls c' := by
  cases hio : c.shared.io with
  | nil => simp [step, hio] at hstep
  | cons p cs =>
    obtain ⟨j, x⟩ := p
    obtain ⟨hother, ⟨m, m', hm, hm', hdrive⟩, hup, hserved⟩ := step_handle h hio hstep
    refine ⟨hup, hserved, AtProgram.own (fun c k => c.shared.view k) clients (k := j) h.at_program
      ?_ hother⟩
    have hk := h.at_program j
    rw [hm] at hk
    obtain ⟨n, hn⟩ := hk
    rw [hm']
    exact ⟨n + 1, by
      rw [Function.iterate_succ_apply']
      exact (realises L).handle hn ((hok j).rounds n) hdrive⟩

theorem Playing.kept (h : Playing L handler first impls c) (hok : Allowed L handler first impls)
    {a : CrowdAction} (hstep : c.step L handler first a = some c') :
    Playing L handler first impls c' := by
  cases a with
  | «begin» k => exact h.begin hok hstep
  | work => exact h.work hstep
  | handle => exact h.handle hok hstep

theorem start_playing (impls : Nat → Implementation M) :
    Playing L handler first impls (start impls) :=
  ⟨rfl, SharedWorld.start_served impls, fun _ => ⟨rfl, rfl, rfl⟩⟩

/-! ## Nobody is left waiting -/

/-- The worker and the io_service go on, and no client starts. -/
def Serving : Crowd M σ → CrowdAction → Prop := fun _ a => a = .work ∨ a = .handle

theorem Playing.can_work (h : Playing L handler first impls c) (hq : c.shared.queue ≠ []) :
    ∃ s, c.shared.step L .work = some s ∧ c.step L handler first .work = some { c with shared := s } ∧
      s.queue.length < c.shared.queue.length := by
  obtain ⟨q, hup⟩ := Option.isSome_iff_exists.mp h.up
  cases q with
  | nil => exact absurd (by simp [SharedWorld.queue, hup]) hq
  | cons p q =>
    have hrun := h.served.started hq
    have hs : ∃ s, c.shared.step L .work = some s := by simp [SharedWorld.step, hrun, hup]
    obtain ⟨s, hs⟩ := hs
    obtain ⟨k, x, q', -, hq', rfl⟩ := SharedWorld.step_work hs
    exact ⟨_, hs, by simp [step, hs], by simp [SharedWorld.queue, hq']⟩

theorem Playing.can_handle (h : Playing L handler first impls c) {x : Completion}
    {cs : List (Nat × Completion)} (hio : c.shared.io = (j, x) :: cs) :
    ∃ c', c.step L handler first .handle = some c' := by
  cases hm : c.clients j with
  | none =>
    have hj := h.at_program j
    rw [hm] at hj
    have hnil : (c.shared.view j).io = [] := hj.2.2
    simp [SharedWorld.view, hio] at hnil
  | some m => simp [step, hio, hm, SharedWorld.step]

/-- Handlers that a handler posts wait behind those there. -/
theorem handle_io {x : Completion} {cs : List (Nat × Completion)} (hio : c.shared.io = (j, x) :: cs)
    (hstep : c.step L handler first .handle = some c') : ∃ ext, c'.shared.io = cs ++ ext := by
  have hinit : ∀ (s : SharedWorld M) r, ∃ ext, (submitted L j s r).io = s.io ++ ext := by
    intro s r
    cases r with
    | none => exact ⟨[], by simp [submitted]⟩
    | some r =>
      obtain ⟨i, ⟨o, heq⟩ | heq⟩ := SharedWorld.initiate_cases L s j r
      · exact ⟨_, by rw [submitted, heq]; rfl⟩
      · refine ⟨[], ?_⟩
        rw [submitted, heq]
        cases hq : s.workIoService with
        | some q =>
          rw [SharedWorld.post_some (s := s.update j i) hq]
          simp [SharedWorld.count, SharedWorld.update]
        | none =>
          rw [SharedWorld.post_none (s := s.update j i) hq]
          simp [SharedWorld.count, SharedWorld.update]
  simp only [step, hio] at hstep
  obtain ⟨s, hs, hstep⟩ := Option.bind_eq_some_iff.mp hstep
  obtain ⟨m, -, rfl⟩ := Option.map_eq_some_iff.mp hstep
  obtain ⟨k, y, cs', hio', rfl⟩ := SharedWorld.step_deliver hs
  obtain ⟨-, rfl⟩ := List.cons.inj (hio.symm.trans hio')
  cases handler j m.1 x.outcome with
  | stop m => exact ⟨[], by simp [Next.finish, submitted]⟩
  | start m r => exact hinit _ (some r)
  | startIf m r => exact hinit (SharedWorld.update _ j _) _

variable {p : Play (Implementation M) σ Request Outcome} {m : σ × List Outcome}

theorem Playing.ended (h : Playing L handler first impls c)
    (hp : AtPlay (calls L) World.Idle (World.Busy L) p ⟨c.shared.view k, m.1, m.2⟩)
    (hstuck : ∀ a, Serving c a → c.step L handler first a = none) : p.request = none := by
  have hq : c.shared.queue = [] := by
    by_contra hne
    obtain ⟨s, -, hstep, -⟩ := h.can_work hne
    rw [hstuck .work (.inl rfl)] at hstep
    cases hstep
  have hio : c.shared.io = [] := by
    cases hx : c.shared.io with
    | nil => rfl
    | cons x cs =>
      obtain ⟨c', hstep⟩ := h.can_handle (j := x.1) (x := x.2) hx
      rw [hstuck .handle (.inr rfl)] at hstep
      cases hstep
  cases hr : p.request with
  | none => rfl
  | some r =>
    have hbusy := hp.2.2
    rw [hr] at hbusy
    rcases hbusy with ⟨x, hx, -⟩ | ⟨-, -, y, hy⟩
    · simp [SharedWorld.view, hq] at hx
    · simp [SharedWorld.view, hio] at hy

theorem Playing.comes (h : Playing L handler first impls c) (hm : c.clients k = some m)
    (hp : AtPlay (calls L) World.Idle (World.Busy L) p ⟨c.shared.view k, m.1, m.2⟩)
    (hr : p.request.isSome) :
    ∃ bs c', Run (step L handler first) Serving c bs c' ∧ Playing L handler first impls c' ∧
      c'.clients k = some m ∧
      AtPlay (calls L) World.Idle (World.Busy L) p ⟨c'.shared.view k, m.1, m.2⟩ ∧
      (c'.shared.view k).io ≠ [] := by
  -- what holds until the worker has come to it
  let Waiting : Crowd M σ → Prop := fun c => Playing L handler first impls c ∧
    c.clients k = some m ∧ AtPlay (calls L) World.Idle (World.Busy L) p ⟨c.shared.view k, m.1, m.2⟩
  have hgo : ∀ c, Waiting c → ¬ (c.shared.view k).io ≠ [] → ∃ a c', Serving c a ∧
      step L handler first c a = some c' ∧ Waiting c' ∧
        c'.shared.queue.length < c.shared.queue.length := by
    rintro c ⟨h, hm, hp⟩ hempty
    have hio : (c.shared.view k).io = [] := not_not.mp hempty
    obtain ⟨r, hreq⟩ := Option.isSome_iff_exists.mp hr
    have hbusy := hp.2.2
    rw [hreq] at hbusy
    have hq : c.shared.queue ≠ [] := by
      rcases hbusy with ⟨x, hx, -⟩ | ⟨-, -, y, hy⟩
      · intro hnil
        simp [SharedWorld.view, hnil] at hx
      · simp [hio] at hy
    obtain ⟨s, hs, hstep, hlt⟩ := h.can_work hq
    have hkept : AtPlay (calls L) World.Idle (World.Busy L) p ⟨s.view k, m.1, m.2⟩ := by
      rcases view_work h.up hs k with hsame | hown
      · rwa [hsame]
      · exact (realises L).kept (a := ()) hp hown
    exact ⟨_, { c with shared := s }, .inl rfl, hstep, ⟨h.work hstep, hm, hkept⟩, hlt⟩
  obtain ⟨bs, c', hrun, ⟨hc', hm', hp'⟩, hdone⟩ :=
    exists_end (fun c : Crowd M σ => c.shared.queue.length) hgo ⟨h, hm, hp⟩
  exact ⟨bs, c', hrun, hc', hm', hp', hdone⟩

theorem Playing.serves (h : Playing L handler first impls c) (hok : Allowed L handler first impls)
    (hm : c.clients k = some m)
    (hp : AtPlay (calls L) World.Idle (World.Busy L) p ⟨c.shared.view k, m.1, m.2⟩)
    (hokp : (calls L).Allowed (handler k) Askable p) {before after : List (Nat × Completion)}
    {x : Completion} (hio : c.shared.io = before ++ (k, x) :: after) (hb : ∀ y ∈ before, y.1 ≠ k) :
    ∃ bs c' m', Run (step L handler first) Serving c bs c' ∧ c'.clients k = some m' ∧
      AtPlay (calls L) World.Idle (World.Busy L)
        ((calls L).round (handler k) p) ⟨c'.shared.view k, m'.1, m'.2⟩ := by
  induction before generalizing c after with
  | nil =>
    rw [List.nil_append] at hio
    obtain ⟨c', hstep⟩ := h.can_handle hio
    obtain ⟨-, ⟨m₀, m', hm₀, hm', hdrive⟩, -⟩ := step_handle h hio hstep
    obtain rfl := Option.some_inj.mp (hm.symm.trans hm₀)
    exact ⟨[.handle], c', m', .single (.inr rfl) hstep, hm', (realises L).handle hp hokp hdrive⟩
  | cons y before ih =>
    obtain ⟨j, y⟩ := y
    have hjk : j ≠ k := hb (j, y) (by simp)
    rw [List.cons_append] at hio
    obtain ⟨c', hstep⟩ := h.can_handle hio
    obtain ⟨hother, -⟩ := step_handle h hio hstep
    obtain ⟨ext, hext⟩ := handle_io hio hstep
    -- what was posted meanwhile waits behind
    have hio' : c'.shared.io = before ++ (k, x) :: (after ++ ext) := by simp [hext]
    obtain ⟨bs, c'', m', hrun, hdone⟩ := ih (h.handle hok hstep) ((hother k hjk).2.trans hm)
      (by rwa [(hother k hjk).1]) hio' fun z hz => hb z (by simp [hz])
    exact ⟨_, c'', m', (Run.single (.inr rfl) hstep).trans hrun, hdone⟩

/-- **Every client comes to the end of its round**, whatever the others do. -/
theorem Playing.advance (h : Playing L handler first impls c) (hok : Allowed L handler first impls)
    (hm : c.clients k = some m)
    (hp : AtPlay (calls L) World.Idle (World.Busy L) p ⟨c.shared.view k, m.1, m.2⟩)
    (hokp : (calls L).Allowed (handler k) Askable p) (hr : p.request.isSome) :
    ∃ bs c' m', Run (step L handler first) Serving c bs c' ∧ c'.clients k = some m' ∧
      AtPlay (calls L) World.Idle (World.Busy L)
        ((calls L).round (handler k) p) ⟨c'.shared.view k, m'.1, m'.2⟩ := by
  obtain ⟨bs, d, hrun, hd, hmd, hpd, hio⟩ := h.comes hm hp hr
  obtain ⟨before, x, after, hio, hb⟩ := restrict_first hio
  obtain ⟨bs', c', m', hrun', hdone⟩ := hd.serves hok hmd hpd hokp hio hb
  exact ⟨_, c', m', hrun.trans hrun', hdone⟩

theorem attends (hok : Allowed L handler first impls) :
    Attends (step L handler first) Serving (Playing L handler first impls)
      (fun c k => c.shared.view k) clients (calls L) Askable World.Idle (World.Busy L) handler
      (program impls first) where
  kept h hstep := h.kept hok hstep
  at_program h := h.at_program
  advance h hm hp hokp hr := h.advance hok hm hp hokp hr
  stuck h _ hp hstuck := h.ended hp hstuck

/-- **Clients that share a service each make their own blocking program.** In
every state of every interleaving of their starts, the worker and the io_service,
the handlers of each client have been called with what the first `n` blocking
calls of its program return on its connector alone; the worker and the io_service
can bring any of them as far as its program gets, and stop only where every
program has ended. -/
theorem crowd_plays (hok : Allowed L handler first impls) {as : List CrowdAction}
    (hrun : Run (step L handler first) anyStep (start impls) as c) (hm : c.clients k = some m) :
    ∃ n, let q := ((calls L).round (handler k))^[n] (program impls first k)
      m.1 = q.memory ∧ m.2 = q.seen ∧ (q.request = none → c.shared.impls k = q.service) ∧
        ((∀ a, Serving c a → c.step L handler first a = none) → q.request = none) ∧
        ∀ N, ∃ bs c' m', Run (step L handler first) Serving c bs c' ∧ c'.clients k = some m' ∧
          m'.2 = (((calls L).round (handler k))^[N + n] (program impls first k)).seen := by
  obtain ⟨n, hmem, hseen, hidle, hstuck, hfar⟩ :=
    (attends hok).plays (start_playing impls) hrun (hok k) hm
  exact ⟨n, hmem, hseen, fun hnone => (hidle hnone).1, hstuck, hfar⟩

end Program

/-- Two clients that read a batch each, one of them a handler ahead. -/
theorem crowd_plays_two :
    ∃ c m n, exec (step Script.library (fun _ => BatchReader.handler verbs "select 1; oops")
          fun _ => (BatchReader.main, verbs.asyncConnect (Script.login clientMultiStatements)))
        (start fun _ => (BatchReader.multiQuery verbs).service)
        [.begin 0, .begin 1, .work, .work, .handle, .work, .handle, .handle, .work, .work, .handle,
          .handle] = some c ∧
      c.clients 0 = some m ∧ m.1.printed = [.ofRes Script.oneRow.val] ∧
      m.1 = (((calls Script.library).round (BatchReader.handler verbs "select 1; oops"))^[n]
        (BatchReader.multiQuery verbs)).memory := by
  obtain ⟨c, m, hc, hm, hprinted⟩ : ∃ c m,
      exec (step Script.library (fun _ => BatchReader.handler verbs "select 1; oops")
          fun _ => (BatchReader.main, verbs.asyncConnect (Script.login clientMultiStatements)))
        (start fun _ => (BatchReader.multiQuery verbs).service)
        [.begin 0, .begin 1, .work, .work, .handle, .work, .handle, .handle, .work, .work, .handle,
          .handle] = some c ∧
      c.clients 0 = some m ∧ m.1.printed = [.ofRes Script.oneRow.val] := ⟨_, _, rfl, rfl, rfl⟩
  have hplay : (calls Script.library).Allowed (BatchReader.handler verbs "select 1; oops") Askable
      (BatchReader.multiQuery verbs) := .of_ended (n := 4) (by decide) (by decide)
  have hok : Allowed Script.library (fun _ => BatchReader.handler verbs "select 1; oops")
      (fun _ => (BatchReader.main, verbs.asyncConnect (Script.login clientMultiStatements)))
      (fun _ => (BatchReader.multiQuery verbs).service) := fun _ => hplay
  obtain ⟨n, hmem, -⟩ := crowd_plays hok (run_of_exec (fun _ _ _ => trivial) hc) hm
  exact ⟨c, m, n, hc, hm, hprinted, hmem⟩

end Crowd

end MysqlService

end Amy
