import Amy.Mysql.SharedOrder

/-!
# What becomes of every handler of a `mysql_service`

An operation's handler is with its handler object in the work queue, posted to
the io_service, invoked, or destroyed with the service's work queue, and never
in two of these places. Until the service is shut down none is destroyed, the
worker thread is there whenever it is needed, and the worker and the io_service
can always finish by themselves.
-/

namespace Amy

namespace MysqlService

namespace SharedWorld

open Base

variable {M : Type} {L : Library M} {impls : Nat → Implementation M} {as : List SharedAction}
  {s s' : SharedWorld M} {k n : Nat}

/-! ## Where a handler is -/

def queued (s : SharedWorld M) : List (Nat × Nat) := s.queue.map fun p => (p.1, p.2.id)

def posted (s : SharedWorld M) : List (Nat × Nat) := s.io.map fun p => (p.1, p.2.id)

def called (s : SharedWorld M) : List (Nat × Nat) := s.invoked.map fun p => (p.1, p.2.id)

/-- All of them, with those dropped. -/
def held (s : SharedWorld M) : List (Nat × Nat) :=
  s.queued ++ (s.posted ++ (s.called ++ s.dropped))

/-- Each connector's operations are numbered, and each is in one place. -/
def Numbered (s : SharedWorld M) : Prop := ∀ k, Tickets (s.next k) 0 (restrict k s.held)

theorem Numbered.perm (h : s.Numbered) (hnext : s'.next = s.next) (hp : s'.held.Perm s.held) :
    s'.Numbered := by
  intro k
  rw [hnext]
  exact (h k).perm (hp.filterMap _)

theorem Numbered.issue (h : s.Numbered) (hnext : s'.next = Function.update s.next k (s.next k + 1))
    (hp : s'.held.Perm ((k, s.next k) :: s.held)) : s'.Numbered := by
  intro j
  have hp' : (restrict j s'.held).Perm (restrict j ((k, s.next k) :: s.held)) := hp.filterMap _
  rw [hnext]
  by_cases hj : k = j
  · subst hj
    rw [restrict_self] at hp'
    rw [Function.update_self]
    exact (h k).issue.perm hp'
  · rw [restrict_other hj] at hp'
    rw [Function.update_of_ne (Ne.symm hj)]
    exact (h j).perm hp'

theorem start_numbered (impls : Nat → Implementation M) : (start impls).Numbered :=
  fun _ => Tickets.start

theorem Numbered.postHandler (h : s.Numbered) (o : Outcome) : (s.postHandler k o).Numbered := by
  refine h.issue (k := k) rfl ?_
  have : (s.postHandler k o).held =
      s.queued ++ (s.posted ++ [(k, s.next k)] ++ (s.called ++ s.dropped)) := by
    simp [held, queued, posted, called, SharedWorld.postHandler, count, queue]
  rw [this]
  exact perm_second (k, s.next k) s.queued s.posted (s.called ++ s.dropped)

theorem Numbered.post (h : s.Numbered) (r : Request) : (s.post k r).Numbered := by
  cases hq : s.workIoService with
  | some q =>
    rw [post_some hq]
    refine h.issue (k := k) rfl ?_
    have hheld : held (count { s with
        workThread := if s.workThread = .null then .running else s.workThread
        workIoService := some (q ++ [(k, ⟨s.next k, r, (s.impls k).cancelationToken⟩)]) } k) =
        s.queued ++ [(k, s.next k)] ++ (s.posted ++ (s.called ++ s.dropped)) := by
      simp [held, queued, posted, called, count, queue, hq]
    rw [hheld]
    exact perm_first (k, s.next k) s.queued s.posted (s.called ++ s.dropped)
  | none =>
    rw [post_none hq]
    refine h.issue (k := k) rfl ?_
    have : held (count { s with dropped := s.dropped ++ [(k, s.next k)] } k) =
        s.held ++ [(k, s.next k)] := by
      simp [held, queued, posted, called, count, queue]
    rw [this]
    exact List.perm_append_singleton (k, s.next k) s.held

theorem Numbered.step (h : s.Numbered) {a : SharedAction} (hstep : s.step L a = some s') :
    s'.Numbered := by
  cases a with
  | initiate k r =>
    cases hstep
    have hup : ∀ i, (s.update k i).Numbered := fun i => h.perm rfl (List.Perm.refl _)
    obtain ⟨i, ⟨o, heq⟩ | heq⟩ := initiate_cases L s k r
    · rw [heq]
      exact (hup i).postHandler o
    · rw [heq]
      exact (hup i).post r
  | work =>
    obtain ⟨k, j, q, -, hq, rfl⟩ := step_work hstep
    refine h.perm rfl ?_
    have hheld : s.held = (k, j.id) :: ((q.map fun p => (p.1, p.2.id)) ++
        (s.posted ++ (s.called ++ s.dropped))) := by
      simp [held, queued, queue, hq]
    rw [hheld]
    simpa [held, queued, posted, called, queue, update] using
      perm_second (k, j.id) (q.map fun p => (p.1, p.2.id)) s.posted (s.called ++ s.dropped)
  | workEnds =>
    obtain ⟨-, -, rfl⟩ := step_workEnds hstep
    exact h.perm rfl (List.Perm.refl _)
  | deliver =>
    obtain ⟨k, c, cs, hio, rfl⟩ := step_deliver hstep
    refine h.perm rfl (List.Perm.append_left s.queued ?_)
    simpa [posted, called, hio] using
      perm_second (k, c.id) (cs.map fun p => (p.1, p.2.id)) s.called s.dropped
  | cancel k => cases hstep; exact h.perm rfl (List.Perm.refl _)
  | close k => cases hstep; exact h.perm rfl (List.Perm.refl _)
  | call k ec op => cases hstep; exact h.perm rfl (List.Perm.refl _)
  | shutdown =>
    cases hstep
    cases hq : s.workIoService with
    | none =>
      rw [shutdownService_none hq]
      exact h.perm rfl (List.Perm.refl _)
    | some q =>
      rw [shutdownService_some hq]
      refine h.perm rfl ?_
      have hheld : s.held = (q.map fun p => (p.1, p.2.id)) ++
          (s.posted ++ (s.called ++ s.dropped)) := by
        simp [held, queued, queue, hq]
      rw [hheld]
      have hlast : (s.posted ++ (s.called ++ s.dropped) ++ q.map fun p => (p.1, p.2.id)).Perm
          ((q.map fun p => (p.1, p.2.id)) ++ (s.posted ++ (s.called ++ s.dropped))) :=
        List.perm_append_comm
      simpa [held, queued, posted, called, queue] using hlast

/-! ## The worker is there when it is needed -/

structure Served (s : SharedWorld M) : Prop where
  /-- The worker does not come back by itself. -/
  stays : s.workThread ≠ .returned
  started : s.queue ≠ [] → s.workThread = .running
  work : s.workIoService.isSome → s.work = true

theorem Served.post (h : s.Served) (r : Request) : (s.post k r).Served := by
  cases hq : s.workIoService with
  | some q =>
    have hrun : (if s.workThread = .null then .running else s.workThread) = WorkThread.running := by
      cases ht : s.workThread with
      | null => rfl
      | running => rfl
      | returned => exact absurd ht h.stays
    rw [post_some hq, hrun]
    exact ⟨nofun, fun _ => rfl, fun _ => h.work (by simp [hq])⟩
  | none =>
    rw [post_none hq]
    exact ⟨h.stays, h.started, h.work⟩

theorem Served.step (h : s.Served) {a : SharedAction} (hstep : s.step L a = some s') :
    s'.Served := by
  cases a with
  | initiate k r =>
    cases hstep
    obtain ⟨i, ⟨o, heq⟩ | heq⟩ := initiate_cases L s k r
    · rw [heq]
      exact ⟨h.stays, h.started, h.work⟩
    · rw [heq]
      exact Served.post (s := s.update k i) ⟨h.stays, h.started, h.work⟩ r
  | work =>
    obtain ⟨k, j, q, ht, hq, rfl⟩ := step_work hstep
    exact ⟨h.stays, fun _ => ht, fun _ => h.work (by simp [hq])⟩
  | workEnds =>
    obtain ⟨hq, hw, -⟩ := step_workEnds hstep
    -- `work_` keeps the worker waiting
    rw [h.work (by simp [hq])] at hw
    cases hw
  | deliver =>
    obtain ⟨k, c, cs, -, rfl⟩ := step_deliver hstep
    exact ⟨h.stays, h.started, h.work⟩
  | cancel k => cases hstep; exact ⟨h.stays, h.started, h.work⟩
  | close k => cases hstep; exact ⟨h.stays, h.started, h.work⟩
  | call k ec op => cases hstep; exact ⟨h.stays, h.started, h.work⟩
  | shutdown =>
    cases hstep
    cases hq : s.workIoService with
    | none =>
      rw [shutdownService_none hq]
      exact ⟨h.stays, h.started, fun hs => by simp [hq] at hs⟩
    | some q =>
      rw [shutdownService_some hq]
      exact ⟨nofun, fun hne => absurd rfl hne, nofun⟩

theorem start_served (impls : Nat → Implementation M) : (start impls).Served :=
  ⟨by simp [start], by simp [start, queue], fun _ => rfl⟩

def Idle : SharedWorld M → SharedAction → Prop
  | _, .work | _, .deliver => True
  | _, _ => False

/-- **The worker and the io_service can finish by themselves.** -/
theorem Served.settles (L : Library M) (h : s.Served) :
    ∃ bs t, Run (SharedWorld.step L) Idle s bs t ∧ t.outstanding = 0 := by
  have hgo : ∀ s : SharedWorld M, s.Served → ¬ s.outstanding = 0 → ∃ a s', Idle s a ∧
      s.step L a = some s' ∧ s'.Served ∧
        2 * s'.queue.length + s'.io.length < 2 * s.queue.length + s.io.length := by
    intro s hs hne
    cases hq : s.queue with
    | cons p q =>
      -- the worker runs the oldest handler object
      have hsome : s.workIoService = some (p :: q) := by
        cases hw : s.workIoService with
        | none => simp [queue, hw] at hq
        | some q' => simpa [queue, hw] using hq
      have hthread := hs.started (by simp [hq])
      obtain ⟨s', hstep⟩ : ∃ s', s.step L .work = some s' := by
        simp only [SharedWorld.step, hthread, hsome, if_true]
        exact ⟨_, rfl⟩
      refine ⟨.work, s', trivial, hstep, hs.step hstep, ?_⟩
      simp only [SharedWorld.step, hthread, hsome, if_true, Option.some_inj] at hstep
      subst hstep
      simp only [queue, Option.getD_some, List.length_append, List.length_cons, List.length_nil]
      omega
    | nil =>
      cases hio : s.io with
      | nil => simp [outstanding, hq, hio] at hne
      | cons c cs =>
        obtain ⟨s', hstep⟩ : ∃ s', s.step L .deliver = some s' := by
          simp only [SharedWorld.step, hio]
          exact ⟨_, rfl⟩
        refine ⟨.deliver, s', trivial, hstep, hs.step hstep, ?_⟩
        simp only [SharedWorld.step, hio, Option.some_inj] at hstep
        subst hstep
        simp only [queue] at hq ⊢
        simp [hq]
  obtain ⟨bs, t, hrun, -, hend⟩ :=
    exists_end (fun s : SharedWorld M => 2 * s.queue.length + s.io.length) hgo h
  exact ⟨bs, t, hrun, hend⟩

/-! ## Runs -/

/-- How the books stand after the actions `as`. -/
structure Booked (as : List SharedAction) (s : SharedWorld M) : Prop where
  numbered : s.Numbered
  served : s.Served
  next : ∀ k, s.next k = (restrict k (sharedRequests as)).length
  up : .shutdown ∉ as → s.workIoService.isSome ∧ s.dropped = []
  down : .shutdown ∈ as → s.workIoService = none

theorem next_initiate (L : Library M) (s : SharedWorld M) (k : Nat) (r : Request) :
    (s.initiate L k r).next = Function.update s.next k (s.next k + 1) := by
  obtain ⟨i, ⟨o, heq⟩ | heq⟩ := initiate_cases L s k r
  · rw [heq]
    rfl
  · rw [heq]
    cases hq : s.workIoService with
    | some q => rw [post_some (s := s.update k i) hq]; rfl
    | none => rw [post_none (s := s.update k i) hq]; rfl

theorem step_next {a : SharedAction} (hstep : s.step L a = some s') (k : Nat) :
    s'.next k = s.next k + (restrict k a.requested).length := by
  cases a with
  | initiate j r =>
    cases hstep
    rw [next_initiate, SharedAction.requested, restrict_cons]
    by_cases h : j = k
    · subst h
      simp
    · simp [h, Ne.symm h]
  | work =>
    obtain ⟨j, x, q, -, -, rfl⟩ := step_work hstep
    rfl
  | workEnds =>
    obtain ⟨-, -, rfl⟩ := step_workEnds hstep
    rfl
  | deliver =>
    obtain ⟨j, c, cs, -, rfl⟩ := step_deliver hstep
    rfl
  | cancel j => cases hstep; rfl
  | close j => cases hstep; rfl
  | call j ec op => cases hstep; rfl
  | shutdown =>
    cases hstep
    cases hq : s.workIoService with
    | some q => rw [shutdownService_some hq]; rfl
    | none => rw [shutdownService_none hq]; rfl

theorem shutdown_down (s : SharedWorld M) : s.shutdownService.workIoService = none := by
  cases hq : s.workIoService with
  | some q => rw [shutdownService_some hq]
  | none => rw [shutdownService_none hq]; exact hq

theorem Booked.step (h : Booked as s) {a : SharedAction} (hstep : s.step L a = some s') :
    Booked (as ++ [a]) s' := by
  refine ⟨h.numbered.step hstep, h.served.step hstep, fun k => ?_, fun hup => ?_, fun hdown => ?_⟩
  · simp [step_next hstep, h.next k, sharedRequests]
  · simp only [List.mem_append, List.mem_singleton, not_or] at hup
    obtain ⟨hs, hd⟩ := h.up hup.1
    obtain ⟨hs', hd'⟩ := step_service (Ne.symm hup.2) hstep
    exact ⟨hs'.trans hs, (hd' hs).trans hd⟩
  · by_cases ha : a = .shutdown
    · subst ha
      cases hstep
      exact shutdown_down s
    · have hnone := h.down (by simpa [Ne.symm ha] using hdown)
      have hs := (step_service ha hstep).1
      simpa [hnone] using hs

theorem booked_of_run (hrun : Run (step L) anyStep (start impls) as s) : Booked as s :=
  hrun.invariantAlong (I := fun as s => Booked as s)
    ⟨start_numbered impls, start_served impls, fun _ => rfl, fun _ => ⟨rfl, rfl⟩, nofun⟩
    fun _ _ _ _ h _ hstep => h.step hstep

/-- **Every handler is accounted for.** In every state of every run each
operation's handler is queued, posted, invoked or dropped, in one of these ways
and once; without a shutdown none is dropped, so each was invoked exactly once as
soon as nothing is outstanding, and the worker and the io_service get there by
themselves. -/
theorem handlers_accounted (hrun : Run (step L) anyStep (start impls) as s) :
    (∀ k n, n < (restrict k (sharedRequests as)).length →
      s.queued.count (k, n) + s.posted.count (k, n) + s.called.count (k, n) +
        s.dropped.count (k, n) = 1) ∧
    (.shutdown ∉ as → s.outstanding = 0 →
      ∀ k n, n < (restrict k (sharedRequests as)).length → s.called.count (k, n) = 1) ∧
    (.shutdown ∈ as → s.queued = []) ∧
    ∃ bs t, Run (step L) Idle s bs t ∧ t.outstanding = 0 := by
  have hb := booked_of_run hrun
  have hone : ∀ k n, n < (restrict k (sharedRequests as)).length →
      s.queued.count (k, n) + s.posted.count (k, n) + s.called.count (k, n) +
        s.dropped.count (k, n) = 1 := by
    intro k n hn
    have h1 : (restrict k s.held).count n = 1 :=
      (hb.numbered k).count_eq_one_iff.mpr rfl n (by rw [hb.next k]; exact hn)
    rw [count_restrict] at h1
    simp only [held, List.count_append] at h1
    omega
  refine ⟨hone, fun hup hout k n hn => ?_, fun hdown => ?_, hb.served.settles L⟩
  · have hq : s.queue = [] := List.eq_nil_of_length_eq_zero (by unfold outstanding at hout; omega)
    have hio : s.io = [] := List.eq_nil_of_length_eq_zero (by unfold outstanding at hout; omega)
    have h1 := hone k n hn
    simpa [queued, posted, hq, hio, (hb.up hup).2] using h1
  · simp [queued, queue, hb.down hdown]

/-- Two connectors shut down between the query of one and that of the other. -/
theorem handlers_accounted_shutdown :
    let impls := fun _ : Nat =>
      Script.opened { verdicts := [.batch (some Script.oneRow) [] 0] } defaultFlags
    ∃ s : SharedWorld Script,
      exec (step Script.library) (start impls)
        [.initiate 0 (.query "select 1"), .initiate 1 (.query "select 2"), .work, .shutdown,
          .initiate 0 .storeResult, .deliver] = some s ∧
      s.called = [(0, 0)] ∧ s.dropped = [(1, 0), (0, 1)] ∧
      s.queued.count (0, 1) + s.posted.count (0, 1) + s.called.count (0, 1) +
        s.dropped.count (0, 1) = 1 := by
  intro impls
  obtain ⟨s, hs, hcalled, hdropped⟩ : ∃ s : SharedWorld Script,
      exec (step Script.library) (start impls)
        [.initiate 0 (.query "select 1"), .initiate 1 (.query "select 2"), .work, .shutdown,
          .initiate 0 .storeResult, .deliver] = some s ∧
      s.called = [(0, 0)] ∧ s.dropped = [(1, 0), (0, 1)] := ⟨_, rfl, rfl, rfl⟩
  have hrun : Run (step Script.library) anyStep (start impls) _ s :=
    run_of_exec (fun _ _ _ => trivial) hs
  exact ⟨s, hs, hcalled, hdropped, (handlers_accounted hrun).1 0 1 (by decide)⟩

end SharedWorld

end MysqlService

end Amy
