import Amy.Mysql.Ordered
import Amy.Base.Shared
import Amy.Base.Tickets

/-!
# Several connectors on one `mysql_service`

The connectors of an io_service share its `mysql_service`: one queue of handler
objects, one worker thread, started by the first operation that needs it, and
one queue of handlers to invoke. `SharedWorld` is the service with all of them,
`shutdown_service` included. A connector is `seen` through `view` as a connector
with queues of its own.
-/

namespace Amy

namespace MysqlService

open Base

variable {M : Type}

/-- `work_thread_`: null, running `work_io_service_`, or back from it. -/
inductive WorkThread where
  | null
  | running
  | returned
  deriving DecidableEq, Repr

structure SharedWorld (M : Type) where
  /-- The connectors, by number. -/
  impls : Nat → Implementation M
  /-- `work_io_service_`: what is posted to it, oldest first, or null. -/
  workIoService : Option (List (Nat × Job))
  /-- Whether `work_` is there, so that the worker waits at an empty queue. -/
  work : Bool
  workThread : WorkThread
  /-- Handlers posted to the io_service, oldest first. -/
  io : List (Nat × Completion)
  /-- Handlers invoked, oldest first. -/
  invoked : List (Nat × Completion)
  /-- The number of the next operation of each connector. -/
  next : Nat → Nat
  /-- Operations whose handler was destroyed and not invoked. -/
  dropped : List (Nat × Nat)

inductive SharedAction where
  | initiate (k : Nat) (r : Request)
  /-- The worker thread runs the oldest handler object. -/
  | work
  /-- The worker thread finds nothing left to run or wait for. -/
  | workEnds
  /-- The io_service invokes the oldest handler. -/
  | deliver
  | cancel (k : Nat)
  | close (k : Nat)
  | call (k : Nat) (ec : ErrorCode) (op : Operation)
  | shutdown
  deriving DecidableEq, Repr

/-- The operations an action initiates, with their connector. -/
def SharedAction.requested : SharedAction → List (Nat × Request)
  | .initiate k r => [(k, r)]
  | _ => []

/-- What the caller does to connector `k` by an action. -/
def SharedAction.on (k : Nat) : SharedAction → List Action
  | .initiate j r => if j = k then [.initiate r] else []
  | .cancel j => if j = k then [.cancel] else []
  | .close j => if j = k then [.close] else []
  | .call j ec op => if j = k then [.call ec op] else []
  | .work | .workEnds | .deliver | .shutdown => []

/-- The actions of a connector that are the caller's. -/
def Action.called : Action → List Action
  | .work | .deliver => []
  | a => [a]

namespace SharedWorld

def start (impls : Nat → Implementation M) : SharedWorld M where
  impls := impls
  workIoService := some []
  work := true
  workThread := .null
  io := []
  invoked := []
  next := fun _ => 0
  dropped := []

variable (L : Library M) (s : SharedWorld M)

def queue : List (Nat × Job) := s.workIoService.getD []

def update (k : Nat) (i : Implementation M) : SharedWorld M :=
  { s with impls := Function.update s.impls k i }

def startWorkThread : SharedWorld M :=
  if s.workThread = .null then { s with workThread := .running } else s

def count (k : Nat) : SharedWorld M := { s with next := Function.update s.next k (s.next k + 1) }

/-- The end of every `async_*`: the handler object is posted while there is a
work queue, and destroyed at once otherwise. -/
def post (k : Nat) (r : Request) : SharedWorld M :=
  match s.workIoService with
  | some q => count { s.startWorkThread with
      workIoService := some (q ++ [(k, ⟨s.next k, r, (s.impls k).cancelationToken⟩)]) } k
  | none => count { s with dropped := s.dropped ++ [(k, s.next k)] } k

def postHandler (k : Nat) (o : Outcome) : SharedWorld M :=
  count { s with io := s.io ++ [(k, ⟨s.next k, o⟩)] } k

def asyncConnect (k : Nat) (c : ConnectRequest) : SharedWorld M :=
  if !(s.impls k).initialized then
    let o := MysqlService.open L (s.impls k) .clear
    let s := s.update k o.impl
    if o.ec.failed then s.postHandler k ⟨o.ec, none⟩ else s.post k (.connect c)
  else s.post k (.connect c)

def asyncQuery (k : Nat) (stmt : String) : SharedWorld M :=
  if !(s.impls k).initialized then s.postHandler k ⟨.notInitialized, none⟩
  else s.post k (.query stmt)

def asyncStoreResult (k : Nat) : SharedWorld M :=
  if !(s.impls k).initialized then s.postHandler k ⟨.notInitialized, some .emptySet⟩
  else s.post k .storeResult

def initiate (k : Nat) : Request → SharedWorld M
  | .connect c => s.asyncConnect L k c
  | .query stmt => s.asyncQuery k stmt
  | .storeResult => s.asyncStoreResult k

/-- `shutdown_service()`: the worker is stopped and joined, and the handler
objects it has not run are destroyed with the work queue. -/
def shutdownService : SharedWorld M :=
  match s.workIoService with
  | some q => { s with
      work := false
      workThread := .null
      workIoService := none
      dropped := s.dropped ++ q.map fun p => (p.1, p.2.id) }
  | none => { s with work := false }

def step : SharedAction → Option (SharedWorld M)
  | .initiate k r => some (s.initiate L k r)
  | .work =>
    if s.workThread = .running then
      match s.workIoService with
      | some ((k, j) :: q) =>
        let r := j.run L (s.impls k)
        some { s.update k r.impl with
          workIoService := some q
          io := s.io ++ [(k, ⟨j.id, r.outcome⟩)] }
      | _ => none
    else none
  | .workEnds =>
    if s.workThread = .running ∧ s.workIoService = some [] ∧ s.work = false then
      some { s with workThread := .returned }
    else none
  | .deliver =>
    match s.io with
    | [] => none
    | c :: cs => some { s with io := cs, invoked := s.invoked ++ [c] }
  | .cancel k => some (s.update k (s.impls k).cancel)
  | .close k => some (s.update k (MysqlService.close L (s.impls k)))
  | .call k ec op => some (s.update k (perform .mysql L (s.impls k) ec op).1)
  | .shutdown => some s.shutdownService

/-- What keeps `io_service::run` from returning: the `work_` of every handler
object, and the handlers posted. -/
def outstanding : Nat := s.queue.length + s.io.length

variable {L s} {s' : SharedWorld M}

theorem startWorkThread_eq (s : SharedWorld M) : s.startWorkThread =
    { s with workThread := if s.workThread = .null then .running else s.workThread } := by
  unfold startWorkThread
  split_ifs <;> rfl

theorem post_some {q : List (Nat × Job)} (h : s.workIoService = some q) (k : Nat) (r : Request) :
    s.post k r = count { s with
      workThread := if s.workThread = .null then .running else s.workThread
      workIoService := some (q ++ [(k, ⟨s.next k, r, (s.impls k).cancelationToken⟩)]) } k := by
  simp [post, h, startWorkThread_eq]

theorem post_none (h : s.workIoService = none) (k : Nat) (r : Request) :
    s.post k r = count { s with dropped := s.dropped ++ [(k, s.next k)] } k := by
  simp [post, h]

theorem shutdownService_some {q : List (Nat × Job)} (h : s.workIoService = some q) :
    s.shutdownService = { s with
      work := false
      workThread := .null
      workIoService := none
      dropped := s.dropped ++ q.map fun p => (p.1, p.2.id) } := by
  simp [shutdownService, h]

theorem shutdownService_none (h : s.workIoService = none) :
    s.shutdownService = { s with work := false } := by
  simp [shutdownService, h]

theorem step_work (h : s.step L .work = some s') : ∃ k j q,
    s.workThread = .running ∧ s.workIoService = some ((k, j) :: q) ∧
    s' = { s.update k (j.run L (s.impls k)).impl with
      workIoService := some q
      io := s.io ++ [(k, ⟨j.id, (j.run L (s.impls k)).outcome⟩)] } := by
  simp only [step] at h
  split_ifs at h with ht
  cases hq : s.workIoService with
  | none => rw [hq] at h; cases h
  | some q =>
    cases q with
    | nil => rw [hq] at h; cases h
    | cons p q =>
      rw [hq] at h
      exact ⟨p.1, p.2, q, ht, rfl, (Option.some_inj.mp h).symm⟩

theorem step_workEnds (h : s.step L .workEnds = some s') :
    s.workIoService = some [] ∧ s.work = false ∧ s' = { s with workThread := .returned } := by
  simp only [step] at h
  split_ifs at h with ht
  exact ⟨ht.2.1, ht.2.2, (Option.some_inj.mp h).symm⟩

theorem step_deliver (h : s.step L .deliver = some s') : ∃ k c cs, s.io = (k, c) :: cs ∧
    s' = { s with io := cs, invoked := s.invoked ++ [(k, c)] } := by
  simp only [step] at h
  cases hio : s.io with
  | nil => rw [hio] at h; cases h
  | cons p cs =>
    rw [hio] at h
    exact ⟨p.1, p.2, cs, rfl, (Option.some_inj.mp h).symm⟩

/-- **What an initiation does**: the connector may be opened first, and then a
handler object or the handler itself is posted. -/
theorem initiate_cases (L : Library M) (s : SharedWorld M) (k : Nat) (r : Request) :
    ∃ i, (∃ o, s.initiate L k r = (s.update k i).postHandler k o) ∨
      s.initiate L k r = (s.update k i).post k r := by
  have hsame : s.update k (s.impls k) = s := by simp [update]
  cases r with
  | connect c =>
    simp only [initiate, asyncConnect]
    split_ifs
    · exact ⟨_, .inl ⟨_, rfl⟩⟩
    · exact ⟨_, .inr rfl⟩
    · exact ⟨s.impls k, .inr (by rw [hsame])⟩
  | query stmt =>
    refine ⟨s.impls k, ?_⟩
    simp only [initiate, asyncQuery, hsame]
    split_ifs
    · exact .inl ⟨_, rfl⟩
    · exact .inr rfl
  | storeResult =>
    refine ⟨s.impls k, ?_⟩
    simp only [initiate, asyncStoreResult, hsame]
    split_ifs
    · exact .inl ⟨_, rfl⟩
    · exact .inr rfl

/-! ## What one connector sees -/

/-- Connector `k` with what is in the queues for it. -/
def view (s : SharedWorld M) (k : Nat) : World M :=
  ⟨s.impls k, restrict k s.queue, restrict k s.io, restrict k s.invoked, s.next k⟩

/-- What an action is for connector `k`. -/
def sees (k : Nat) (s : SharedWorld M) : SharedAction → List Action
  | .initiate j r => if j = k then [.initiate r] else []
  | .work => if s.queue.head?.map Prod.fst = some k then [.work] else []
  | .deliver => if s.io.head?.map Prod.fst = some k then [.deliver] else []
  | .cancel j => if j = k then [.cancel] else []
  | .close j => if j = k then [.close] else []
  | .call j ec op => if j = k then [.call ec op] else []
  | .workEnds | .shutdown => []

@[simp] theorem view_start (impls : Nat → Implementation M) (k : Nat) :
    (start impls).view k = .start (impls k) := rfl

variable {k j : Nat}

@[simp] theorem view_impl (s : SharedWorld M) (k : Nat) : (s.view k).impl = s.impls k := rfl

theorem view_postHandler (o : Outcome) :
    (s.postHandler j o).view k = if j = k then (s.view k).postHandler o else s.view k := by
  by_cases h : j = k
  · subst h
    simp [view, postHandler, World.postHandler, count, queue]
  · simp [view, postHandler, count, queue, h, restrict_other h, Ne.symm h]

theorem view_post (hup : s.workIoService.isSome) (r : Request) :
    (s.post j r).view k = if j = k then (s.view k).post r else s.view k := by
  obtain ⟨q, hq⟩ := Option.isSome_iff_exists.mp hup
  by_cases h : j = k
  · subst h
    simp [view, post_some hq, World.post, count, queue, hq]
  · simp [view, post_some hq, count, queue, hq, h, restrict_other h, Ne.symm h]

theorem view_update (i : Implementation M) :
    (s.update j i).view k = if j = k then { s.view k with impl := i } else s.view k := by
  by_cases h : j = k
  · subst h
    simp [view, update, queue]
  · simp [view, update, queue, h, Ne.symm h]

theorem initiate_open (h : (s.impls k).initialized = true) (r : Request) :
    s.initiate L k r = s.post k r := by
  cases r <;> simp [initiate, asyncConnect, asyncQuery, asyncStoreResult, h]

theorem view_initiate (hup : s.workIoService.isSome) (r : Request) :
    (s.initiate L j r).view k = if j = k then (s.view k).initiate L r else s.view k := by
  have hup' : ∀ i, (s.update j i).workIoService.isSome := fun _ => hup
  cases hi : (s.impls j).initialized with
  | true =>
    rw [initiate_open hi, view_post hup]
    by_cases h : j = k
    · subst h
      rw [if_pos rfl, if_pos rfl, World.initiate_open hi]
    · rw [if_neg h, if_neg h]
  | false =>
    cases r with
    | query stmt =>
      simp only [initiate, asyncQuery, hi, Bool.not_false, if_true, view_postHandler]
      by_cases h : j = k
      · subst h
        simp [World.initiate, World.asyncQuery, hi]
      · rw [if_neg h, if_neg h]
    | storeResult =>
      simp only [initiate, asyncStoreResult, hi, Bool.not_false, if_true, view_postHandler]
      by_cases h : j = k
      · subst h
        simp [World.initiate, World.asyncStoreResult, hi]
      · rw [if_neg h, if_neg h]
    | connect c =>
      simp only [initiate, asyncConnect, hi, Bool.not_false, if_true]
      by_cases h : j = k
      · subst h
        have hclosed : (!(s.view j).impl.initialized) = true := by simp [hi]
        simp only [World.initiate, World.asyncConnect, hclosed, if_true]
        by_cases hec : (MysqlService.open L (s.view j).impl .clear).ec.failed = true
        · have hec' : (MysqlService.open L (s.impls j) .clear).ec.failed = true := hec
          rw [if_pos hec, if_pos hec', view_postHandler, view_update]
          simp
        · have hec' : ¬ (MysqlService.open L (s.impls j) .clear).ec.failed = true := hec
          rw [if_neg hec, if_neg hec', view_post (hup' _), view_update]
          simp
      · split_ifs <;> simp [view_post, view_postHandler, view_update, hup', h]

/-- **A step of the service is a step of a connector, or none.** -/
theorem step_view {ok : World M → Action → Prop} (hup : s.workIoService.isSome) {a : SharedAction}
    (ha : a ≠ .shutdown) (hstep : s.step L a = some s') (k : Nat)
    (hok : ∀ b ∈ sees k s a, ok (s.view k) b) :
    Run (World.step L) ok (s.view k) (sees k s a) (s'.view k) := by
  -- a step of connector `j` itself, seen by connector `k`
  have hown : ∀ {j : Nat} {b : Action}, sees k s a = (if j = k then [b] else []) →
      (j = k → (s.view k).step L b = some (s'.view k)) → (j ≠ k → s'.view k = s.view k) →
      Run (World.step L) ok (s.view k) (sees k s a) (s'.view k) := by
    intro j b hs hself hother
    rw [hs] at hok ⊢
    by_cases h : j = k
    · rw [if_pos h] at hok ⊢
      exact .single (hok b (by simp)) (hself h)
    · rw [if_neg h, hother h]
      exact .start
  have hset : ∀ {j : Nat} {b : Action} (f : Implementation M → Implementation M),
      sees k s a = (if j = k then [b] else []) →
      (∀ w : World M, w.step L b = some { w with impl := f w.impl }) →
      some (s.update j (f (s.impls j))) = some s' →
      Run (World.step L) ok (s.view k) (sees k s a) (s'.view k) := by
    intro j b f hs hf hs'
    obtain rfl := Option.some_inj.mp hs'
    refine hown hs (fun h => ?_) fun h => by rw [view_update, if_neg h]
    subst h
    rw [hf, view_update, if_pos rfl]
    rfl
  cases a with
  | initiate j r =>
    cases hstep
    refine hown rfl (fun h => ?_) fun h => by rw [view_initiate hup, if_neg h]
    rw [view_initiate hup, if_pos h]
    rfl
  | work =>
    obtain ⟨j, x, q, -, hq, rfl⟩ := step_work hstep
    refine hown (j := j) (b := .work) (by simp [sees, queue, hq]) (fun h => ?_) fun h => ?_
    · subst h
      simp [World.step, view, update, queue, hq]
    · simp [view, update, queue, hq, restrict_other h, Ne.symm h]
  | workEnds =>
    obtain ⟨-, -, rfl⟩ := step_workEnds hstep
    exact .start
  | deliver =>
    obtain ⟨j, c, cs, hio, rfl⟩ := step_deliver hstep
    refine hown (j := j) (b := .deliver) (by simp [sees, hio]) (fun h => ?_) fun h => ?_
    · subst h
      simp [World.step, view, hio, queue]
    · simp [view, queue, hio, restrict_other h]
  | cancel j => exact hset Implementation.cancel rfl (fun _ => rfl) hstep
  | close j => exact hset (MysqlService.close L) rfl (fun _ => rfl) hstep
  | call j ec op => exact hset (fun i => (perform .mysql L i ec op).1) rfl (fun _ => rfl) hstep
  | shutdown => exact absurd rfl ha

/-- `shutdown_service` is not called. -/
def Up : SharedWorld M → SharedAction → Prop := fun _ a => a ≠ .shutdown

/-- Nothing else takes the work queue away or brings it back, and while it is there
no handler is dropped. -/
theorem step_service {a : SharedAction} (ha : a ≠ .shutdown) (hstep : s.step L a = some s') :
    s'.workIoService.isSome = s.workIoService.isSome ∧
      (s.workIoService.isSome → s'.dropped = s.dropped) := by
  cases a with
  | initiate k r =>
    cases hstep
    obtain ⟨i, ⟨o, heq⟩ | heq⟩ := initiate_cases L s k r
    · rw [heq]
      exact ⟨rfl, fun _ => rfl⟩
    · rw [heq]
      cases hq : s.workIoService with
      | some q =>
        rw [post_some (s := s.update k i) hq]
        exact ⟨rfl, fun _ => rfl⟩
      | none =>
        rw [post_none (s := s.update k i) hq]
        exact ⟨congrArg Option.isSome hq, nofun⟩
  | work =>
    obtain ⟨j, x, q, -, hq, rfl⟩ := step_work hstep
    exact ⟨by simp [hq], fun _ => rfl⟩
  | workEnds =>
    obtain ⟨-, -, rfl⟩ := step_workEnds hstep
    exact ⟨rfl, fun _ => rfl⟩
  | deliver =>
    obtain ⟨j, c, cs, -, rfl⟩ := step_deliver hstep
    exact ⟨rfl, fun _ => rfl⟩
  | cancel k => cases hstep; exact ⟨rfl, fun _ => rfl⟩
  | close k => cases hstep; exact ⟨rfl, fun _ => rfl⟩
  | call k ec op => cases hstep; exact ⟨rfl, fun _ => rfl⟩
  | shutdown => exact absurd rfl ha

theorem step_up (hup : s.workIoService.isSome) {a : SharedAction} (ha : a ≠ .shutdown)
    (hstep : s.step L a = some s') : s'.workIoService.isSome :=
  (step_service ha hstep).1.trans hup

variable {impls : Nat → Implementation M} {as : List SharedAction}

/-- The steps of connector `k` in a run. -/
def seenBy (L : Library M) (impls : Nat → Implementation M) (k : Nat) (as : List SharedAction) :
    List Action :=
  seen (step L) (sees k) (start impls) as

/-- **Connectors that share a service do not know of each other.** Until the
service is shut down, a run of all its connectors is, for each of them, a run of
that connector alone, in which the caller does to it what it did, in order. -/
theorem seen_alone (hrun : Run (step L) Up (start impls) as s) (k : Nat) :
    Run (World.step L) anyStep (.start (impls k)) (seenBy L impls k as) (s.view k) ∧
      (seenBy L impls k as).flatMap Action.called = as.flatMap (SharedAction.on k) := by
  have hwithin : Run (step L) (fun u a => Up u a ∧ u.workIoService.isSome) (start impls) as s :=
    hrun.within rfl fun u a v hu ha hstep => step_up hu ha hstep
  refine ⟨?_, hrun.seen_flatMap fun u a => ?_⟩
  · rw [← view_start impls k]
    exact hwithin.seen fun u a v hok hstep => step_view hok.2 hok.1 hstep k fun _ _ => trivial
  · cases a <;> first | rfl | (simp only [sees, SharedAction.on]; split_ifs <;> rfl)

/-- Two connectors: a query of one is queued between the query and the store of
the other, which closes meanwhile. -/
theorem seen_alone_two :
    let impls := fun _ : Nat =>
      Script.opened { verdicts := [.batch (some Script.oneRow) [] 0] } defaultFlags
    ∃ s : SharedWorld Script,
      exec (step Script.library) (start impls)
        [.initiate 0 (.query "select 1"), .initiate 1 (.query "select 2"),
          .initiate 0 .storeResult, .work, .work, .close 1, .work, .deliver] = some s ∧
      Run (World.step Script.library) anyStep (.start (impls 0))
        [.initiate (.query "select 1"), .initiate .storeResult, .work, .work, .deliver]
        (s.view 0) := by
  intro impls
  obtain ⟨s, hs⟩ : ∃ s : SharedWorld Script, exec (step Script.library) (start impls)
      [.initiate 0 (.query "select 1"), .initiate 1 (.query "select 2"),
        .initiate 0 .storeResult, .work, .work, .close 1, .work, .deliver] = some s := ⟨_, rfl⟩
  have hrun : Run (step Script.library) Up (start impls) _ s :=
    run_of_exec (by simp [Up]) hs
  exact ⟨s, hs, (seen_alone hrun 0).1⟩

end SharedWorld

end MysqlService

end Amy
