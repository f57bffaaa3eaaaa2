import Amy.Async
import Amy.Base.Runs

/-!
# The work queue of `mysql_service`

An asynchronous operation posts a handler object to the work queue; one worker
thread takes them off and runs their `operator()`, which posts the user's
handler to the io_service. `World` is a connector with both queues, `step` the
actions on it: initiations, worker steps, handler invocations, `cancel`,
`close`, and blocking calls. One `operator()` is one step.

The three `operator()`s are copies of the blocking operations in the source and
are defined apart from them here too.
-/

namespace Amy

namespace MysqlService

variable {M : Type}

/-- An asynchronous operation of `mysql_service`, with its arguments. -/
inductive Request where
  | connect (c : ConnectRequest)
  | query (stmt : String)
  | storeResult
  deriving DecidableEq, Repr

/-- A posted handler object: `handler_base` with what its subclass adds. -/
structure Job where
  id : Nat
  request : Request
  /-- `cancelation_token_`, the token the weak pointer was made from. -/
  token : Nat
  deriving DecidableEq, Repr

def Job.expired (j : Job) (i : Implementation M) : Bool := j.token != i.cancelationToken

/-- What `operator()` leaves: the connector, and what it posts the handler with. -/
structure Ran (M : Type) where
  impl : Implementation M
  outcome : Outcome

variable (L : Library M) (i : Implementation M)

/-- `connect_handler::operator()`, the token checked. -/
def connectHandler (c : ConnectRequest) : Ran M :=
  let ec := ErrorCode.clear
  let o := mysqlRealConnect L i.mysql ec c.args
  ⟨{ i with mysql := o.mysql, flags := c.flags }, ⟨o.ec, none⟩⟩

/-- `query_handler::operator()`, the token checked. -/
def queryHandler (stmt : String) : Ran M :=
  let i := { i.freeResult with firstResultStored := false }
  let ec := ErrorCode.clear
  let o := mysqlRealQuery L i.mysql ec stmt
  ⟨{ i with mysql := o.mysql }, ⟨o.ec, none⟩⟩

/-- `store_result_handler::operator()`, the token checked. -/
def storeResultHandler : Ran M :=
  let ec := ErrorCode.clear
  let s : Done M :=
    if i.firstResultStored then
      let i := i.freeResult
      let q := hasMoreResults L i
      if !q.1 then ⟨q.2, .noMoreResults⟩
      else
        let o := mysqlNextResult L q.2.mysql ec
        ⟨{ q.2 with mysql := o.mysql }, o.ec⟩
    else ⟨{ i with firstResultStored := true }, ec⟩
  if s.ec.failed then ⟨s.impl, ⟨s.ec, some .emptySet⟩⟩
  else
    let o := mysqlStoreResult L s.impl.mysql s.ec
    let i := ({ s.impl with mysql := o.mysql }).resetResult o.ret
    let a := ResultSet.assign L .fresh i.mysql i.lastResult o.ec
    ⟨{ i with mysql := a.mysql }, ⟨a.ec, some a.rs⟩⟩

/-- What a handler with an expired token posts. -/
def aborted : Request → Outcome
  | .connect _ | .query _ => ⟨.operationAborted, none⟩
  | .storeResult => ⟨.operationAborted, some .emptySet⟩

/-- `operator()`. -/
def Job.run (j : Job) : Ran M :=
  if j.expired i then ⟨i, aborted j.request⟩
  else match j.request with
    | .connect c => connectHandler L i c
    | .query stmt => queryHandler L i stmt
    | .storeResult => storeResultHandler L i

/-! ## The connector with its queues -/

structure World (M : Type) where
  impl : Implementation M
  /-- `work_io_service_`, oldest first. -/
  work : List Job
  /-- Handlers posted to the io_service, oldest first. -/
  io : List Completion
  /-- Handlers invoked, oldest first. -/
  invoked : List Completion
  /-- The number of the next operation. -/
  next : Nat

def World.start (i : Implementation M) : World M := ⟨i, [], [], [], 0⟩

inductive Action where
  | initiate (r : Request)
  /-- The worker thread runs the oldest handler object. -/
  | work
  /-- The io_service invokes the oldest handler. -/
  | deliver
  | cancel
  | close
  | call (ec : ErrorCode) (op : Operation)
  deriving DecidableEq, Repr

def Action.initiates : Action → Bool
  | .initiate _ => true
  | _ => false

/-- `cancel()` and `close()`. -/
def Action.cuts : Action → Bool
  | .cancel | .close => true
  | _ => false

namespace World

variable {L}

def post (w : World M) (r : Request) : World M :=
  { w with work := w.work ++ [⟨w.next, r, w.impl.cancelationToken⟩], next := w.next + 1 }

def postHandler (w : World M) (o : Outcome) : World M :=
  { w with io := w.io ++ [⟨w.next, o⟩], next := w.next + 1 }

variable (L)

def asyncConnect (w : World M) (c : ConnectRequest) : World M :=
  if !w.impl.initialized then
    let o := MysqlService.open L w.impl .clear
    let w := { w with impl := o.impl }
    if o.ec.failed then w.postHandler ⟨o.ec, none⟩ else w.post (.connect c)
  else w.post (.connect c)

def asyncQuery (w : World M) (stmt : String) : World M :=
  if !w.impl.initialized then w.postHandler ⟨.notInitialized, none⟩ else w.post (.query stmt)

def asyncStoreResult (w : World M) : World M :=
  if !w.impl.initialized then w.postHandler ⟨.notInitialized, some .emptySet⟩
  else w.post .storeResult

def initiate (w : World M) : Request → World M
  | .connect c => w.asyncConnect L c
  | .query stmt => w.asyncQuery stmt
  | .storeResult => w.asyncStoreResult

def step (w : World M) : Action → Option (World M)
  | .initiate r => some (w.initiate L r)
  | .work => match w.work with
    | [] => none
    | j :: js =>
      let r := j.run L w.impl
      some { w with impl := r.impl, work := js, io := w.io ++ [⟨j.id, r.outcome⟩] }
  | .deliver => match w.io with
    | [] => none
    | c :: cs => some { w with io := cs, invoked := w.invoked ++ [c] }
  | .cancel => some { w with impl := w.impl.cancel }
  | .close => some { w with impl := MysqlService.close L w.impl }
  | .call ec op => some { w with impl := (perform .mysql L w.impl ec op).1 }

variable {L} {w w' : World M}

theorem step_work (h : w.step L .work = some w') : ∃ j js, w.work = j :: js ∧
    w' = { w with
      impl := (j.run L w.impl).impl
      work := js
      io := w.io ++ [⟨j.id, (j.run L w.impl).outcome⟩] } := by
  simp only [step] at h
  cases hw : w.work with
  | nil => rw [hw] at h; cases h
  | cons j js =>
    rw [hw] at h
    exact ⟨j, js, rfl, (Option.some_inj.mp h).symm⟩

theorem step_deliver (h : w.step L .deliver = some w') : ∃ c cs, w.io = c :: cs ∧
    w' = { w with io := cs, invoked := w.invoked ++ [c] } := by
  simp only [step] at h
  cases hio : w.io with
  | nil => rw [hio] at h; cases h
  | cons c cs =>
    rw [hio] at h
    exact ⟨c, cs, rfl, (Option.some_inj.mp h).symm⟩

end World

/-! ## The handlers do what the blocking calls do -/

variable {L i}

/-- The blocking call of a request, its code cleared. -/
def blocking (L : Library M) (i : Implementation M) : Request → Ran M
  | .connect c => let o := Connector.connectEc .mysql L i c .clear; ⟨o.impl, o.outcome⟩
  | .query stmt => let o := Connector.queryEc .mysql L i stmt .clear; ⟨o.impl, o.outcome⟩
  | .storeResult => let o := Connector.storeResultEc .mysql L i .clear; ⟨o.impl, o.outcome⟩

theorem storeResultHandler_eq (L : Library M) (i : Implementation M) :
    storeResultHandler L i =
      ⟨(Service.storeResult L i .clear).impl, (Service.storeResult L i .clear).outcome⟩ := by
  simp only [storeResultHandler, Service.storeResult, Service.nextResult, Stored.outcome,
    Service.retrieve]
  split_ifs <;> rfl

/-- **A handler that is not canceled does what the blocking call does.** -/
theorem Job.run_eq_blocking {j : Job} (htoken : j.token = i.cancelationToken)
    (hopen : i.initialized = true) : j.run L i = blocking L i j.request := by
  unfold Job.run blocking
  rw [if_neg (by simp [Job.expired, htoken])]
  cases j.request with
  | connect c => simp [connectHandler, Service.connect, hopen, Service.connectOpen, Done.outcome]
  | query stmt => simp [queryHandler, Service.query, hopen, Done.outcome]
  | storeResult => simp [storeResultHandler_eq]

theorem Job.run_expired {j : Job} (h : j.expired i = true) :
    j.run L i = ⟨i, aborted j.request⟩ := by
  simp [Job.run, h]

end MysqlService

end Amy
