import Amy.Mariadb.Wait

/-!
# The composed handlers of `mariadb_service`

Each handler's `operator()` is a `switch` over the step its state remembers and
is run again by every wait it registers. `connect_handler` and `query_handler`
make one native call: they differ in the call and in what they do to the
connector around its start, and share `Single.call`. `store_result_handler`
and `query_result_handler` make a call and then `mysql_store_result`, in a
`for (;;)` that `continue` restarts: they share `Chain.call`, and differ in
their first call, in how `S_ENTRY` decides on it, and in what `S_STORE_START`
does to the connector.

An expired token or an incoming error sends all of them to the end of the
`switch`, from where the user's handler is invoked.
-/

namespace Amy

namespace MariadbService

variable {M R : Type} (L : Library M)

/-- `if (p.cancelation_token_.expired()) ec = operation_aborted;` -/
def checkToken (token : Nat) (i : MariadbImplementation M) (ec : ErrorCode) : ErrorCode :=
  if token ≠ i.cancelationToken then .operationAborted else ec

/-! ## Handlers of one native call -/

structure Single (R : Type) where
  step : Nat
  result : R
  /-- `cancelation_token_`. -/
  token : Nat

namespace Single

variable [ReturnType R] (f : NbFn M R)

/-- From `case 1` on, reached from `case 0` too. -/
def resume (p : Single R) (i : MariadbImplementation M) (ec : ErrorCode) (status : UInt32) :
    Turn M (Single R) :=
  let o : NbOut M R :=
    if p.step = 1 then mysqlContinue L f p.result i.mysql ec status
    else ⟨status, p.result, i.mysql, ec⟩
  let p := { p with result := o.ret, step := 1 }
  let i := { i with mysql := o.mysql }
  if o.status = WaitType.finish || o.ec.failed then .invoke i ⟨o.ec, none⟩
  else asyncWaitMysql L o.status i p

/-- `operator()`: `before` and `after` are done to the connector around the start. -/
def call (before after : MariadbImplementation M → MariadbImplementation M) (p : Single R)
    (i : MariadbImplementation M) (ec : ErrorCode) (status : UInt32) : Turn M (Single R) :=
  let ec := checkToken p.token i ec
  match if ec.failed then 2 else p.step with
  | 0 =>
    let i := before i
    let o := mysqlStart L f p.result i.mysql ec
    resume L f { p with result := o.ret } (after { i with mysql := o.mysql }) o.ec o.status
  | 1 => resume L f p i ec status
  | _ => .invoke i ⟨ec, none⟩

end Single

def connectHandler (c : ConnectRequest) (p : Single (Option Unit)) (i : MariadbImplementation M)
    (ec : ErrorCode) (status : UInt32) : Turn M (Single (Option Unit)) :=
  p.call L (L.nbConnect c.args) id (fun i => { i with flags := c.flags }) i ec status

def queryHandler (stmt : String) (p : Single Int32) (i : MariadbImplementation M)
    (ec : ErrorCode) (status : UInt32) : Turn M (Single Int32) :=
  p.call L (L.nbQuery stmt)
    (fun i => { i.update i.freeResult with firstResultStored := false }) id i ec status

/-! ## Handlers of a native call and `mysql_store_result` -/

/-- The steps: `waitFirst` and `contFirst` are `S_WAIT_NEXT` and `S_CONT_NEXT`,
or `S_WAIT_QUERY` and `S_CONT_QUERY`. -/
inductive ChainStep where
  | entry
  | error
  | storeStart
  | contStore
  | waitFirst
  | contFirst
  deriving DecidableEq, Repr

structure Chain where
  step : ChainStep
  /-- `next_result_` or `query_result_`. -/
  firstResult : Int32
  /-- `result_`. -/
  result : Option MysqlRes
  token : Nat

/-- What `S_ENTRY` does before its native call. -/
inductive Entered (M : Type) where
  /-- It makes the call. -/
  | start (i : MariadbImplementation M)
  /-- It goes on to `S_STORE_START` without it. -/
  | skip (i : MariadbImplementation M)
  /-- It leaves the `switch` with a code. -/
  | leave (i : MariadbImplementation M) (ec : ErrorCode)

/-- What tells the two handlers apart. -/
structure ChainKind (M : Type) where
  first : NbFn M Int32
  entry : MariadbImplementation M → Entered M
  /-- Done in `S_STORE_START` once the last result is freed. -/
  mark : MariadbImplementation M → MariadbImplementation M

/-- One pass of the `for (;;)`. -/
inductive Flow (M : Type) where
  | ends (t : Turn M Chain)
  /-- `continue`. -/
  | again (p : Chain) (i : MariadbImplementation M) (ec : ErrorCode) (status : UInt32)

def Flow.run (rest : Chain → MariadbImplementation M → ErrorCode → UInt32 → Turn M Chain) :
    Flow M → Turn M Chain
  | .ends t => t
  | .again p i ec status => rest p i ec status

@[simp] theorem Flow.run_ends (rest) (t : Turn M Chain) : (Flow.ends t).run rest = t := rfl

@[simp] theorem Flow.run_again (rest) (p : Chain) (i : MariadbImplementation M) (ec : ErrorCode)
    (status : UInt32) : (Flow.again p i ec status).run rest = rest p i ec status := rfl

namespace Chain

variable (k : ChainKind M)

/-- After the `switch`: the result is copied, or the set is empty. -/
def finish (result : Option MysqlRes) (i : MariadbImplementation M) (ec : ErrorCode) :
    Turn M Chain :=
  if !ec.failed then
    let i := i.update (i.resetResult result)
    let a := ResultSet.assign L .fresh i.mysql i.lastResult ec
    .invoke { i with mysql := a.mysql } ⟨a.ec, some a.rs⟩
  else .invoke i ⟨ec, some .emptySet⟩

def check (p : Chain) (i : MariadbImplementation M) (ec : ErrorCode) (status : UInt32) : Flow M :=
  if ec.failed then .ends (finish L p.result i ec)
  else if status = WaitType.finish then
    if p.step = .contFirst then .again { p with step := .storeStart } i ec status
    else if p.step = .contStore then .ends (finish L p.result i ec)
    else .ends .assertion
  else .ends (asyncWaitMysql L status i p)

def cont (p : Chain) (i : MariadbImplementation M) (ec : ErrorCode) (status : UInt32) : Flow M :=
  match p.step with
  | .storeStart => check L { p with step := .contStore } i ec status
  | .contStore =>
    let o := mysqlContinue L L.nbStoreResult p.result i.mysql ec status
    check L { p with result := o.ret } { i with mysql := o.mysql } o.ec o.status
  | .contFirst =>
    let o := mysqlContinue L k.first p.firstResult i.mysql ec status
    check L { p with firstResult := o.ret } { i with mysql := o.mysql } o.ec o.status
  | .waitFirst => check L { p with step := .contFirst } i ec status
  | _ => check L p i ec status

def storeStart (p : Chain) (i : MariadbImplementation M) (ec : ErrorCode) : Flow M :=
  let p := { p with step := .storeStart }
  let i := k.mark (i.update i.freeResult)
  let o := mysqlStart L L.nbStoreResult p.result i.mysql ec
  let p := { p with result := o.ret }
  let i := { i with mysql := o.mysql }
  if o.ec.failed || o.status = WaitType.finish then .ends (finish L p.result i o.ec)
  else cont L k p i o.ec o.status

def entry (p : Chain) (i : MariadbImplementation M) (ec : ErrorCode) : Flow M :=
  match k.entry i with
  | .leave i ec => .ends (finish L p.result i ec)
  | .skip i => storeStart L k p i ec
  | .start i =>
    let o := mysqlStart L k.first p.firstResult i.mysql ec
    let p := { p with firstResult := o.ret }
    let i := { i with mysql := o.mysql }
    if o.ec.failed then .ends (finish L p.result i o.ec)
    else if o.status ≠ WaitType.finish then .again { p with step := .waitFirst } i o.ec o.status
    else storeStart L k p i o.ec

def pass (p : Chain) (i : MariadbImplementation M) (ec : ErrorCode) (status : UInt32) : Flow M :=
  let ec := checkToken p.token i ec
  match if ec.failed then .error else p.step with
  | .entry => entry L k p i ec
  | .storeStart => storeStart L k p i ec
  | .waitFirst | .contFirst | .contStore => cont L k p i ec status
  | .error => .ends (finish L p.result i ec)

/-- At most `n` passes of the `for (;;)`. -/
def loop : Nat → Chain → MariadbImplementation M → ErrorCode → UInt32 → Turn M Chain
  | 0, _, _, _, _ => .spinning
  | n + 1, p, i, ec, status => (pass L k p i ec status).run (loop n)

/-- `operator()`. No handler makes more than two passes. -/
def call (p : Chain) (i : MariadbImplementation M) (ec : ErrorCode) (status : UInt32) :
    Turn M Chain :=
  loop L k 2 p i ec status

end Chain

/-- `store_result_handler`: the next result is asked for once the first is stored. -/
def storeResultKind : ChainKind M where
  first := L.nbNextResult
  entry i :=
    if i.firstResultStored then
      let q := hasMoreResults L (i.freeResult)
      let i := i.update q.2
      if !q.1 then .leave i .noMoreResults else .start i
    else .skip { i with firstResultStored := true }
  mark := id

/-- `query_result_handler`, built for `stmt`. -/
def queryResultKind (stmt : String) : ChainKind M where
  first := L.nbQuery stmt
  entry i := .start { i.update i.freeResult with firstResultStored := false }
  mark i := { i with firstResultStored := true }

def storeResultHandler (p : Chain) (i : MariadbImplementation M) (ec : ErrorCode)
    (status : UInt32) : Turn M Chain :=
  p.call L (storeResultKind L) i ec status

def queryResultHandler (stmt : String) (p : Chain) (i : MariadbImplementation M) (ec : ErrorCode)
    (status : UInt32) : Turn M Chain :=
  p.call L (queryResultKind L stmt) i ec status

/-! ## Any handler -/

/-- An asynchronous operation of `mariadb_service`, with its arguments. -/
inductive Request where
  | connect (c : ConnectRequest)
  | query (stmt : String)
  | storeResult
  | queryResult (stmt : String)
  deriving DecidableEq, Repr

inductive Handler where
  | connect (c : ConnectRequest) (p : Single (Option Unit))
  | query (stmt : String) (p : Single Int32)
  | storeResult (p : Chain)
  | queryResult (stmt : String) (p : Chain)

namespace Handler

def construct (token : Nat) : Request → Handler
  | .connect c => .connect c ⟨0, none, token⟩
  | .query stmt => .query stmt ⟨0, -1, token⟩
  | .storeResult => .storeResult ⟨.entry, -1, none, token⟩
  | .queryResult stmt => .queryResult stmt ⟨.entry, -1, none, token⟩

def token : Handler → Nat
  | .connect _ p => p.token
  | .query _ p => p.token
  | .storeResult p => p.token
  | .queryResult _ p => p.token

def expired (h : Handler) (i : MariadbImplementation M) : Bool := h.token != i.cancelationToken

def call (h : Handler) (i : MariadbImplementation M) (ec : ErrorCode) (status : UInt32) :
    Turn M Handler :=
  match h with
  | .connect c p => (connectHandler L c p i ec status).map (.connect c)
  | .query stmt p => (queryHandler L stmt p i ec status).map (.query stmt)
  | .storeResult p => (storeResultHandler L p i ec status).map .storeResult
  | .queryResult stmt p => (queryResultHandler L stmt p i ec status).map (.queryResult stmt)

end Handler

/-! ## Initiating an operation -/

/-- `MYSQL_OPT_NONBLOCK` as MariaDB's headers number it. -/
def nonblock : Int32 := 6000

def nonblockDefault : MysqlOption := ⟨nonblock, none⟩

/-- How an initiating call ends: the user's handler is posted, or the composed
handler has run for the first time. -/
inductive Started (M : Type) where
  | posted (i : MariadbImplementation M) (o : Outcome)
  | ran (t : Turn M Handler)

variable (i : MariadbImplementation M)

def launch (r : Request) (ec : ErrorCode) : Started M :=
  .ran ((Handler.construct i.cancelationToken r).call L i ec WaitType.finish)

def asyncConnectOpen (c : ConnectRequest) : Started M :=
  let o := setOption L i.toImplementation nonblockDefault .clear
  let i := i.update o.impl
  if o.ec.failed then .posted i ⟨o.ec, none⟩ else launch L i (.connect c) o.ec

def asyncConnect (c : ConnectRequest) : Started M :=
  if !i.initialized then
    let o := MariadbService.open L i.toImplementation .clear
    let i := i.update o.impl
    if o.ec.failed then .posted i ⟨o.ec, none⟩ else asyncConnectOpen L i c
  else asyncConnectOpen L i c

def asyncQuery (stmt : String) : Started M :=
  if !i.initialized then .posted i ⟨.notInitialized, none⟩ else launch L i (.query stmt) .clear

def asyncStoreResult : Started M :=
  if !i.initialized then .posted i ⟨.notInitialized, some .emptySet⟩
  else launch L i .storeResult .clear

def asyncQueryResult (stmt : String) : Started M :=
  if !i.initialized then .posted i ⟨.notInitialized, some .emptySet⟩
  else launch L i (.queryResult stmt) .clear

def initiate : Request → Started M
  | .connect c => asyncConnect L i c
  | .query stmt => asyncQuery L i stmt
  | .storeResult => asyncStoreResult L i
  | .queryResult stmt => asyncQueryResult L i stmt

end MariadbService

end Amy
