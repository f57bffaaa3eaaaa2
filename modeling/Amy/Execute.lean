import Amy.Mysql.Queue
import Amy.Mariadb.Refine

/-!
# `execute` and `async_execute`

`async_execute` is `async_query` with an `execute_handler` around the caller's
handler. Both it and the blocking `execute` report a code and a number of rows.
For a list of statements executed one after the other both lists of reports are
`reports` of the library, with the rule each has for the number (`blockingCount`,
`handlerCount`); the rules agree where the library counts no rows.
-/

namespace Amy

open Base

variable {M : Type}

structure Executed where
  ec : ErrorCode
  affectedRows : UInt64
  deriving DecidableEq, Repr

/-- `execute(connector, stmt, ec)`. -/
def execute (svc : MySQLService) (L : Library M) (i : Implementation M) (stmt : String)
    (ec : ErrorCode) : Implementation M × Executed :=
  let o := Connector.queryEc svc L i stmt ec
  if o.ec.failed then (o.impl, ⟨o.ec, 0⟩)
  else
    let r := Connector.affectedRows svc L o.impl
    (r.2, ⟨o.ec, r.1⟩)

/-- `execute_handler::operator()`, up to the call of the caller's handler. -/
def executeHandler (svc : MySQLService) (L : Library M) (i : Implementation M) (ec : ErrorCode) :
    Implementation M × Executed :=
  -- `!!ec ? connector.affected_rows() : 0u`: the rows are read where `ec` is an error
  if ec.failed then
    let r := Connector.affectedRows svc L i
    (r.2, ⟨ec, r.1⟩)
  else (i, ⟨ec, 0⟩)

/-- The blocking reports of `stmts`, each statement from the connector the last one left. -/
def executeAll (svc : MySQLService) (L : Library M) : Implementation M → List String → List Executed
  | _, [] => []
  | i, stmt :: stmts =>
    let r := execute svc L i stmt .clear
    r.2 :: executeAll svc L r.1 stmts

/-- `one i stmt j r`: on connector `i`, `stmt` is executed, reports `r` and leaves `j`. -/
inductive InTurn {σ : Type} (one : σ → String → σ → Executed → Prop) :
    σ → List String → List Executed → Prop where
  | nil (i : σ) : InTurn one i [] []
  | cons {i j : σ} {stmt : String} {stmts : List String} {r : Executed} {rs : List Executed} :
      one i stmt j r → InTurn one j stmts rs → InTurn one i (stmt :: stmts) (r :: rs)

/-- `async_execute` on `mysql_service` and nothing else: initiated, run by the
worker, its handler invoked. -/
def MysqlService.AsyncExecutes (L : Library M) (i : Implementation M) (stmt : String)
    (j : Implementation M) (r : Executed) : Prop :=
  ∃ w c, exec (World.step L) (.start i) [.initiate (.query stmt), .work, .deliver] = some w ∧
    w.invoked = [c] ∧ executeHandler .mysql L w.impl c.outcome.code = (j, r)

/-- `async_execute` on `mariadb_service`, resumed by each of its waits until its
handler is invoked. -/
def MariadbService.AsyncExecutes (L : Library M) (i : MariadbImplementation M) (stmt : String)
    (j : MariadbImplementation M) (r : Executed) : Prop :=
  ∃ t k o, initiate L i (.query stmt) = .ran t ∧
    Ends (fun h i status => h.call L i .clear status) t k o ∧
    j = k.update (executeHandler .mariadb L k.toImplementation o.code).1 ∧
    r = (executeHandler .mariadb L k.toImplementation o.code).2

/-! ## Reports by rule -/

section Reports

variable (L : Library M)

def queryCode (m : M) (stmt : String) : ErrorCode :=
  errorWrapper (L.realQuery stmt m).1 (L.errno (L.realQuery stmt m).2) .clear

/-- The handle after each of the statements. -/
def afterwards : M → List String → List M
  | _, [] => []
  | m, stmt :: stmts => (L.realQuery stmt m).2 :: afterwards (L.realQuery stmt m).2 stmts

def reports (count : ErrorCode → M → UInt64) : M → List String → List Executed
  | _, [] => []
  | m, stmt :: stmts =>
    ⟨queryCode L m stmt, count (queryCode L m stmt) (L.realQuery stmt m).2⟩ ::
      reports count (L.realQuery stmt m).2 stmts

/-- The rule of `execute`. -/
def blockingCount (ec : ErrorCode) (m : M) : UInt64 := if ec.failed then 0 else L.affectedRows m

/-- The rule of `execute_handler`. -/
def handlerCount (ec : ErrorCode) (m : M) : UInt64 := if ec.failed then L.affectedRows m else 0

theorem handlerCount_eq_blockingCount (ec : ErrorCode) (m : M) :
    handlerCount L ec m = blockingCount L ec m ↔ L.affectedRows m = 0 := by
  unfold handlerCount blockingCount
  cases ec.failed
  · simp only [Bool.false_eq_true, if_false]
    exact eq_comm
  · simp

theorem reports_eq_iff (m : M) (stmts : List String) :
    reports L (handlerCount L) m stmts = reports L (blockingCount L) m stmts ↔
      ∀ m' ∈ afterwards L m stmts, L.affectedRows m' = 0 := by
  induction stmts generalizing m with
  | nil => simp [reports, afterwards]
  | cons stmt stmts ih =>
    simp only [reports, afterwards, List.cons.injEq, Executed.mk.injEq, true_and,
      List.forall_mem_cons, ih, handlerCount_eq_blockingCount]

end Reports

section Steps

variable {L : Library M}

theorem query_spec {i : Implementation M} (hopen : i.initialized = true) (stmt : String)
    (ec : ErrorCode) :
    (Service.query L i stmt ec).ec = queryCode L i.mysql.st stmt ∧
      (Service.query L i stmt ec).impl.initialized = true ∧
      (Service.query L i stmt ec).impl.mysql.st = (L.realQuery stmt i.mysql.st).2 := by
  rw [Service.query_open hopen]
  exact ⟨rfl, by simpa using hopen, rfl⟩

theorem execute_spec (svc : MySQLService) {i : Implementation M} (hopen : i.initialized = true)
    (stmt : String) : ∃ j, execute svc L i stmt .clear =
        (j, ⟨queryCode L i.mysql.st stmt,
          blockingCount L (queryCode L i.mysql.st stmt) (L.realQuery stmt i.mysql.st).2⟩) ∧
      j.initialized = true ∧ j.mysql.st = (L.realQuery stmt i.mysql.st).2 := by
  obtain ⟨hec, ho, hst⟩ := query_spec (L := L) hopen stmt .clear
  simp only [execute, Connector.queryEc_eq, Connector.affectedRows_eq, hec, blockingCount]
  split_ifs
  · exact ⟨_, rfl, ho, hst⟩
  · simp only [Service.affectedRows, mysqlAffectedRows, hst]
    exact ⟨_, rfl, ho, hst⟩

theorem executeHandler_spec (svc : MySQLService) (i : Implementation M) (ec : ErrorCode) :
    ∃ j, executeHandler svc L i ec = (j, ⟨ec, handlerCount L ec i.mysql.st⟩) ∧
      j.initialized = i.initialized ∧ j.mysql.st = i.mysql.st := by
  simp only [executeHandler, Connector.affectedRows_eq, handlerCount]
  split_ifs
  · exact ⟨_, rfl, rfl, rfl⟩
  · exact ⟨_, rfl, rfl, rfl⟩

theorem executeAll_eq {svc : MySQLService} {i : Implementation M} (hopen : i.initialized = true)
    (stmts : List String) :
    executeAll svc L i stmts = reports L (blockingCount L) i.mysql.st stmts := by
  induction stmts generalizing i with
  | nil => rfl
  | cons stmt stmts ih =>
    obtain ⟨j, hj, hopen', hst⟩ := execute_spec (L := L) svc hopen stmt
    rw [executeAll, reports, hj]
    simp only [ih hopen', hst]

end Steps

/-! ## The asynchronous reports -/

section Async

variable {L : Library M}

theorem MysqlService.asyncExecutes_iff {i : Implementation M} (hopen : i.initialized = true)
    (stmt : String) : ∃ j, (∀ j' r, AsyncExecutes L i stmt j' r ↔ j' = j ∧
        r = ⟨queryCode L i.mysql.st stmt,
          handlerCount L (queryCode L i.mysql.st stmt) (L.realQuery stmt i.mysql.st).2⟩) ∧
      j.initialized = true ∧ j.mysql.st = (L.realQuery stmt i.mysql.st).2 := by
  obtain ⟨hec, ho, hst⟩ := query_spec (L := L) hopen stmt .clear
  have hrun : (⟨0, .query stmt, i.cancelationToken⟩ : Job).run L i =
      ⟨(Service.query L i stmt .clear).impl, ⟨queryCode L i.mysql.st stmt, none⟩⟩ := by
    rw [Job.run_eq_blocking rfl hopen]
    simp [blocking, Done.outcome, hec]
  have hexec : exec (World.step L) (.start i) [.initiate (.query stmt), .work, .deliver] =
      some ⟨(Service.query L i stmt .clear).impl, [], [],
        [⟨0, queryCode L i.mysql.st stmt, none⟩], 1⟩ := by
    simp [exec, World.step, World.initiate, World.asyncQuery, World.start, World.post, hopen, hrun]
  obtain ⟨j, hj, hjo, hjst⟩ := executeHandler_spec (L := L) .mysql
    (Service.query L i stmt .clear).impl (queryCode L i.mysql.st stmt)
  refine ⟨j, fun j' r => ?_, hjo.trans ho, hjst.trans hst⟩
  simp only [AsyncExecutes, hexec, Option.some.injEq]
  constructor
  · rintro ⟨w, c, rfl, hc, hr⟩
    obtain rfl := List.singleton_inj.mp hc
    rw [hj, hst, Prod.mk.injEq] at hr
    exact ⟨hr.1.symm, hr.2.symm⟩
  · rintro ⟨rfl, rfl⟩
    exact ⟨_, _, rfl, rfl, by rw [hj, hst]⟩

theorem MariadbService.asyncExecutes_iff {susp : NbCall → M → List UInt32}
    (hL : NonBlocking L susp) {i : MariadbImplementation M} (hopen : i.initialized = true)
    (stmt : String) : ∃ j, (∀ j' r, AsyncExecutes L i stmt j' r ↔ j' = j ∧
        r = ⟨queryCode L i.mysql.st stmt,
          handlerCount L (queryCode L i.mysql.st stmt) (L.realQuery stmt i.mysql.st).2⟩) ∧
      j.initialized = true ∧ j.mysql.st = (L.realQuery stmt i.mysql.st).2 := by
  obtain ⟨t, k, ht, hk, hset⟩ := query_ends hL hopen stmt
  have hko : k.initialized = true := by
    obtain ⟨calls, ev, rfl⟩ := hset
    simpa using hopen
  obtain ⟨j, hj, hjo, hjst⟩ := executeHandler_spec (L := L) .mariadb k.toImplementation
    (queryCode L i.mysql.st stmt)
  refine ⟨k.update j, fun j' r => ?_, hjo.trans hko, hjst.trans hset.st⟩
  constructor
  · rintro ⟨t', k', o, ht', hk', rfl, rfl⟩
    obtain rfl : t = t' := by rw [ht] at ht'; exact Started.ran.inj ht'
    obtain ⟨rfl, rfl⟩ := hk.unique hk'
    rw [queryCode] at hj ⊢
    exact ⟨by rw [hj], by rw [hj, hset.st]⟩
  · rintro ⟨rfl, rfl⟩
    rw [queryCode] at hj ⊢
    exact ⟨t, k, _, ht, hk, by rw [hj], by rw [hj, hset.st]⟩

theorem inTurn_iff {σ : Type} (one : σ → String → σ → Executed → Prop) (opened : σ → Prop)
    (st : σ → M) (hone : ∀ i stmt, opened i → ∃ j, (∀ j' r, one i stmt j' r ↔ j' = j ∧
        r = ⟨queryCode L (st i) stmt,
          handlerCount L (queryCode L (st i) stmt) (L.realQuery stmt (st i)).2⟩) ∧
      opened j ∧ st j = (L.realQuery stmt (st i)).2)
    {i : σ} (hopen : opened i) (stmts : List String) (rs : List Executed) :
    InTurn one i stmts rs ↔ rs = reports L (handlerCount L) (st i) stmts := by
  induction stmts generalizing i rs with
  | nil =>
    constructor
    · rintro ⟨⟩; rfl
    · rintro rfl; exact .nil i
  | cons stmt stmts ih =>
    obtain ⟨j, hj, hopen', hst⟩ := hone i stmt hopen
    constructor
    · rintro ⟨⟩
      rename_i j' r rs h1 h2
      obtain ⟨rfl, rfl⟩ := (hj j' r).mp h1
      rw [reports, ← hst, (ih hopen' rs).mp h2]
    · rintro rfl
      rw [reports, ← hst]
      exact .cons ((hj j _).mpr ⟨rfl, by rw [hst]⟩) ((ih hopen' _).mpr rfl)

end Async

/-- **`async_execute` agrees with `execute` where no rows are counted.** On an
open connector of either service statements executed one after the other, each
with its handler, complete; their handlers are given what the blocking calls
report if and only if the library counts no affected rows after any of them. -/
theorem asyncExecute_agrees_iff (L : Library M) (stmts : List String) :
    (∀ i : Implementation M, i.initialized = true →
      (∃ rs, InTurn (MysqlService.AsyncExecutes L) i stmts rs) ∧
      (InTurn (MysqlService.AsyncExecutes L) i stmts (executeAll .mysql L i stmts) ↔
        ∀ m ∈ afterwards L i.mysql.st stmts, L.affectedRows m = 0)) ∧
    ∀ susp, NonBlocking L susp → ∀ i : MariadbImplementation M, i.initialized = true →
      (∃ rs, InTurn (MariadbService.AsyncExecutes L) i stmts rs) ∧
      (InTurn (MariadbService.AsyncExecutes L) i stmts
          (executeAll .mariadb L i.toImplementation stmts) ↔
        ∀ m ∈ afterwards L i.mysql.st stmts, L.affectedRows m = 0) := by
  refine ⟨fun i hopen => ?_, fun susp hL i hopen => ?_⟩
  · have h := inTurn_iff (L := L) (MysqlService.AsyncExecutes L)
      (fun i => i.initialized = true) (fun i => i.mysql.st)
      (fun i stmt ho => MysqlService.asyncExecutes_iff ho stmt) hopen stmts
    refine ⟨⟨_, (h _).mpr rfl⟩, ?_⟩
    rw [h, executeAll_eq hopen, eq_comm, reports_eq_iff]
  · have h := inTurn_iff (L := L) (MariadbService.AsyncExecutes L)
      (fun i => i.initialized = true) (fun i => i.mysql.st)
      (fun i stmt ho => MariadbService.asyncExecutes_iff hL ho stmt) hopen stmts
    refine ⟨⟨_, (h _).mpr rfl⟩, ?_⟩
    rw [h, executeAll_eq hopen, eq_comm, reports_eq_iff]

theorem asyncExecute_agrees_iff_uncounted :
    let m : Script := { waits := [[⟨true, false, false⟩]] }
    let stmts := ["create table t (n int)", "create table u (n int)"]
    InTurn (MysqlService.AsyncExecutes Script.library) (Script.opened m defaultFlags) stmts
        [⟨.clear, 0⟩, ⟨.clear, 0⟩] ∧
      InTurn (MariadbService.AsyncExecutes Script.library) (Script.openedMariadb m defaultFlags)
        stmts [⟨.clear, 0⟩, ⟨.clear, 0⟩] := by
  intro m stmts
  have h := asyncExecute_agrees_iff Script.library stmts
  have hmysql := ((h.1 (Script.opened m defaultFlags) rfl).2).mpr (by decide)
  have hmariadb := ((h.2 _ Script.nonBlocking (Script.openedMariadb m defaultFlags) rfl).2).mpr
    (by decide)
  have hall : ∀ svc, executeAll svc Script.library (Script.opened m defaultFlags) stmts =
      [⟨.clear, 0⟩, ⟨.clear, 0⟩] := fun svc => by cases svc <;> decide
  exact ⟨hall .mysql ▸ hmysql, hall .mariadb ▸ hmariadb⟩

/-- A statement that affects three rows and one the server refuses: the handlers
are given no rows and all rows, the blocking calls report three and none. -/
theorem asyncExecute_counts_inverted :
    let i := Script.opened { verdicts := [.batch none [] 3, .failed ⟨1064, by decide⟩] } defaultFlags
    let stmts := ["update t set n = 1", "updat t"]
    InTurn (MysqlService.AsyncExecutes Script.library) i stmts
        [⟨.clear, 0⟩, ⟨.client 1064, 0xFFFFFFFFFFFFFFFF⟩] ∧
      executeAll .mysql Script.library i stmts = [⟨.clear, 3⟩, ⟨.client 1064, 0⟩] := by
  intro i stmts
  refine ⟨?_, by decide⟩
  exact .cons ⟨_, _, rfl, rfl, rfl⟩ (.cons ⟨_, _, rfl, rfl, rfl⟩ (.nil _))

end Amy
