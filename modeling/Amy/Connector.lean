import Amy.Service

/-!
# `basic_connector`, `execute` and the blocking interface as one function

`basic_connector<MySQLService>` forwards to its service. The forms without an
`error_code` run the other form with a fresh code and throw it (`throwError`).
`Operation` and `perform` put the blocking operations under one roof, for runs
of any of them.
-/

namespace Amy

variable {M : Type}

/-- The template argument of `basic_connector`. -/
inductive MySQLService where
  | mysql
  | mariadb
  deriving DecidableEq, Repr

structure SystemError where
  code : ErrorCode
  what : String
  deriving DecidableEq, Repr

/-- The connector after an operation that returns `α` or throws. -/
structure Thrown (M α : Type) where
  impl : Implementation M
  out : Except SystemError α

/-- `detail::throw_error`. -/
def Detail.throwError (L : Library M) (ec : ErrorCode) (i : Implementation M) : Thrown M Unit :=
  if ec.failed then
    if ec.category = .client then
      ⟨{ i with mysql := i.mysql.read .error }, .error ⟨ec, L.error i.mysql.st⟩⟩
    else ⟨i, .error ⟨ec, ""⟩⟩
  else ⟨i, .ok ()⟩

theorem Detail.throwError_clear {L : Library M} {ec : ErrorCode} (h : ec.failed = false)
    (i : Implementation M) : Detail.throwError L ec i = ⟨i, .ok ()⟩ := by
  simp [Detail.throwError, h]

/-- Throwing a code that is either clear or `e`, which is not the library's. -/
theorem Detail.throwError_ite {L : Library M} {e : ErrorCode} (he : e.failed = true)
    (hc : e.category ≠ .client) (b : Bool) (i : Implementation M) :
    Detail.throwError L (if b then e else .clear) i =
      ⟨i, if b then .error ⟨e, ""⟩ else .ok ()⟩ := by
  cases b <;> simp [Detail.throwError, he, hc]

namespace Connector

variable (svc : MySQLService) (L : Library M) (i : Implementation M)

def openEc (ec : ErrorCode) : Done M :=
  match svc with
  | .mysql => MysqlService.open L i ec
  | .mariadb => MariadbService.open L i ec

def close : Implementation M :=
  match svc with
  | .mysql => MysqlService.close L i
  | .mariadb => MariadbService.close L i

def errorMessage (ec : ErrorCode) : ErrorText × Implementation M :=
  match svc with
  | .mysql => MysqlService.errorMessage L i ec
  | .mariadb => MariadbService.errorMessage L i ec

def connectEc (c : ConnectRequest) (ec : ErrorCode) : Done M :=
  match svc with
  | .mysql => MysqlService.connect L i c ec
  | .mariadb => MariadbService.connect L i c ec

def queryEc (stmt : String) (ec : ErrorCode) : Done M :=
  match svc with
  | .mysql => MysqlService.query L i stmt ec
  | .mariadb => MariadbService.query L i stmt ec

def hasMoreResults : Bool × Implementation M :=
  match svc with
  | .mysql => MysqlService.hasMoreResults L i
  | .mariadb => MariadbService.hasMoreResults L i

def storeResultEc (ec : ErrorCode) : Stored M :=
  match svc with
  | .mysql => MysqlService.storeResult L i ec
  | .mariadb => MariadbService.storeResult L i ec

def storeResult : Thrown M ResultSet :=
  let o := storeResultEc svc L i .clear
  let t := Detail.throwError L o.ec o.impl
  ⟨t.impl, t.out.map fun _ => o.rs⟩

/-- `query_result(stmt, ec)`. -/
def queryResultEc (stmt : String) (ec : ErrorCode) : Stored M :=
  let o := queryEc svc L i stmt ec
  if o.ec.failed then ⟨o.impl, o.ec, .emptySet⟩ else storeResultEc svc L o.impl o.ec

def setOptionEc (o : MysqlOption) (ec : ErrorCode) : Done M :=
  match svc with
  | .mysql => MysqlService.setOption L i o ec
  | .mariadb => MariadbService.setOption L i o ec

def autocommitEc (mode : Bool) (ec : ErrorCode) : Done M :=
  match svc with
  | .mysql => MysqlService.autocommit L i mode ec
  | .mariadb => MariadbService.autocommit L i mode ec

def commitEc (ec : ErrorCode) : Done M :=
  match svc with
  | .mysql => MysqlService.commit L i ec
  | .mariadb => MariadbService.commit L i ec

def rollbackEc (ec : ErrorCode) : Done M :=
  match svc with
  | .mysql => MysqlService.rollback L i ec
  | .mariadb => MariadbService.rollback L i ec

/-- An operation of the `error_code&` form, in the form that throws its code. -/
def throwing (o : Done M) : Thrown M Unit := Detail.throwError L o.ec o.impl

def autocommit (mode : Bool) : Thrown M Unit := throwing L (autocommitEc svc L i mode .clear)
def commit : Thrown M Unit := throwing L (commitEc svc L i .clear)
def rollback : Thrown M Unit := throwing L (rollbackEc svc L i .clear)

def affectedRows : UInt64 × Implementation M :=
  match svc with
  | .mysql => MysqlService.affectedRows L i
  | .mariadb => MariadbService.affectedRows L i

section Common

@[simp] theorem openEc_eq (ec : ErrorCode) :
    openEc svc L i ec = Service.open L i ec := by cases svc <;> rfl
@[simp] theorem close_eq : close svc L i = Service.close L i := by cases svc <;> rfl
@[simp] theorem errorMessage_eq (ec : ErrorCode) :
    errorMessage svc L i ec = Service.errorMessage L i ec := by cases svc <;> rfl
@[simp] theorem connectEc_eq (c : ConnectRequest) (ec : ErrorCode) :
    connectEc svc L i c ec = Service.connect L i c ec := by cases svc <;> rfl
@[simp] theorem queryEc_eq (stmt : String) (ec : ErrorCode) :
    queryEc svc L i stmt ec = Service.query L i stmt ec := by cases svc <;> rfl
@[simp] theorem hasMoreResults_eq :
    hasMoreResults svc L i = Service.hasMoreResults L i := by cases svc <;> rfl
@[simp] theorem storeResultEc_eq (ec : ErrorCode) :
    storeResultEc svc L i ec = Service.storeResult L i ec := by cases svc <;> rfl
@[simp] theorem autocommitEc_eq (mode : Bool) (ec : ErrorCode) :
    autocommitEc svc L i mode ec = Service.autocommit L i mode ec := by cases svc <;> rfl
@[simp] theorem commitEc_eq (ec : ErrorCode) :
    commitEc svc L i ec = Service.commit L i ec := by cases svc <;> rfl
@[simp] theorem rollbackEc_eq (ec : ErrorCode) :
    rollbackEc svc L i ec = Service.rollback L i ec := by cases svc <;> rfl
@[simp] theorem affectedRows_eq :
    affectedRows svc L i = Service.affectedRows L i := by cases svc <;> rfl

end Common

section Open

variable {svc L i}

theorem commit_open (h : i.initialized = true) :
    commit svc L i = ⟨{ i with mysql := i.mysql.call .commit (L.commit i.mysql.st).2 },
      if (L.commit i.mysql.st).1 then .error ⟨.commitError, ""⟩ else .ok ()⟩ := by
  simp only [commit, throwing, commitEc_eq, Service.commit_open h]
  exact Detail.throwError_ite rfl (by decide) _ _

theorem rollback_open (h : i.initialized = true) :
    rollback svc L i = ⟨{ i with mysql := i.mysql.call .rollback (L.rollback i.mysql.st).2 },
      if (L.rollback i.mysql.st).1 then .error ⟨.rollbackError, ""⟩ else .ok ()⟩ := by
  simp only [rollback, throwing, rollbackEc_eq, Service.rollback_open h]
  exact Detail.throwError_ite rfl (by decide) _ _

theorem autocommit_eq (mode : Bool) :
    autocommit svc L i mode =
      ⟨{ i with mysql := i.mysql.call (.autocommit mode) (L.autocommit mode i.mysql.st).2 },
        if (L.autocommit mode i.mysql.st).1 then .error ⟨.autocommitSettingError, ""⟩
        else .ok ()⟩ := by
  simp only [autocommit, throwing, autocommitEc_eq, Service.autocommit, mysqlAutocommit]
  exact Detail.throwError_ite rfl (by decide) _ _

end Open

end Connector

/-! ## Any blocking operation -/

/-- A call of a blocking member of `basic_connector`, with its arguments. -/
inductive Operation where
  | «open»
  | connect (c : ConnectRequest)
  | query (stmt : String)
  | storeResult
  | queryResult (stmt : String)
  | setOption (o : MysqlOption)
  | autocommit (mode : Bool)
  | commit
  | rollback
  | affectedRows
  | hasMoreResults
  | errorMessage (ec : ErrorCode)
  deriving DecidableEq, Repr

/-- What a call returns. -/
inductive Reply where
  | code (ec : ErrorCode)
  | result (ec : ErrorCode) (rs : ResultSet)
  | count (n : UInt64)
  | flag (b : Bool)
  | text (t : ErrorText)
  deriving DecidableEq, Repr

/-- The error code a call reports, where it reports one. -/
def Reply.code? : Reply → Option ErrorCode
  | .code ec => some ec
  | .result ec _ => some ec
  | _ => none

def Done.reply (o : Done M) : Implementation M × Reply := (o.impl, .code o.ec)

def Stored.reply (o : Stored M) : Implementation M × Reply := (o.impl, .result o.ec o.rs)

/-- The call `op` on connector `i`, its `error_code&` holding `ec`. -/
def perform (svc : MySQLService) (L : Library M) (i : Implementation M) (ec : ErrorCode) :
    Operation → Implementation M × Reply
  | .open => (Connector.openEc svc L i ec).reply
  | .connect c => (Connector.connectEc svc L i c ec).reply
  | .query stmt => (Connector.queryEc svc L i stmt ec).reply
  | .storeResult => (Connector.storeResultEc svc L i ec).reply
  | .queryResult stmt => (Connector.queryResultEc svc L i stmt ec).reply
  | .setOption o => (Connector.setOptionEc svc L i o ec).reply
  | .autocommit mode => (Connector.autocommitEc svc L i mode ec).reply
  | .commit => (Connector.commitEc svc L i ec).reply
  | .rollback => (Connector.rollbackEc svc L i ec).reply
  | .affectedRows => let r := Connector.affectedRows svc L i; (r.2, .count r.1)
  | .hasMoreResults => let r := Connector.hasMoreResults svc L i; (r.2, .flag r.1)
  | .errorMessage e => let r := Connector.errorMessage svc L i e; (r.2, .text r.1)

section Perform

@[simp] theorem Done.reply_fst (o : Done M) : o.reply.1 = o.impl := rfl
@[simp] theorem Done.reply_snd (o : Done M) : o.reply.2 = .code o.ec := rfl
@[simp] theorem Stored.reply_fst (o : Stored M) : o.reply.1 = o.impl := rfl
@[simp] theorem Stored.reply_snd (o : Stored M) : o.reply.2 = .result o.ec o.rs := rfl

variable (svc : MySQLService) (L : Library M) (i : Implementation M) (ec : ErrorCode)

@[simp] theorem perform_open :
    perform svc L i ec .open = (Service.open L i ec).reply := by
  rw [perform, Connector.openEc_eq]
@[simp] theorem perform_connect (c : ConnectRequest) :
    perform svc L i ec (.connect c) = (Service.connect L i c ec).reply := by
  rw [perform, Connector.connectEc_eq]
@[simp] theorem perform_query (stmt : String) :
    perform svc L i ec (.query stmt) = (Service.query L i stmt ec).reply := by
  rw [perform, Connector.queryEc_eq]
@[simp] theorem perform_storeResult :
    perform svc L i ec .storeResult = (Service.storeResult L i ec).reply := by
  rw [perform, Connector.storeResultEc_eq]
@[simp] theorem perform_autocommit (mode : Bool) :
    perform svc L i ec (.autocommit mode) = (Service.autocommit L i mode ec).reply := by
  rw [perform, Connector.autocommitEc_eq]
@[simp] theorem perform_commit :
    perform svc L i ec .commit = (Service.commit L i ec).reply := by
  rw [perform, Connector.commitEc_eq]
@[simp] theorem perform_rollback :
    perform svc L i ec .rollback = (Service.rollback L i ec).reply := by
  rw [perform, Connector.rollbackEc_eq]
@[simp] theorem perform_affectedRows :
    perform svc L i ec .affectedRows =
      ((Service.affectedRows L i).2, .count (Service.affectedRows L i).1) := by
  simp only [perform, Connector.affectedRows_eq]
@[simp] theorem perform_hasMoreResults :
    perform svc L i ec .hasMoreResults =
      ((Service.hasMoreResults L i).2, .flag (Service.hasMoreResults L i).1) := by
  simp only [perform, Connector.hasMoreResults_eq]
@[simp] theorem perform_errorMessage (e : ErrorCode) :
    perform svc L i ec (.errorMessage e) =
      ((Service.errorMessage L i e).2, .text (Service.errorMessage L i e).1) := by
  simp only [perform, Connector.errorMessage_eq]

@[simp] theorem perform_queryResult (stmt : String) :
    perform svc L i ec (.queryResult stmt) =
      if (Service.query L i stmt ec).ec.failed
      then (⟨(Service.query L i stmt ec).impl, (Service.query L i stmt ec).ec, .emptySet⟩ :
        Stored M).reply
      else (Service.storeResult L (Service.query L i stmt ec).impl
        (Service.query L i stmt ec).ec).reply := by
  simp only [perform, Connector.queryResultEc, Connector.queryEc_eq, Connector.storeResultEc_eq]
  split_ifs <;> rfl

/-- Either service applies the option, or the connector is not open. -/
theorem perform_setOption (o : MysqlOption) :
    perform svc L i ec (.setOption o) = (i, .code .notInitialized) ∨
      perform svc L i ec (.setOption o) = (Service.applyOption L i o ec).reply := by
  cases svc with
  | mysql => exact .inr rfl
  | mariadb =>
    simp only [perform, Connector.setOptionEc, MariadbService.setOption]
    split_ifs
    · exact .inl rfl
    · exact .inr rfl

end Perform

end Amy
