import Amy.Implementation

/-!
# The blocking operations of the services

`mysql_service` and `mariadb_service` define most blocking operations with the
same body; it stands once in namespace `Service` and each service has its own
definition by its own name. The two differ in `set_option`: MariaDB's returns
after finding the connector closed, MySQL's only notes the error and goes on.
-/

namespace Amy

variable {M : Type}

/-! ## What a connection needs -/

/-- The endpoints `endpoint_traits` is specialised on. -/
inductive Endpoint where
  | null
  | tcp (host : String) (port : UInt32)
  | stream (path : String)
  deriving DecidableEq, Repr

def Endpoint.host : Endpoint → Option String
  | .tcp host _ => some host
  | _ => none

def Endpoint.port : Endpoint → UInt32
  | .tcp _ port => port
  | _ => 0

def Endpoint.unixSocket : Endpoint → Option String
  | .stream path => some path
  | _ => none

structure AuthInfo where
  user : String
  password : Option String
  deriving DecidableEq, Repr

/-- The arguments of a connect operation. -/
structure ConnectRequest where
  endpoint : Endpoint
  auth : AuthInfo
  database : String
  flags : UInt64
  deriving DecidableEq, Repr

def ConnectRequest.args (c : ConnectRequest) : ConnectArgs where
  host := c.endpoint.host
  user := c.auth.user
  password := c.auth.password
  database := c.database
  port := c.endpoint.port
  unixSocket := c.endpoint.unixSocket
  clientFlag := c.flags

/-! ## Outcomes -/

/-- The connector and the caller's code after an operation. -/
structure Done (M : Type) where
  impl : Implementation M
  ec : ErrorCode

/-- The connector, the caller's code and the result set an operation returns. -/
structure Stored (M : Type) where
  impl : Implementation M
  ec : ErrorCode
  rs : ResultSet

/-- What `error_message` returns: the library's text or the category's. -/
inductive ErrorText where
  | native (text : String)
  | category (ec : ErrorCode)
  deriving DecidableEq, Repr

/-! ## The shared bodies -/

namespace Service

variable (L : Library M) (i : Implementation M)

def errorMessage (ec : ErrorCode) : ErrorText × Implementation M :=
  let i := { i with mysql := i.mysql.read .errno }
  if L.errno i.mysql.st = ec.value.toUInt32 then
    (.native (L.error i.mysql.st), { i with mysql := i.mysql.read .error })
  else (.category ec, i)

def «open» (ec : ErrorCode) : Done M :=
  let ec := clearError ec
  if !i.initialized then
    let o := mysqlInit L i.mysql ec
    ⟨{ i with mysql := o.mysql, initialized := o.ret.isSome }, o.ec⟩
  else ⟨i, ec⟩

def close : Implementation M := if i.initialized then i.close L else i

/-- `connect` once the connector is open. -/
def connectOpen (c : ConnectRequest) (ec : ErrorCode) : Done M :=
  let o := mysqlRealConnect L i.mysql ec c.args
  ⟨{ i with mysql := o.mysql, flags := c.flags }, o.ec⟩

def connect (c : ConnectRequest) (ec : ErrorCode) : Done M :=
  if !i.initialized then
    let o := «open» L i ec
    if o.ec.failed then o else connectOpen L o.impl c o.ec
  else connectOpen L i c ec

def query (stmt : String) (ec : ErrorCode) : Done M :=
  if !i.initialized then ⟨i, .notInitialized⟩
  else
    let i := { i.freeResult with firstResultStored := false }
    let o := mysqlRealQuery L i.mysql ec stmt
    ⟨{ i with mysql := o.mysql }, o.ec⟩

def hasMoreResults : Bool × Implementation M :=
  if !i.initialized then (false, i)
  else if multiResults i.flags then
    if !i.firstResultStored then (true, i)
    else
      let r := mysqlMoreResults L i.mysql
      (r.1, { i with mysql := r.2 })
  else if !i.firstResultStored then
    let r := mysqlFieldCount L i.mysql
    (r.1 != 0, { i with mysql := r.2 })
  else (false, i)

/-- `store_result` up to its test of `ec`: the library moves to the next result,
unless the first one is still to be stored. -/
def nextResult (ec : ErrorCode) : Done M :=
  if i.firstResultStored then
    let q := hasMoreResults L i.freeResult
    if !q.1 then ⟨q.2, .noMoreResults⟩
    else
      let o := mysqlNextResult L q.2.mysql ec
      ⟨{ q.2 with mysql := o.mysql }, o.ec⟩
  else ⟨{ i with firstResultStored := true }, ec⟩

/-- `store_result` after its test of `ec`: the current result is stored and copied. -/
def retrieve (ec : ErrorCode) : Stored M :=
  let o := mysqlStoreResult L i.mysql ec
  let i := ({ i with mysql := o.mysql }).resetResult o.ret
  let a := ResultSet.assign L .fresh i.mysql i.lastResult o.ec
  ⟨{ i with mysql := a.mysql }, a.ec, a.rs⟩

def storeResult (ec : ErrorCode) : Stored M :=
  let o := nextResult L i ec
  if o.ec.failed then ⟨o.impl, o.ec, .emptySet⟩ else retrieve L o.impl o.ec

def autocommit (mode : Bool) (ec : ErrorCode) : Done M :=
  let o := mysqlAutocommit L i.mysql ec mode
  ⟨{ i with mysql := o.mysql }, o.ec⟩

def commit (ec : ErrorCode) : Done M :=
  if !i.initialized then ⟨i, .notInitialized⟩
  else
    let o := mysqlCommit L i.mysql ec
    ⟨{ i with mysql := o.mysql }, o.ec⟩

def rollback (ec : ErrorCode) : Done M :=
  if !i.initialized then ⟨i, .notInitialized⟩
  else
    let o := mysqlRollback L i.mysql ec
    ⟨{ i with mysql := o.mysql }, o.ec⟩

def affectedRows : UInt64 × Implementation M :=
  let r := mysqlAffectedRows L i.mysql
  (r.1, { i with mysql := r.2 })

/-- `set_option` once its guard is passed. -/
def applyOption (o : MysqlOption) (ec : ErrorCode) : Done M :=
  let r := mysqlOptions L i.mysql ec o
  ⟨{ i with mysql := r.mysql }, r.ec⟩

section Open

variable {L i}

theorem open_initialized (h : i.initialized = true) (ec : ErrorCode) :
    «open» L i ec = ⟨i, .clear⟩ := by
  simp [«open», h]

theorem open_failed (h : i.initialized = false) (ec : ErrorCode) :
    («open» L i ec).impl.initialized = !(«open» L i ec).ec.failed := by
  simp only [«open», h, mysqlInit]
  cases L.init i.mysql.st <;> rfl

theorem query_open (h : i.initialized = true) (stmt : String) (ec : ErrorCode) :
    query L i stmt ec =
      ⟨{ i.freeResult with
          mysql := i.freeResult.mysql.call (.realQuery stmt) (L.realQuery stmt i.mysql.st).2
          firstResultStored := false },
        errorWrapper (L.realQuery stmt i.mysql.st).1 (L.errno (L.realQuery stmt i.mysql.st).2)
          .clear⟩ := by
  simp [query, h, mysqlRealQuery, wrapped]

theorem commit_open (h : i.initialized = true) (ec : ErrorCode) :
    commit L i ec = ⟨{ i with mysql := i.mysql.call .commit (L.commit i.mysql.st).2 },
      if (L.commit i.mysql.st).1 then .commitError else .clear⟩ := by
  simp [commit, h, mysqlCommit]

theorem rollback_open (h : i.initialized = true) (ec : ErrorCode) :
    rollback L i ec = ⟨{ i with mysql := i.mysql.call .rollback (L.rollback i.mysql.st).2 },
      if (L.rollback i.mysql.st).1 then .rollbackError else .clear⟩ := by
  simp [rollback, h, mysqlRollback]

end Open

end Service

/-! ## `mysql_service` -/

namespace MysqlService

variable (L : Library M) (i : Implementation M)

abbrev errorMessage := Service.errorMessage L i
abbrev «open» := Service.open L i
abbrev close := Service.close L i
abbrev connect := Service.connect L i
abbrev query := Service.query L i
abbrev hasMoreResults := Service.hasMoreResults L i
abbrev storeResult := Service.storeResult L i
abbrev autocommit := Service.autocommit L i
abbrev commit := Service.commit L i
abbrev rollback := Service.rollback L i
abbrev affectedRows := Service.affectedRows L i

def setOption (o : MysqlOption) (ec : ErrorCode) : Done M :=
  let ec := if !i.initialized then .notInitialized else ec
  -- no return here: the call is made, and clears the code, on a closed connector too
  Service.applyOption L i o ec

end MysqlService

/-! ## `mariadb_service` -/

namespace MariadbService

variable (L : Library M) (i : Implementation M)

abbrev errorMessage := Service.errorMessage L i
abbrev «open» := Service.open L i
abbrev close := Service.close L i
abbrev connect := Service.connect L i
abbrev query := Service.query L i
abbrev hasMoreResults := Service.hasMoreResults L i
abbrev storeResult := Service.storeResult L i
abbrev autocommit := Service.autocommit L i
abbrev commit := Service.commit L i
abbrev rollback := Service.rollback L i
abbrev affectedRows := Service.affectedRows L i

def setOption (o : MysqlOption) (ec : ErrorCode) : Done M :=
  if !i.initialized then ⟨i, .notInitialized⟩ else Service.applyOption L i o ec

end MariadbService

end Amy
