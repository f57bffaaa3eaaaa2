import Amy.Native

/-!
# `detail::mysql_ops`

Each wrapper clears the caller's code, makes its native call and translates
the returned value. `errorWrapper` is overloaded on the return type as in the
source: a null pointer fails, a nonzero `int` fails. The non-blocking wrappers
go through `mysqlStart` and `mysqlContinue`, which hand the caller the wait
status as well.
-/

namespace Amy

variable {M R : Type}

/-- The return types `error_wrapper` is overloaded on. -/
class ReturnType (R : Type) where
  failed : R → Bool

instance {α : Type} : ReturnType (Option α) := ⟨Option.isNone⟩
instance : ReturnType Int32 := ⟨(· != 0)⟩

@[simp] theorem failed_none {α : Type} : ReturnType.failed (none : Option α) = true := rfl
@[simp] theorem failed_some {α : Type} (a : α) : ReturnType.failed (some a) = false := rfl
@[simp] theorem failed_int (r : Int32) : ReturnType.failed r = (r != 0) := rfl

def errorWrapper [ReturnType R] (returnValue : R) (errno : UInt32) (ec : ErrorCode) : ErrorCode :=
  if ReturnType.failed returnValue then .client errno else ec

/-- `clear_error`, whatever the code was. -/
def clearError (_ec : ErrorCode) : ErrorCode := .clear

@[simp] theorem clearError_eq (ec : ErrorCode) : clearError ec = .clear := rfl

structure Out (M R : Type) where
  ret : R
  mysql : Mysql M
  ec : ErrorCode

section Blocking

variable (L : Library M) (h : Mysql M) (ec : ErrorCode)

/-- `clear_error(ec); return error_wrapper(<native call>, m, ec);` -/
def wrapped [ReturnType R] (c : Call) (r : R × M) : Out M R :=
  ⟨r.1, h.call c r.2, errorWrapper r.1 (L.errno r.2) (clearError ec)⟩

def mysqlInit : Out M (Option Unit) :=
  match L.init h.st with
  | some st => ⟨some (), h.call .init st, clearError ec⟩
  | none => ⟨none, h.call .init h.st, .initializationError⟩

def mysqlAutocommit (mode : Bool) : Out M Unit :=
  let r := L.autocommit mode h.st
  ⟨(), h.call (.autocommit mode) r.2, if r.1 then .autocommitSettingError else clearError ec⟩

def mysqlRealConnect (args : ConnectArgs) : Out M (Option Unit) :=
  wrapped L h ec (.realConnect args) (L.realConnect args h.st)

def mysqlRealQuery (stmt : String) : Out M Int32 :=
  wrapped L h ec (.realQuery stmt) (L.realQuery stmt h.st)

def mysqlFieldCount : UInt32 × Mysql M := (L.fieldCount h.st, h.read .fieldCount)

def mysqlStoreResult : Out M (Option MysqlRes) :=
  wrapped L h ec .storeResult (L.storeResult h.st)

def mysqlMoreResults : Bool × Mysql M :=
  (L.moreResults h.st, h.read (.moreResults (L.moreResults h.st)))

def mysqlNextResult : Out M Int32 := wrapped L h ec .nextResult (L.nextResult h.st)

def mysqlCommit : Out M Unit :=
  let r := L.commit h.st
  ⟨(), h.call .commit r.2, if r.1 then .commitError else clearError ec⟩

def mysqlRollback : Out M Unit :=
  let r := L.rollback h.st
  ⟨(), h.call .rollback r.2, if r.1 then .rollbackError else clearError ec⟩

def mysqlOptions (o : MysqlOption) : Out M Int32 :=
  wrapped L h ec (.options o.option) (L.options o h.st)

def mysqlAffectedRows : UInt64 × Mysql M := (L.affectedRows h.st, h.read .affectedRows)

def mysqlClose : Mysql M := h.call .close (L.close h.st)

end Blocking

/-! ## Wait statuses -/

namespace WaitType

/-- No wait: the call is done. -/
abbrev finish : UInt32 := 0
abbrev read : UInt32 := 1
abbrev write : UInt32 := 2
abbrev except : UInt32 := 4
abbrev timeout : UInt32 := 8
abbrev readOrWrite : UInt32 := read ||| write

end WaitType

/-! ## The non-blocking wrappers -/

/-- What a non-blocking wrapper returns: the wait status, the result variable,
the handle, the caller's code. -/
structure NbOut (M R : Type) where
  status : UInt32
  ret : R
  mysql : Mysql M
  ec : ErrorCode

/-- The translation `mysql_start` and `mysql_continue` end with. -/
def statusError [ReturnType R] (status : UInt32) (r : R) (errno : UInt32) (ec : ErrorCode) :
    ErrorCode :=
  if status = WaitType.finish then errorWrapper r errno ec
  -- the source combines with `|`, so this holds of every status
  else if status ||| WaitType.except ≠ 0 then errorWrapper r errno .unknown
  else ec

section NonBlocking

variable [ReturnType R] (L : Library M) (f : NbFn M R) (r : R) (h : Mysql M) (ec : ErrorCode)

/-- What the caller hears of an answer that leaves `r` in the result variable. -/
def heard (a : NbAnswer M R) : Heard :=
  ⟨a.status, L.errno a.st, ReturnType.failed (a.ret.getD r)⟩

def mysqlStart : NbOut M R :=
  let a := f.start h.st
  ⟨a.status, a.ret.getD r, h.call (.start f.name (heard L r a)) a.st,
    statusError a.status (a.ret.getD r) (L.errno a.st) (clearError ec)⟩

def mysqlContinue (status : UInt32) : NbOut M R :=
  let a := f.cont status h.st
  ⟨a.status, a.ret.getD r, h.call (.cont f.name status (heard L r a)) a.st,
    statusError a.status (a.ret.getD r) (L.errno a.st) (clearError ec)⟩

end NonBlocking

/-- A nonzero status always goes through the failure translation. -/
theorem statusError_suspended [ReturnType R] {status : UInt32} (hs : status ≠ 0) (r : R)
    (errno : UInt32) (ec : ErrorCode) :
    statusError status r errno ec = errorWrapper r errno .unknown := by
  simp [statusError, hs]

@[simp] theorem statusError_finish [ReturnType R] (r : R) (errno : UInt32) (ec : ErrorCode) :
    statusError WaitType.finish r errno ec = errorWrapper r errno ec := by
  simp [statusError]

/-- A suspended call leaves no error exactly when the result variable still
says failure and the handle has no errno. -/
theorem failed_statusError_suspended [ReturnType R] {status : UInt32} (hs : status ≠ 0) (r : R)
    (errno : UInt32) (ec : ErrorCode) :
    (statusError status r errno ec).failed = !(ReturnType.failed r && errno == 0) := by
  rw [statusError_suspended hs]
  unfold errorWrapper
  cases hr : ReturnType.failed r
  · simp
  · simp [bne]

end Amy
