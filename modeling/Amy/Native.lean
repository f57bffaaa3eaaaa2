import Amy.Error
import Amy.Base.Suspend

/-!
# The native client library

The C library (`libmysqlclient`, or MariaDB's client with the non-blocking
calls) is outside the sources: it is the parameter `Library M`, one function
for each native call, over an arbitrary type `M` of `MYSQL` handles. A theorem
for every `L : Library M` holds for every answer the library may give, in any
order, since `M` may carry a whole script of answers.

`Mysql M` is the handle as the services hold it, with the list of native
functions called through it; a `mysql_errno` read that reports the failure of a
recorded call is not recorded separately.
-/

namespace Amy

/-- The arguments of `mysql_real_connect` after the handle; a null pointer is `none`. -/
structure ConnectArgs where
  host : Option String
  user : String
  password : Option String
  database : String
  port : UInt32
  unixSocket : Option String
  clientFlag : UInt64
  deriving DecidableEq, Repr

/-- An option object: `option()` and `data()`. -/
structure MysqlOption where
  option : Int32
  data : Option (List UInt8)
  deriving DecidableEq, Repr

/-! ## Stored results -/

structure MysqlField where
  name : String
  length : UInt64
  maxLength : UInt64
  flags : UInt32
  deriving DecidableEq, Repr

/-- `row[i]` with `lengths[i]`: the bytes in memory from the pointer on
(`none` is a null pointer) and the length the library reports. -/
structure Cell where
  value : Option (List UInt8)
  length : Nat
  deriving DecidableEq, Repr

/-- `MYSQL_RES`, just stored: its address, and what its two cursors will yield. -/
structure MysqlRes where
  ptr : Nat
  /-- `mysql_num_rows`. -/
  rowCount : UInt64
  /-- What `mysql_fetch_field` yields before its null. -/
  fields : List MysqlField
  /-- What `mysql_fetch_row` yields before its null, with `mysql_fetch_lengths`. -/
  data : List (List Cell)
  deriving DecidableEq, Repr

def MysqlRes.numFields (r : MysqlRes) : Nat := r.fields.length

/-! ## The calls -/

/-- The native calls that have `_start` and `_cont` forms the handlers use. -/
inductive NbCall where
  | realConnect (args : ConnectArgs)
  | realQuery (stmt : String)
  | storeResult
  | nextResult
  deriving DecidableEq, Repr

/-- What a `_start` or `_cont` call was heard to answer: the wait status, the
handle's errno after it, and whether `*ret` then reports failure. -/
structure Heard where
  status : UInt32
  errno : UInt32
  retFailed : Bool
  deriving DecidableEq, Repr

/-- A native function called through a connector. -/
inductive Call where
  | init
  | close
  | realConnect (args : ConnectArgs)
  | realQuery (stmt : String)
  | storeResult
  | nextResult
  | options (option : Int32)
  | autocommit (mode : Bool)
  | commit
  | rollback
  | fieldCount
  | moreResults (answer : Bool)
  | affectedRows
  | errno
  | error
  | freeResult (ptr : Nat)
  | getSocket
  | getTimeoutValue
  | start (c : NbCall) (heard : Heard)
  | cont (c : NbCall) (waited : UInt32) (heard : Heard)
  deriving DecidableEq, Repr

/-- The answer of a `_start` or `_cont` call, with what it stored through `ret`. -/
abbrev NbAnswer := Base.Answer

/-- A `_start`/`_cont` pair. -/
structure NbFn (M R : Type) where
  name : NbCall
  start : M → NbAnswer M R
  cont : UInt32 → M → NbAnswer M R

/-- The native functions, over handles of type `M`. A `MYSQL*` that is returned
is either the handle itself or null, hence `Option Unit`; `my_bool` is a `Bool`. -/
structure Library (M : Type) where
  init : M → Option M
  close : M → M
  realConnect : ConnectArgs → M → Option Unit × M
  realQuery : String → M → Int32 × M
  storeResult : M → Option MysqlRes × M
  nextResult : M → Int32 × M
  options : MysqlOption → M → Int32 × M
  autocommit : Bool → M → Bool × M
  commit : M → Bool × M
  rollback : M → Bool × M
  fieldCount : M → UInt32
  moreResults : M → Bool
  affectedRows : M → UInt64
  errno : M → UInt32
  error : M → String
  /-- The handle once `mysql_fetch_row` on a stored result answered null. -/
  fetchNull : MysqlRes → M → M
  getSocket : M → Int
  getTimeoutValueMs : M → UInt32
  connectStart : ConnectArgs → M → NbAnswer M (Option Unit)
  connectCont : UInt32 → M → NbAnswer M (Option Unit)
  queryStart : String → M → NbAnswer M Int32
  queryCont : UInt32 → M → NbAnswer M Int32
  storeResultStart : M → NbAnswer M (Option MysqlRes)
  storeResultCont : UInt32 → M → NbAnswer M (Option MysqlRes)
  nextResultStart : M → NbAnswer M Int32
  nextResultCont : UInt32 → M → NbAnswer M Int32

namespace Library

variable {M : Type} (L : Library M)

def nbConnect (args : ConnectArgs) : NbFn M (Option Unit) :=
  ⟨.realConnect args, L.connectStart args, L.connectCont⟩

def nbQuery (stmt : String) : NbFn M Int32 :=
  ⟨.realQuery stmt, L.queryStart stmt, L.queryCont⟩

def nbStoreResult : NbFn M (Option MysqlRes) :=
  ⟨.storeResult, L.storeResultStart, L.storeResultCont⟩

def nbNextResult : NbFn M Int32 :=
  ⟨.nextResult, L.nextResultStart, L.nextResultCont⟩

/-- `L` with a state beside each handle that no call looks at. -/
def beside (σ : Type) : Library (M × σ) where
  init m := (L.init m.1).map (·, m.2)
  close m := (L.close m.1, m.2)
  realConnect a m := blocking (L.realConnect a) m
  realQuery s m := blocking (L.realQuery s) m
  storeResult m := blocking L.storeResult m
  nextResult m := blocking L.nextResult m
  options o m := blocking (L.options o) m
  autocommit b m := blocking (L.autocommit b) m
  commit m := blocking L.commit m
  rollback m := blocking L.rollback m
  fieldCount m := L.fieldCount m.1
  moreResults m := L.moreResults m.1
  affectedRows m := L.affectedRows m.1
  errno m := L.errno m.1
  error m := L.error m.1
  fetchNull r m := (L.fetchNull r m.1, m.2)
  getSocket m := L.getSocket m.1
  getTimeoutValueMs m := L.getTimeoutValueMs m.1
  connectStart a m := suspendable (L.connectStart a) m
  connectCont w m := suspendable (L.connectCont w) m
  queryStart s m := suspendable (L.queryStart s) m
  queryCont w m := suspendable (L.queryCont w) m
  storeResultStart m := suspendable L.storeResultStart m
  storeResultCont w m := suspendable (L.storeResultCont w) m
  nextResultStart m := suspendable L.nextResultStart m
  nextResultCont w m := suspendable (L.nextResultCont w) m
where
  blocking {R : Type} (f : M → R × M) (m : M × σ) : R × (M × σ) :=
    let r := f m.1
    (r.1, r.2, m.2)
  suspendable {R : Type} (f : M → NbAnswer M R) (m : M × σ) : NbAnswer (M × σ) R :=
    let a := f m.1
    ⟨a.status, a.ret, (a.st, m.2)⟩

end Library

/-- A `MYSQL` with the native functions called through it, oldest first. -/
structure Mysql (M : Type) where
  st : M
  calls : List Call

namespace Mysql

variable {M : Type}

def call (h : Mysql M) (c : Call) (st : M) : Mysql M := ⟨st, h.calls ++ [c]⟩

/-- The handle after a native call that only reads it. -/
def read (h : Mysql M) (c : Call) : Mysql M := h.call c h.st

@[simp] theorem call_st (h : Mysql M) (c : Call) (st : M) : (h.call c st).st = st := rfl
@[simp] theorem call_calls (h : Mysql M) (c : Call) (st : M) :
    (h.call c st).calls = h.calls ++ [c] := rfl
@[simp] theorem read_st (h : Mysql M) (c : Call) : (h.read c).st = h.st := rfl
@[simp] theorem read_calls (h : Mysql M) (c : Call) : (h.read c).calls = h.calls ++ [c] := rfl

end Mysql

end Amy
