import Amy.ResultSet

/-!
# The connector's state

`Implementation` is the `implementation` struct that `mysql_service` and
`mariadb_service` both declare (MariaDB's adds an event descriptor, see
`Amy.Mariadb.Handler`). `last_result` is the only owner of its native result, so
resetting it is the call of `mysql_free_result`. The cancelation token is a
shared pointer nobody else owns: a weak copy of it has expired exactly when the
token was reset since, so tokens are numbered and a reset takes the next number.
-/

namespace Amy

variable {M : Type}

/-! ## Client flags -/

def clientMultiStatements : UInt64 := 0x10000
def clientMultiResults : UInt64 := 0x20000
def defaultFlags : UInt64 := 0

/-- `flags & (client_multi_results | client_multi_statements)`. -/
def multiResults (flags : UInt64) : Bool :=
  flags &&& (clientMultiResults ||| clientMultiStatements) != 0

/-! ## `implementation` -/

structure Implementation (M : Type) where
  mysql : Mysql M
  flags : UInt64
  initialized : Bool
  firstResultStored : Bool
  lastResult : Option MysqlRes
  cancelationToken : Nat

namespace Implementation

/-- The constructor, over an uninitialised `MYSQL`. -/
def construct (st : M) : Implementation M where
  mysql := ⟨st, []⟩
  flags := defaultFlags
  initialized := false
  firstResultStored := false
  lastResult := none
  cancelationToken := 0

/-- `last_result.reset(p, result_set_deleter())`: the old result, if any, is freed. -/
def resetResult (i : Implementation M) (p : Option MysqlRes) : Implementation M :=
  match i.lastResult with
  | none => { i with lastResult := p }
  | some r => { i with mysql := i.mysql.read (.freeResult r.ptr), lastResult := p }

def freeResult (i : Implementation M) : Implementation M := i.resetResult none

/-- `cancel()`: a new token, every weak pointer to the old one expires. -/
def cancel (i : Implementation M) : Implementation M :=
  { i with cancelationToken := i.cancelationToken + 1 }

def close (L : Library M) (i : Implementation M) : Implementation M :=
  let i := if i.initialized then
    { i with mysql := mysqlClose L i.mysql, initialized := false } else i
  ({ i with firstResultStored := false }).freeResult.cancel

section Fields

variable (i : Implementation M) (p : Option MysqlRes)

@[simp] theorem resetResult_flags : (i.resetResult p).flags = i.flags := by
  unfold resetResult; split <;> rfl
@[simp] theorem resetResult_initialized : (i.resetResult p).initialized = i.initialized := by
  unfold resetResult; split <;> rfl
@[simp] theorem resetResult_first : (i.resetResult p).firstResultStored = i.firstResultStored := by
  unfold resetResult; split <;> rfl
@[simp] theorem resetResult_last : (i.resetResult p).lastResult = p := by
  unfold resetResult; split <;> rfl
@[simp] theorem resetResult_token : (i.resetResult p).cancelationToken = i.cancelationToken := by
  unfold resetResult; split <;> rfl
@[simp] theorem resetResult_st : (i.resetResult p).mysql.st = i.mysql.st := by
  unfold resetResult; split <;> rfl

@[simp] theorem freeResult_flags : i.freeResult.flags = i.flags := resetResult_flags ..
@[simp] theorem freeResult_initialized : i.freeResult.initialized = i.initialized :=
  resetResult_initialized ..
@[simp] theorem freeResult_first : i.freeResult.firstResultStored = i.firstResultStored :=
  resetResult_first ..
@[simp] theorem freeResult_last : i.freeResult.lastResult = none := resetResult_last ..
@[simp] theorem freeResult_token : i.freeResult.cancelationToken = i.cancelationToken :=
  resetResult_token ..
@[simp] theorem freeResult_st : i.freeResult.mysql.st = i.mysql.st := resetResult_st ..

theorem freeResult_of_none {i : Implementation M} (h : i.lastResult = none) :
    i.freeResult = i := by
  obtain ⟨mysql, flags, initialized, first, last, token⟩ := i
  subst h
  rfl

theorem close_initialized (L : Library M) : (i.close L).initialized = false := by
  unfold close
  cases h : i.initialized <;> simp [cancel, h]

theorem close_token (L : Library M) :
    (i.close L).cancelationToken = i.cancelationToken + 1 := by
  unfold close
  cases h : i.initialized <;> simp [cancel]

end Fields

end Implementation

end Amy
