import Amy.Expiry
import Amy.Script
import Amy.Base.Runs

/-!
# The numbers of a result set

`size()` asks the native result, but `field_count()` and `affected_rows()` ask the
connection's handle, which later operations overwrite: `mysql_autocommit`,
`mysql_commit` and `mysql_rollback` execute a statement, and the handle's counts
are that statement's from then on. None of them frees the result, so the set
stays live with numbers that are not its own.
-/

namespace Amy

open Base

variable {M : Type}

/-! ## What is read of the handle -/

namespace ResultSet

/-- `field_count()`; there is none to ask where `mysql_` is null. -/
def fieldCount (x : ResultSet) (L : Library M) (i : Implementation M) : Option UInt32 :=
  if x.mysql then some (L.fieldCount i.mysql.st) else none

def affectedRows (x : ResultSet) (L : Library M) (i : Implementation M) : Option UInt64 :=
  if x.mysql then some (L.affectedRows i.mysql.st) else none

theorem assign_mysql (L : Library M) (x : ResultSet) (h : Mysql M) (rs : Option MysqlRes)
    (ec : ErrorCode) : (assign L x h rs ec).rs.mysql = true := by
  cases rs with
  | none => rfl
  | some r =>
    simp only [assign]
    split_ifs <;> rfl

end ResultSet

/-- What the library's calls make of the counts a handle keeps. -/
structure Library.Counts (L : Library M) : Prop where
  /-- A stored result has the columns the handle tells. -/
  store : ∀ {m r}, (L.storeResult m).1 = some r →
    (L.fieldCount (L.storeResult m).2).toNat = r.numFields ∧ r.numFields ≠ 0
  fetchNull : ∀ r m, L.fieldCount (L.fetchNull r m) = L.fieldCount m ∧
    L.affectedRows (L.fetchNull r m) = L.affectedRows m
  options : ∀ o m, L.fieldCount (L.options o m).2 = L.fieldCount m ∧
    L.affectedRows (L.options o m).2 = L.affectedRows m
  connect_null : ∀ {a m}, (L.realConnect a m).1 = none →
    L.fieldCount (L.realConnect a m).2 = L.fieldCount m ∧
      L.affectedRows (L.realConnect a m).2 = L.affectedRows m
  /-- A statement without columns was executed. -/
  autocommit : ∀ {b m}, (L.autocommit b m).1 = false → L.fieldCount (L.autocommit b m).2 = 0
  commit : ∀ {m}, (L.commit m).1 = false → L.fieldCount (L.commit m).2 = 0
  rollback : ∀ {m}, (L.rollback m).1 = false → L.fieldCount (L.rollback m).2 = 0

/-! ## Later operations -/

section Later

variable (svc : MySQLService) (L : Library M)

def laterStep (i : Implementation M) (a : ErrorCode × Operation) : Option (Implementation M) :=
  some (perform svc L i a.1 a.2).1

/-- The operations that leave the last result where it is; of the connects, those that fail. -/
def Later (i : Implementation M) (a : ErrorCode × Operation) : Prop :=
  match a.2 with
  | .query _ | .storeResult | .queryResult _ => False
  | .connect c => (Connector.connectEc svc L i c a.1).ec.failed = true
  | _ => True

/-- No statement is executed on the connection, and no handle is set up anew. -/
def Quiet (i : Implementation M) : Operation → Prop
  | .autocommit _ => False
  -- these two return before the native call
  | .commit | .rollback => i.initialized = false
  | .open | .connect _ => i.initialized = true
  | _ => True

def Operation.isStatement : Operation → Bool
  | .autocommit _ | .commit | .rollback => true
  | _ => false

/-- A statement is executed on the connection. -/
def Executes (i : Implementation M) (a : ErrorCode × Operation) : Prop :=
  a.2.isStatement = true ∧ (perform svc L i a.1 a.2).2 = .code .clear

end Later

/-- While the set that `s` returned is live, its numbers are those of its native
result `r` and of the moment it was returned. -/
def Numbers (L : Library M) (s : Stored M) (r : MysqlRes) (j : Implementation M) : Prop :=
  s.rs.expired j = false →
    (s.rs.fieldCount L j).map UInt32.toNat = some r.numFields ∧
      s.rs.affectedRows L j = s.rs.affectedRows L s.impl

section Steps

variable {svc : MySQLService} {L : Library M} {i j : Implementation M}

def SameCounts (L : Library M) (i j : Implementation M) : Prop :=
  L.fieldCount j.mysql.st = L.fieldCount i.mysql.st ∧
    L.affectedRows j.mysql.st = L.affectedRows i.mysql.st

theorem SameCounts.of_st (h : j.mysql.st = i.mysql.st) : SameCounts L i j := by
  unfold SameCounts
  rw [h]
  exact ⟨rfl, rfl⟩

theorem connect_counts (hL : L.Counts) (hopen : i.initialized = true) {c : ConnectRequest}
    {ec : ErrorCode} (h : (Service.connect L i c ec).ec.failed = true) :
    SameCounts L i (Service.connect L i c ec).impl := by
  have heq : Service.connect L i c ec = Service.connectOpen L i c ec := by
    simp [Service.connect, hopen]
  rw [heq] at h ⊢
  refine hL.connect_null ?_
  cases hr : (L.realConnect c.args i.mysql.st).1 with
  | none => rfl
  | some u => simp [Service.connectOpen, mysqlRealConnect, wrapped, errorWrapper, hr] at h

theorem later_last {a : ErrorCode × Operation} (h : Later svc L i a) :
    (perform svc L i a.1 a.2).1.lastResult = i.lastResult := by
  obtain ⟨ec, op⟩ := a
  apply perform_kept
  cases op with
  | query s => exact h.elim
  | storeResult => exact h.elim
  | queryResult s => exact h.elim
  | _ => rfl

theorem quiet_counts (hL : L.Counts) {a : ErrorCode × Operation} (h : Later svc L i a)
    (hquiet : Quiet i a.2) : SameCounts L i (perform svc L i a.1 a.2).1 := by
  obtain ⟨ec, op⟩ := a
  cases op with
  | query s => exact h.elim
  | storeResult => exact h.elim
  | queryResult s => exact h.elim
  | «open» =>
    have hopen : i.initialized = true := hquiet
    refine .of_st ?_
    simp [Service.open_initialized hopen]
  | connect c =>
    have hfail : (Service.connect L i c ec).ec.failed = true := by simpa [Later] using h
    simpa using connect_counts hL hquiet hfail
  | setOption o =>
    rcases perform_setOption svc L i ec o with heq | heq
    · exact .of_st (by rw [heq])
    · rw [heq]
      exact hL.options o i.mysql.st
  | autocommit b => exact hquiet.elim
  | commit =>
    have hclosed : i.initialized = false := hquiet
    refine .of_st ?_
    simp [Service.commit, hclosed]
  | rollback =>
    have hclosed : i.initialized = false := hquiet
    refine .of_st ?_
    simp [Service.rollback, hclosed]
  | affectedRows => exact .of_st (by simp [Service.affectedRows, mysqlAffectedRows])
  | hasMoreResults => exact .of_st (by simp [Service.hasMoreResults_impl])
  | errorMessage e =>
    simp only [perform_errorMessage, Service.errorMessage]
    split_ifs <;> exact .of_st rfl

theorem executed_counts (hL : L.Counts) {a : ErrorCode × Operation} (h : Executes svc L i a) :
    L.fieldCount (perform svc L i a.1 a.2).1.mysql.st = 0 := by
  obtain ⟨ec, op⟩ := a
  obtain ⟨hop, hclear⟩ := h
  cases op with
  | autocommit b =>
    cases hf : (L.autocommit b i.mysql.st).1
    · simpa [Service.autocommit, mysqlAutocommit] using hL.autocommit hf
    · simp [Service.autocommit, mysqlAutocommit, hf, ErrorCode.autocommitSettingError,
        ErrorCode.clear] at hclear
  | commit =>
    cases hopen : i.initialized
    · simp [Service.commit, hopen, ErrorCode.notInitialized, ErrorCode.clear] at hclear
    cases hf : (L.commit i.mysql.st).1
    · simpa [Service.commit_open hopen] using hL.commit hf
    · simp [Service.commit_open hopen, hf, ErrorCode.commitError, ErrorCode.clear] at hclear
  | rollback =>
    cases hopen : i.initialized
    · simp [Service.rollback, hopen, ErrorCode.notInitialized, ErrorCode.clear] at hclear
    cases hf : (L.rollback i.mysql.st).1
    · simpa [Service.rollback_open hopen] using hL.rollback hf
    · simp [Service.rollback_open hopen, hf, ErrorCode.rollbackError, ErrorCode.clear] at hclear
  | _ => cases hop

end Steps

/-! ## Runs of later operations -/

section Run

variable {svc : MySQLService} {L : Library M} {i j : Implementation M}
  {as : List (ErrorCode × Operation)}

theorem later_run_last (hrun : Run (laterStep svc L) (Later svc L) i as j) :
    j.lastResult = i.lastResult := by
  refine hrun.invariant (I := fun u => u.lastResult = i.lastResult) rfl ?_
  intro u a v hu hok hstep
  cases hstep
  rw [later_last hok, hu]

theorem quiet_run_counts (hL : L.Counts)
    (hrun : Run (laterStep svc L) (fun u a => Later svc L u a ∧ Quiet u a.2) i as j) :
    SameCounts L i j := by
  refine hrun.invariant (I := fun u => SameCounts L i u) ⟨rfl, rfl⟩ ?_
  intro u a v hu hok hstep
  cases hstep
  have hv := quiet_counts hL hok.1 hok.2
  exact ⟨hv.1.trans hu.1, hv.2.trans hu.2⟩

theorem lock_last {x : ResultSet} {r : MysqlRes} (h : x.lock i = some r) :
    i.lastResult = some r :=
  (Option.filter_eq_some_iff.mp h).1

theorem retrieve_counts (hL : L.Counts) {ec : ErrorCode} {r : MysqlRes}
    (h : (Service.retrieve L i ec).impl.lastResult = some r) :
    (L.fieldCount (Service.retrieve L i ec).impl.mysql.st).toNat = r.numFields ∧
      r.numFields ≠ 0 := by
  have hstored : (L.storeResult i.mysql.st).1 = some r := by
    simpa [Service.retrieve, mysqlStoreResult, wrapped] using h
  -- reading the rows to the null leaves the counts
  have hst : L.fieldCount (Service.retrieve L i ec).impl.mysql.st =
      L.fieldCount (L.storeResult i.mysql.st).2 := by
    simp only [Service.retrieve, mysqlStoreResult, wrapped]
    rcases ResultSet.assign_st L .fresh _ _ _ with heq | ⟨q, -, heq⟩ <;> rw [heq]
    · simp
    · simp [(hL.fetchNull q _).1]
  rw [hst]
  exact hL.store hstored

/-- A set returned with a native result asks the connector's handle, which counts the
columns of that result. -/
theorem stored_counts (hL : L.Counts) {ec : ErrorCode} {r : MysqlRes}
    (h : (Service.storeResult L i ec).rs.lock (Service.storeResult L i ec).impl = some r) :
    (Service.storeResult L i ec).rs.mysql = true ∧
      (L.fieldCount (Service.storeResult L i ec).impl.mysql.st).toNat = r.numFields ∧
      r.numFields ≠ 0 := by
  simp only [Service.storeResult] at h ⊢
  split_ifs at h ⊢
  · simp [ResultSet.lock, ResultSet.emptySet] at h
  · exact ⟨ResultSet.assign_mysql .., retrieve_counts hL (lock_last h)⟩

end Run

/-- **A set's numbers stay its own as long as no statement is executed**: in every run
of later operations that are all quiet they are right in every state reached, and
after a statement was executed in a run they are wrong, though the set is live. -/
theorem numbers_kept (svc : MySQLService) (L : Library M) (hL : L.Counts) (i : Implementation M)
    (ec : ErrorCode) (r : MysqlRes)
    (hset : (Connector.storeResultEc svc L i ec).rs.lock
      (Connector.storeResultEc svc L i ec).impl = some r) :
    (∀ as j, Run (laterStep svc L) (fun u a => Later svc L u a ∧ Quiet u a.2)
        (Connector.storeResultEc svc L i ec).impl as j →
      Numbers L (Connector.storeResultEc svc L i ec) r j) ∧
    (∀ as j a, Run (laterStep svc L) (Later svc L)
        (Connector.storeResultEc svc L i ec).impl as j →
      Later svc L j a → Executes svc L j a →
      ¬ Numbers L (Connector.storeResultEc svc L i ec) r (perform svc L j a.1 a.2).1) := by
  simp only [Connector.storeResultEc_eq] at hset ⊢
  obtain ⟨hmysql, hcols, hne⟩ := stored_counts hL hset
  generalize Service.storeResult L i ec = s at hset hmysql hcols
  refine ⟨fun as j hrun _ => ?_, fun as j a hrun hlater hexec hnum => ?_⟩
  · obtain ⟨hfield, haffected⟩ := quiet_run_counts hL hrun
    simp [ResultSet.fieldCount, ResultSet.affectedRows, hmysql, hfield, haffected, hcols]
  · have hlast : (perform svc L j a.1 a.2).1.lastResult = s.impl.lastResult :=
      (later_last hlater).trans (later_run_last hrun)
    have hlive : s.rs.expired (perform svc L j a.1 a.2).1 = false := by
      unfold ResultSet.lock at hset
      simp [ResultSet.expired, ResultSet.lock, hlast, hset]
    have hfield := (hnum hlive).1
    rw [ResultSet.fieldCount, hmysql, if_pos rfl, executed_counts hL hexec] at hfield
    have hzero : r.numFields = 0 := by simpa using hfield.symm
    exact hne hzero

/-! ## A commit under a result set -/

/-- The scripted library with a count of columns and of rows beside each handle, whose
results are all the row set of one row. -/
def rowCounting : Library (Script × UInt32 × UInt64) :=
  { Script.library.beside (UInt32 × UInt64) with
    fieldCount := fun m => m.2.1
    affectedRows := fun m => m.2.2
    storeResult := fun m => (some Script.oneRow.val, m.1, 1, 1)
    autocommit := fun _ m => let r := Script.outcome m.1; (r.1, r.2, 0, 0)
    commit := fun m => let r := Script.outcome m.1; (r.1, r.2, 0, 0)
    rollback := fun m => let r := Script.outcome m.1; (r.1, r.2, 0, 0) }

theorem rowCounting_counts : rowCounting.Counts where
  store h := by
    cases h
    exact ⟨rfl, by decide⟩
  fetchNull r m := ⟨rfl, rfl⟩
  options o m := ⟨rfl, rfl⟩
  connect_null _ := ⟨rfl, rfl⟩
  autocommit _ := rfl
  commit _ := rfl
  rollback _ := rfl

def answered : Implementation (Script × UInt32 × UInt64) :=
  { Implementation.construct ({}, 1, 1) with initialized := true, flags := defaultFlags }

def oneStored : Stored (Script × UInt32 × UInt64) :=
  Connector.storeResultEc .mysql rowCounting answered .clear

theorem numbers_kept_one :
    (∀ as j, Run (laterStep .mysql rowCounting)
        (fun u a => Later .mysql rowCounting u a ∧ Quiet u a.2) oneStored.impl as j →
      Numbers rowCounting oneStored Script.oneRow.val j) ∧
    (∀ as j a, Run (laterStep .mysql rowCounting) (Later .mysql rowCounting) oneStored.impl as j →
      Later .mysql rowCounting j a → Executes .mysql rowCounting j a →
      ¬ Numbers rowCounting oneStored Script.oneRow.val
        (perform .mysql rowCounting j a.1 a.2).1) :=
  numbers_kept .mysql rowCounting rowCounting_counts answered .clear Script.oneRow.val rfl

def oneCommitted : Implementation (Script × UInt32 × UInt64) :=
  (perform .mysql rowCounting oneStored.impl .clear .commit).1

/-- After `commit()` the live set of one column and one row counts no column and no row. -/
theorem commit_takes_numbers :
    oneStored.rs.lock oneStored.impl = some Script.oneRow.val ∧
      oneStored.rs.affectedRows rowCounting oneStored.impl = some 1 ∧
      Later .mysql rowCounting oneStored.impl (.clear, .commit) ∧
      oneStored.rs.expired oneCommitted = false ∧
      oneStored.rs.fieldCount rowCounting oneCommitted = some 0 ∧
      oneStored.rs.affectedRows rowCounting oneCommitted = some 0 ∧
      ¬ Numbers rowCounting oneStored Script.oneRow.val oneCommitted :=
  ⟨rfl, rfl, trivial, rfl, rfl, rfl, fun h => absurd (h rfl).1 (by decide)⟩

end Amy
