import Amy.Service
import Amy.Stream

/-!
# A library that follows a script

`Script.library` keeps the books of a session as the client library documents
it and takes every outcome that is the server's to decide from its script. It
is the concrete library of the development: it meets `Obliging`, and its
non-blocking calls suspend as scripted and then do what the blocking call does.
-/

namespace Amy

/-- A nonempty set of events a suspended call waits for (`timeout` if none is named). -/
structure WaitMask where
  read : Bool := false
  write : Bool := false
  timeout : Bool := false
  deriving DecidableEq, Repr

def WaitMask.status (w : WaitMask) : UInt32 :=
  match w.read, w.write, w.timeout with
  | false, false, _ => 8
  | true, false, false => 1
  | false, true, false => 2
  | true, true, false => 3
  | true, false, true => 9
  | false, true, true => 10
  | true, true, true => 11

/-- What a query answers: an errno, or its first result (`none` for a status)
and the results after it. -/
inductive Verdict where
  | failed (errno : Errno)
  | batch (first : Option RowSet) (later : List Item) (affected : UInt64)
  deriving DecidableEq

structure Script where
  held : Held := .idle none
  columns : UInt32 := 0
  errno : UInt32 := 0
  affected : UInt64 := 0
  /-- The flags of the connect being made. -/
  connecting : UInt64 := 0
  /-- Whether the coming connect, commit, rollback and autocommit calls fail. -/
  failures : List Bool := []
  /-- What the coming queries answer. -/
  verdicts : List Verdict := []
  /-- How the coming suspendable calls suspend before they finish. -/
  waits : List (List WaitMask) := []
  deriving DecidableEq

namespace Script

/-- The outcome of the next call that may fail. -/
def fails (m : Script) : Bool := m.failures.headD false

def idle (m : Script) (session : Option UInt64) : Script :=
  { m with held := .idle session, columns := 0, errno := 0 }

def finished (m : Script) : Script := { m with waits := m.waits.tail }

def outcome (m : Script) : Bool × Script := (m.fails, { m with failures := m.failures.tail })

def itemColumns : Item → UInt32
  | .rows _ => 1
  | _ => 0

def realConnect (m : Script) : Option Unit × Script :=
  let n := { m.finished with failures := m.failures.tail }
  if m.fails then (none, { n with errno := 2003 }) else (some (), n.idle (some m.connecting))

def realQuery (m : Script) : Int32 × Script :=
  let n := { m.finished.idle m.held.session with verdicts := m.verdicts.tail }
  match m.verdicts.headD (.batch none [] 0) with
  | .failed e => (1, { n with errno := e.val, affected := 0xFFFFFFFFFFFFFFFF })
  | .batch first later affected =>
    let it := (first.map Item.rows).getD .status
    -- only a session that asked for several results is sent several
    (0, { n with
      held := ⟨some it, if m.held.multi then later else [], m.held.session⟩
      columns := itemColumns it
      affected := affected })

def storeResult (m : Script) : Option MysqlRes × Script :=
  let n := { m.finished with held := { m.held with current := none }, errno := 0 }
  match m.held.current with
  | some (.rows r) => (some r.val, n)
  | _ => (none, n)

def nextResult (m : Script) : Int32 × Script :=
  match m.held.later with
  | [] => (-1, { m.finished.idle m.held.session with columns := m.columns })
  | .failure e :: _ => (1, { m.finished.idle m.held.session with errno := e.val })
  | it :: later =>
    (0, { m.finished with
      held := ⟨some it, later, m.held.session⟩, columns := itemColumns it, errno := 0 })

/-- A step of the suspendable form of `f`: the scripted suspensions, then `f`. -/
def suspendable {R : Type} (f : Script → R × Script) (m : Script) : NbAnswer Script R :=
  match m.waits with
  | (w :: ws) :: rest => ⟨w.status, none, { m with waits := ws :: rest, errno := 0 }⟩
  | _ => let r := f m; ⟨0, some r.1, r.2⟩

def library : Library Script where
  init m := some (m.idle none)
  close m := m.idle none
  realConnect a m := realConnect { m with connecting := a.clientFlag }
  realQuery _ := realQuery
  storeResult := storeResult
  nextResult := nextResult
  options _ m := (0, m)
  autocommit _ := outcome
  commit := outcome
  rollback := outcome
  fieldCount := columns
  moreResults m := !m.held.later.isEmpty
  affectedRows := affected
  errno := errno
  error m := if m.errno = 0 then "" else "server error"
  fetchNull _ m := { m with errno := 0 }
  getSocket _ := 7
  getTimeoutValueMs _ := 1000
  connectStart a m := suspendable realConnect { m with connecting := a.clientFlag }
  connectCont _ := suspendable realConnect
  queryStart _ := suspendable realQuery
  queryCont _ := suspendable realQuery
  storeResultStart := suspendable storeResult
  storeResultCont _ := suspendable storeResult
  nextResultStart := suspendable nextResult
  nextResultCont _ := suspendable nextResult

/-! ## The script library keeps the books -/

theorem realConnect_some {m : Script} (h : (realConnect m).1 = some ()) :
    (realConnect m).2 = ({ m.finished with failures := m.failures.tail }).idle (some m.connecting) := by
  unfold realConnect at h ⊢
  cases hf : m.fails <;> simp_all

theorem realConnect_none {m : Script} (h : (realConnect m).1 = none) :
    (realConnect m).2 = { m.finished with failures := m.failures.tail, errno := 2003 } := by
  unfold realConnect at h ⊢
  cases hf : m.fails <;> simp_all

theorem itemColumns_ne_zero (it : Item) : itemColumns it ≠ 0 ↔ it.hasColumns = true := by
  cases it <;> simp [itemColumns, Item.hasColumns]

theorem obliging : Obliging library Script.held where
  init h := by cases h; exact ⟨rfl, rfl⟩
  close _ := rfl
  connect_ok h := by
    simp only [library] at h ⊢
    rw [realConnect_some h]
    exact ⟨rfl, rfl⟩
  connect_null h := by
    simp only [library] at h ⊢
    rw [realConnect_none h]
    exact ⟨(by decide : (2003 : UInt32) ≠ 0), rfl, rfl⟩
  query_ok {_ m} h := by
    simp only [library, realQuery] at h ⊢
    split at h
    · cases h
    · rename_i first later affected hv
      refine ⟨_, _, rfl, ?_, ?_, ?_⟩
      · cases first <;> rfl
      · intro hne
        by_contra hm
        exact hne (by simp [hm])
      · exact itemColumns_ne_zero _
  query_failed {_ m} h := by
    simp only [library, realQuery] at h ⊢
    split at h
    · rename_i e hv
      exact ⟨e.2, rfl, rfl⟩
    · exact absurd rfl h
  store m := by
    simp only [library, storeResult]
    split <;> rfl
  fetchNull _ _ := rfl
  more _ := rfl
  next {m it later} h := by
    simp only [library, nextResult, h]
    cases it with
    | rows r => exact .inl ⟨rfl, rfl, rfl⟩
    | status => exact .inl ⟨rfl, rfl, rfl⟩
    | failure e => exact .inr ⟨(by decide : (1 : Int32) ≠ 0), e.2, rfl⟩
  store_rows h := by
    simp only [library, storeResult, h, and_self]
  store_status h := by
    simp only [library, storeResult, h, and_self]
  next_ok {m it later} h hit := by
    simp only [library, nextResult, h]
    cases it <;> simp_all [Item.isFailure]
  next_failure h := by
    simp only [library, nextResult, h]
    exact ⟨(by decide : (1 : Int32) ≠ 0), trivial⟩

/-! ## Connectors on a script -/

def opened (m : Script) (flags : UInt64) : Implementation Script :=
  { Implementation.construct m with initialized := true, flags := flags }

def login (flags : UInt64) : ConnectRequest :=
  ⟨.tcp "127.0.0.1" 3306, ⟨"amy", none⟩, "test", flags⟩

/-- A row set of one column with one row, the text `1`. -/
def oneRow : RowSet :=
  ⟨⟨1, 1, [⟨"n", 1, 1, 0⟩], [[⟨some [49], 1⟩]]⟩, by decide⟩

end Script

end Amy
