import Amy.Mariadb.Turns
import Amy.Script

/-!
# The non-blocking operations refine the blocking ones

`Ends resume t j o`: a handler whose turn was `t`, resumed without error by
every wait it registers, ends with connector `j` by invoking its handler with
`o`. `NonBlocking` is what the code relies on about the library: a `_start` and
its `_cont`s, suspended as often as they like, settle as the blocking call.

Each handler's turns at a suspended answer end as its turn at the settled one
does (`Single.settles`, `Chain.store_settles`, `Chain.first_settles`), which is
the blocking code.
-/

namespace Amy

open Base

variable {M P R : Type}

/-! ## Suspensions -/

/-- The bits of `MYSQL_WAIT_READ`, `MYSQL_WAIT_WRITE` and `MYSQL_WAIT_TIMEOUT`. -/
def waitBits : UInt32 := WaitType.read ||| WaitType.write ||| WaitType.timeout

/-- The event a suspended call is continued with. -/
def ready (status : UInt32) : UInt32 := ((WaitFor.of status).getD .timeout).status

/-- A suspended answer: it names only these bits, has not written `*ret`, and
leaves errno 0. -/
def Suspends (L : Library M) (a : NbAnswer M R) : Prop :=
  a.status &&& waitBits = a.status ∧ a.ret = none ∧ L.errno a.st = 0

theorem and_or_eq_zero {x y z : UInt32} (hy : x &&& y = 0) (hz : x &&& z = 0) :
    x &&& (y ||| z) = 0 := by
  apply UInt32.toNat_inj.mp
  rw [UInt32.toNat_and, UInt32.toNat_or, Nat.and_or_distrib_left, ← UInt32.toNat_and,
    ← UInt32.toNat_and, hy, hz]
  rfl

theorem WaitFor.of_eq_none {status : UInt32} (h : WaitFor.of status = none) :
    status &&& waitBits = 0 := by
  unfold WaitFor.of at h
  split_ifs at h with h1 h2 h3
  simp only [not_not] at h1 h2 h3
  exact and_or_eq_zero (and_or_eq_zero h1 h2) h3

theorem Suspends.waitFor {L : Library M} {a : NbAnswer M R} (h : Suspends L a)
    (hne : a.status ≠ 0) : ∃ on, WaitFor.of a.status = some on := by
  cases hw : WaitFor.of a.status with
  | some on => exact ⟨on, rfl⟩
  | none => exact absurd (h.1 ▸ WaitFor.of_eq_none hw) hne

/-- **What the code relies on.** Setting `MYSQL_OPT_NONBLOCK` succeeds, and each
non-blocking call suspends with the statuses `susp` lists for it and then
returns what the blocking call returns, leaving the handle as that call does (a
connect, on the handle that has the option set: leaving the same errno). -/
structure NonBlocking (L : Library M) (susp : NbCall → M → List UInt32) : Prop where
  nonblock : ∀ m, (L.options MariadbService.nonblockDefault m).1 = 0
  connect : ∀ a m, ∃ m', Settles L.connectCont (Suspends L) ready
    (L.connectStart a (L.options MariadbService.nonblockDefault m).2) (susp (.realConnect a) m)
    (L.realConnect a m).1 m' ∧ L.errno m' = L.errno (L.realConnect a m).2
  query : ∀ s m, Settles L.queryCont (Suspends L) ready (L.queryStart s m)
    (susp (.realQuery s) m) (L.realQuery s m).1 (L.realQuery s m).2
  storeResult : ∀ m, Settles L.storeResultCont (Suspends L) ready (L.storeResultStart m)
    (susp .storeResult m) (L.storeResult m).1 (L.storeResult m).2
  nextResult : ∀ m, Settles L.nextResultCont (Suspends L) ready (L.nextResultStart m)
    (susp .nextResult m) (L.nextResult m).1 (L.nextResult m).2

/-! ## The library of the scripts -/

theorem WaitMask.status_spec (w : WaitMask) : w.status ≠ 0 ∧ w.status &&& waitBits = w.status := by
  obtain ⟨read, write, timeout⟩ := w
  cases read <;> cases write <;> cases timeout <;> decide

namespace Script

/-- What a call does does not depend on its own suspensions. -/
def Unsuspended (f : Script → R × Script) : Prop :=
  ∀ m ws, f { m with waits := ws :: m.waits.tail, errno := 0 } = f m

theorem suspendable_settles {f : Script → R × Script} (hf : Unsuspended f) (m : Script) :
    Settles (fun _ => suspendable f) (Suspends library) ready (suspendable f m)
      ((m.waits.headD []).map WaitMask.status) (f m).1 (f m).2 := by
  induction hw : m.waits.headD [] generalizing m with
  | nil =>
    have ha : suspendable f m = ⟨0, some (f m).1, (f m).2⟩ := by
      unfold suspendable
      split
      · next w ws rest h => simp [h] at hw
      · rfl
    rw [ha]
    exact .done (a := ⟨0, some (f m).1, (f m).2⟩) rfl rfl
  | cons w ws ih =>
    obtain ⟨rest, hrest⟩ : ∃ rest, m.waits = (w :: ws) :: rest := by
      cases h : m.waits with
      | nil => simp [h] at hw
      | cons x rest => exact ⟨rest, by simpa [h] using hw⟩
    have ha : suspendable f m = ⟨w.status, none, { m with waits := ws :: rest, errno := 0 }⟩ := by
      simp [suspendable, hrest]
    have hm : f { m with waits := ws :: rest, errno := 0 } = f m := by
      simpa [hrest] using hf m ws
    obtain ⟨hne, hbits⟩ := w.status_spec
    rw [ha, List.map_cons, ← hm]
    exact .wait (a := ⟨w.status, none, _⟩) hne ⟨hbits, rfl, rfl⟩ (ih _ rfl)

theorem realConnect_unsuspended : Unsuspended realConnect := fun _ _ => rfl

theorem realQuery_unsuspended : Unsuspended realQuery := fun _ _ => rfl

theorem storeResult_unsuspended : Unsuspended storeResult := fun _ _ => rfl

theorem nextResult_unsuspended : Unsuspended nextResult := fun _ _ => rfl

theorem nonBlocking :
    NonBlocking library fun _ m => (m.waits.headD []).map WaitMask.status where
  nonblock _ := rfl
  connect a m := ⟨_, suspendable_settles realConnect_unsuspended { m with connecting := a.clientFlag }, rfl⟩
  query _ m := suspendable_settles realQuery_unsuspended m
  storeResult m := suspendable_settles storeResult_unsuspended m
  nextResult m := suspendable_settles nextResult_unsuspended m

def openedMariadb (m : Script) (flags : UInt64) : MariadbImplementation Script :=
  { opened m flags with ev := -1 }

end Script

/-! ## Running a handler to its end -/

/-- Every wait completes without error, in a connector nothing else touches. -/
inductive Ends (resume : P → MariadbImplementation M → UInt32 → Turn M P) :
    Turn M P → MariadbImplementation M → Outcome → Prop where
  | invoke (j : MariadbImplementation M) (o : Outcome) : Ends resume (.invoke j o) j o
  | wait {i j : MariadbImplementation M} {p : P} {on : WaitFor} {o : Outcome} :
      Ends resume (resume p i on.status) j o → Ends resume (.wait i p on) j o

theorem Ends.unique {resume : P → MariadbImplementation M → UInt32 → Turn M P} {t : Turn M P}
    {j j' : MariadbImplementation M} {o o' : Outcome} (h : Ends resume t j o)
    (h' : Ends resume t j' o') : j = j' ∧ o = o' := by
  induction h with
  | invoke j o => cases h' with | invoke => exact ⟨rfl, rfl⟩
  | wait _ ih => cases h' with | wait h' => exact ih h'

theorem Ends.map {Q : Type} {resume : P → MariadbImplementation M → UInt32 → Turn M P}
    {resume' : Q → MariadbImplementation M → UInt32 → Turn M Q} {f : P → Q}
    (hf : ∀ p i status, resume' (f p) i status = (resume p i status).map f)
    {t : Turn M P} {j : MariadbImplementation M} {o : Outcome} (h : Ends resume t j o) :
    Ends resume' (t.map f) j o := by
  induction h with
  | invoke j o => exact .invoke j o
  | wait _ ih => exact .wait (by rw [hf]; exact ih)

/-- The handle is now `m`, and nothing else of the connector but its list of
calls and its descriptor has changed. -/
def Settled (i j : MariadbImplementation M) (m : M) : Prop :=
  ∃ calls ev, j = { i with mysql := ⟨m, calls⟩, ev := ev }

namespace Settled

variable {i j k : MariadbImplementation M} {m m' : M}

theorem refl (i : MariadbImplementation M) : Settled i i i.mysql.st := ⟨i.mysql.calls, i.ev, rfl⟩

theorem trans (h1 : Settled i j m) (h2 : Settled j k m') : Settled i k m' := by
  obtain ⟨_, _, rfl⟩ := h1
  obtain ⟨calls, ev, rfl⟩ := h2
  exact ⟨calls, ev, rfl⟩

theorem token (h : Settled i j m) : j.cancelationToken = i.cancelationToken := by
  obtain ⟨_, _, rfl⟩ := h; rfl

theorem st (h : Settled i j m) : j.mysql.st = m := by obtain ⟨_, _, rfl⟩ := h; rfl
theorem flags (h : Settled i j m) : j.flags = i.flags := by obtain ⟨_, _, rfl⟩ := h; rfl
theorem first (h : Settled i j m) : j.firstResultStored = i.firstResultStored := by
  obtain ⟨_, _, rfl⟩ := h; rfl
theorem last (h : Settled i j m) : j.lastResult = i.lastResult := by
  obtain ⟨_, _, rfl⟩ := h; rfl
theorem initialized (h : Settled i j m) : j.initialized = i.initialized := by
  obtain ⟨_, _, rfl⟩ := h; rfl

theorem waiting (L : Library M) (status : UInt32) (i : MariadbImplementation M) :
    Settled i (waitingFor L status i) i.mysql.st := by
  obtain ⟨log, ev, h, -⟩ := waitingFor_eq L status i
  exact ⟨i.mysql.calls ++ log, ev, by rw [h]; rfl⟩

end Settled

/-- What a suspended answer does to the code: nothing. -/
theorem Suspends.clear [ReturnType R] {L : Library M} {a : NbAnswer M R} (h : Suspends L a)
    (hne : a.status ≠ 0) {r : R} (hr : ReturnType.failed r = true) (ec : ErrorCode) :
    a.ret.getD r = r ∧ (statusError a.status r (L.errno a.st) ec).failed = false := by
  refine ⟨by simp [h.2.1], ?_⟩
  rw [failed_statusError_suspended hne, hr, h.2.2]
  rfl

theorem Suspends.asyncWaitMysql {L : Library M} {a : NbAnswer M R} (h : Suspends L a)
    (hne : a.status ≠ 0) (i : MariadbImplementation M) (p : P) :
    ∃ on, Amy.asyncWaitMysql L a.status i p = .wait (waitingFor L a.status i) p on ∧
      on.status = ready a.status := by
  obtain ⟨on, hon⟩ := h.waitFor hne
  refine ⟨on, ?_, by simp [ready, hon]⟩
  rw [asyncWaitMysql_eq, hon]

namespace MariadbService

/-! ## Handlers of one call -/

namespace Single

variable [ReturnType R] {L : Library M} {f : NbFn M R}
  (before after : MariadbImplementation M → MariadbImplementation M)

theorem settles {a : NbAnswer M R} {ws : List UInt32} {r : R} {m : M}
    (hs : Settles f.cont (Suspends L) ready a ws r m) {p : Single R}
    (hr : ReturnType.failed p.result = true) {i : MariadbImplementation M}
    (ht : p.token = i.cancelationToken) (hst : i.mysql.st = a.st) :
    ∃ j, Ends (fun p i status => p.call L f before after i .clear status) (turn L p i a) j
      ⟨errorWrapper r (L.errno m) .clear, none⟩ ∧ Settled i j m := by
  induction hs generalizing p i with
  | @done a r h0 hret =>
    refine ⟨i, ?_, hst ▸ Settled.refl i⟩
    simp only [turn, h0, hret, statusError_finish, Option.getD_some, decide_true, Bool.true_or,
      if_true]
    exact .invoke i _
  | @wait a ws r m hne hsusp _ ih =>
    obtain ⟨hret, hec⟩ := hsusp.clear hne hr .clear
    obtain ⟨on, hw, hon⟩ := hsusp.asyncWaitMysql hne i { p with step := 1 }
    have hturn : turn L p i a = .wait (waitingFor L a.status i) { p with step := 1 } on := by
      rw [← hw]
      simp [turn, hret, hec, hne]
    have hwait := Settled.waiting L a.status i
    have ht' : ({ p with step := 1 } : Single R).token =
        (waitingFor L a.status i).cancelationToken := ht.trans hwait.token.symm
    obtain ⟨j, hj, hset⟩ := ih (p := { p with step := 1 }) hr
      (i := continued L f p.result on.status (waitingFor L a.status i)) ht'
      (by rw [← hon, ← hst, ← hwait.st]; rfl)
    refine ⟨j, ?_, ?_⟩
    · rw [hturn]
      refine .wait ?_
      rw [call_cont rfl (by rw [checkToken_of_eq ht']; rfl)]
      rw [← hon, ← hst, ← hwait.st] at hj
      exact hj
    · exact (hwait.trans ⟨_, _, rfl⟩ : Settled i (continued L f p.result on.status
        (waitingFor L a.status i)) _).trans hset

end Single

/-! ## Handlers of two calls -/

namespace Chain

variable {L : Library M} {k : ChainKind M} {ws : List UInt32} {m : M} {p : Chain}
  {i : MariadbImplementation M}

theorem store_settles {a : NbAnswer M (Option MysqlRes)} {r : Option MysqlRes}
    (hs : Settles L.storeResultCont (Suspends L) ready a ws r m) (hr : p.result = none)
    (ht : p.token = i.cancelationToken) (hst : i.mysql.st = a.st) :
    ∃ i', Settled i i' m ∧ ∀ j o,
      finish L r i' (errorWrapper r (L.errno m) .clear) = .invoke j o →
      Ends (fun p i status => p.call L k i .clear status)
        (storeTurn L { p with result := a.ret.getD p.result } i
          (statusError a.status (a.ret.getD p.result) (L.errno a.st) .clear) a.status) j o := by
  induction hs generalizing p i with
  | @done a r h0 hret =>
    refine ⟨i, hst ▸ Settled.refl i, fun j o hj => ?_⟩
    simp only [storeTurn, h0, hret, statusError_finish, Option.getD_some, decide_true,
      Bool.or_true, if_true, hj]
    exact .invoke j o
  | @wait a ws r m hne hsusp _ ih =>
    obtain ⟨hret, hec⟩ := hsusp.clear hne (r := p.result) (by rw [hr]; rfl) .clear
    obtain ⟨on, hw, hon⟩ := hsusp.asyncWaitMysql hne i { p with step := .contStore }
    have hturn : storeTurn L { p with result := a.ret.getD p.result } i
        (statusError a.status (a.ret.getD p.result) (L.errno a.st) .clear) a.status =
        .wait (waitingFor L a.status i) { p with step := .contStore } on := by
      rw [← hw]
      simp [storeTurn, hret, hec, hne]
    have hwait := Settled.waiting L a.status i
    have ht' : ({ p with step := .contStore } : Chain).token =
        (waitingFor L a.status i).cancelationToken := ht.trans hwait.token.symm
    obtain ⟨i', hset, hend⟩ := ih (p := { p with step := .contStore }) hr
      (i := Single.continued L L.nbStoreResult p.result on.status (waitingFor L a.status i)) ht'
      (by rw [← hon, ← hst, ← hwait.st]; rfl)
    refine ⟨i', (hwait.trans ⟨_, _, rfl⟩ : Settled i (Single.continued L L.nbStoreResult p.result
      on.status (waitingFor L a.status i)) _).trans hset, fun j o hj => ?_⟩
    rw [hturn]
    refine .wait ?_
    rw [call_contStore rfl (by rw [checkToken_of_eq ht']; rfl)]
    have := hend j o hj
    rw [← hon, ← hst, ← hwait.st] at this
    exact this

theorem first_settles {a : NbAnswer M Int32} {r : Int32}
    (hs : Settles k.first.cont (Suspends L) ready a ws r m)
    (hr : ReturnType.failed p.firstResult = true) (ht : p.token = i.cancelationToken)
    (hst : i.mysql.st = a.st) :
    ∃ i' p', Settled i i' m ∧ p'.result = p.result ∧ p'.token = p.token ∧ ∀ j o,
      Ends (fun p i status => p.call L k i .clear status)
        (firstTurn L k p' i' (errorWrapper r (L.errno m) .clear) WaitType.finish) j o →
      Ends (fun p i status => p.call L k i .clear status)
        (firstTurn L k { p with firstResult := a.ret.getD p.firstResult } i
          (statusError a.status (a.ret.getD p.firstResult) (L.errno a.st) .clear) a.status) j o := by
  induction hs generalizing p i with
  | @done a r h0 hret =>
    refine ⟨i, { p with firstResult := r }, hst ▸ Settled.refl i, rfl, rfl, fun j o hj => ?_⟩
    simpa only [h0, hret, statusError_finish, Option.getD_some] using hj
  | @wait a ws r m hne hsusp _ ih =>
    obtain ⟨hret, hec⟩ := hsusp.clear hne hr .clear
    obtain ⟨on, hw, hon⟩ := hsusp.asyncWaitMysql hne i { p with step := .contFirst }
    have hturn : firstTurn L k { p with firstResult := a.ret.getD p.firstResult } i
        (statusError a.status (a.ret.getD p.firstResult) (L.errno a.st) .clear) a.status =
        .wait (waitingFor L a.status i) { p with step := .contFirst } on := by
      rw [← hw]
      simp [firstTurn, hret, hec, hne]
    have hwait := Settled.waiting L a.status i
    have ht' : ({ p with step := .contFirst } : Chain).token =
        (waitingFor L a.status i).cancelationToken := ht.trans hwait.token.symm
    obtain ⟨i', p', hset, hres, htok, hend⟩ := ih (p := { p with step := .contFirst }) hr
      (i := Single.continued L k.first p.firstResult on.status (waitingFor L a.status i)) ht'
      (by rw [← hon, ← hst, ← hwait.st]; rfl)
    refine ⟨i', p', (hwait.trans ⟨_, _, rfl⟩ : Settled i (Single.continued L k.first p.firstResult
      on.status (waitingFor L a.status i)) _).trans hset, hres, htok, fun j o hj => ?_⟩
    rw [hturn]
    refine .wait ?_
    rw [call_contFirst rfl (by rw [checkToken_of_eq ht']; rfl)]
    have := hend j o hj
    rw [← hon, ← hst, ← hwait.st] at this
    exact this

end Chain

/-! ## Copying the result -/

/-- What `assign` copies depends on the handle's state only. -/
theorem assign_congr (L : Library M) (x : ResultSet) (h h' : Mysql M) (hst : h.st = h'.st)
    (rs : Option MysqlRes) (ec : ErrorCode) :
    (ResultSet.assign L x h rs ec).rs = (ResultSet.assign L x h' rs ec).rs ∧
      (ResultSet.assign L x h rs ec).ec = (ResultSet.assign L x h' rs ec).ec ∧
      (ResultSet.assign L x h rs ec).mysql.st = (ResultSet.assign L x h' rs ec).mysql.st := by
  cases rs with
  | none => exact ⟨rfl, rfl, hst⟩
  | some rs =>
    simp only [ResultSet.assign, ResultSet.fetchRows_eq, hst]
    split_ifs
    · exact ⟨rfl, rfl, hst⟩
    · exact ⟨rfl, rfl, rfl⟩
    · exact ⟨rfl, rfl, rfl⟩

/-- The end of a handler copies what the blocking `store_result` copies, from a
connector whose last result was freed. -/
theorem finish_retrieve (L : Library M) (b : Implementation M) (ec : ErrorCode)
    {i : MariadbImplementation M} (hst : i.mysql.st = (L.storeResult b.mysql.st).2)
    (hlast : i.lastResult = none) :
    ∃ j, Chain.finish L (L.storeResult b.mysql.st).1 i
        (errorWrapper (L.storeResult b.mysql.st).1 (L.errno (L.storeResult b.mysql.st).2) .clear) =
        .invoke j (Service.retrieve L b ec).outcome ∧
      j.flags = i.flags ∧ j.firstResultStored = i.firstResultStored ∧
      j.lastResult = (Service.retrieve L b ec).impl.lastResult ∧
      j.mysql.st = (Service.retrieve L b ec).impl.mysql.st ∧ j.initialized = i.initialized := by
  set r := (L.storeResult b.mysql.st).1 with hr
  set e := errorWrapper r (L.errno (L.storeResult b.mysql.st).2) .clear with he
  unfold Chain.finish
  cases hf : e.failed with
  | false =>
    have hcong := assign_congr L .fresh (i.resetResult r).mysql
      (({ b with mysql := b.mysql.call .storeResult (L.storeResult b.mysql.st).2 } :
        Implementation M).resetResult r).mysql (by simp [hst]) r e
    have hret : (Service.retrieve L b ec).outcome =
        ⟨(ResultSet.assign L .fresh (i.resetResult r).mysql r e).ec,
          some (ResultSet.assign L .fresh (i.resetResult r).mysql r e).rs⟩ := by
      rw [hcong.1, hcong.2.1]
      simp [Stored.outcome, Service.retrieve, mysqlStoreResult, wrapped, ← hr, ← he]
    refine ⟨{ i.update (i.resetResult r) with
      mysql := (ResultSet.assign L .fresh (i.resetResult r).mysql r e).mysql },
      ?_, ?_, ?_, ?_, ?_, ?_⟩
    · simp [hret]
    · simp
    · simp
    · simp [Service.retrieve, mysqlStoreResult, wrapped, ← hr]
    · simpa [Service.retrieve, mysqlStoreResult, wrapped, ← hr, ← he] using hcong.2.2
    · simp
  | true =>
    have hnone : r = none := by
      cases hrr : r with
      | none => rfl
      | some x => rw [he, hrr] at hf; simp [errorWrapper] at hf
    refine ⟨i, ?_, rfl, rfl, ?_, ?_, rfl⟩
    · simp only [Bool.not_true, Bool.false_eq_true, if_false, Stored.outcome, Service.retrieve,
        mysqlStoreResult, wrapped, clearError_eq, ← hr, ← he, Implementation.resetResult_last]
      simp [hnone]
    · simp [Service.retrieve, mysqlStoreResult, wrapped, ← hr, hnone, hlast]
    · simp [Service.retrieve, mysqlStoreResult, wrapped, ← hr, hnone, hst]

/-! ## Each operation -/

/-- The blocking call of a request, its code cleared. -/
def blocking (L : Library M) (i : Implementation M) : Request → Implementation M × Outcome
  | .connect c => let o := Connector.connectEc .mariadb L i c .clear; (o.impl, o.outcome)
  | .query stmt => let o := Connector.queryEc .mariadb L i stmt .clear; (o.impl, o.outcome)
  | .storeResult => let o := Connector.storeResultEc .mariadb L i .clear; (o.impl, o.outcome)
  | .queryResult stmt =>
    let o := Connector.queryResultEc .mariadb L i stmt .clear; (o.impl, o.outcome)

/-- The connector's marks are those the blocking call leaves. -/
structure Marked (j : MariadbImplementation M) (b : Implementation M) : Prop where
  flags : j.flags = b.flags
  first : j.firstResultStored = b.firstResultStored
  last : j.lastResult = b.lastResult

/-- And its handle is, and whether it is open. -/
structure Mirrors (j : MariadbImplementation M) (b : Implementation M) : Prop extends Marked j b where
  st : j.mysql.st = b.mysql.st
  initialized : j.initialized = b.initialized

section Operations

variable {L : Library M} {susp : NbCall → M → List UInt32} {i : MariadbImplementation M}

/-- A suspendable run of a handler to its end. -/
abbrev Handler.EndsAt (L : Library M) (t : Turn M Handler) (j : MariadbImplementation M)
    (o : Outcome) : Prop :=
  Ends (fun h i status => h.call L i .clear status) t j o

theorem checkToken_fresh (i : MariadbImplementation M) :
    (checkToken i.cancelationToken i .clear).failed = false := by
  rw [checkToken_of_eq rfl]; rfl

theorem connect_ends (hL : NonBlocking L susp) (hopen : i.initialized = true) (c : ConnectRequest)
    {r : Option Unit} {m' : M} {ws : List UInt32}
    (hsettle : Settles L.connectCont (Suspends L) ready
      (L.connectStart c.args (L.options nonblockDefault i.mysql.st).2) ws r m') :
    ∃ t j, initiate L i (.connect c) = .ran t ∧
      Handler.EndsAt L t j ⟨errorWrapper r (L.errno m') .clear, none⟩ ∧
      Settled { i with flags := c.flags } j m' := by
  -- the handler starts on a handle that has the option set
  have hset : setOption L i.toImplementation nonblockDefault .clear =
      ⟨{ i.toImplementation with
          mysql := i.mysql.call (.options nonblockDefault.option)
            (L.options nonblockDefault i.mysql.st).2 }, .clear⟩ := by
    simp [setOption, hopen, Service.applyOption, mysqlOptions, wrapped, errorWrapper, hL.nonblock]
  set i1 := i.update (setOption L i.toImplementation nonblockDefault .clear).impl with hi1
  have hst1 : i1.mysql.st = (L.options nonblockDefault i.mysql.st).2 := by rw [hi1, hset]; rfl
  have hrun : initiate L i (.connect c) = .ran ((connectHandler L c
      ⟨0, none, i1.cancelationToken⟩ i1 .clear WaitType.finish).map (.connect c)) := by
    have he : (setOption L i.toImplementation nonblockDefault .clear).ec = .clear := by rw [hset]
    simp [initiate, asyncConnect, asyncConnectOpen, hopen, he, ← hi1, launch, Handler.construct,
      Handler.call]
  rw [← hst1] at hsettle
  have hstart : connectHandler L c ⟨0, none, i1.cancelationToken⟩ i1 .clear WaitType.finish = _ :=
    Single.call_start rfl (checkToken_fresh i1) _
  obtain ⟨j, hj, hset'⟩ := Single.settles (f := L.nbConnect c.args)
    id (fun i => { i with flags := c.flags }) hsettle (p := ⟨0, none, i1.cancelationToken⟩) rfl
    (i := { Single.started L (L.nbConnect c.args) none i1 with flags := c.flags }) rfl rfl
  refine ⟨_, j, hrun, Ends.map (fun _ _ _ => rfl) (by rw [hstart]; exact hj), ?_⟩
  have hstarted : Settled { i with flags := c.flags }
      { Single.started L (L.nbConnect c.args) none i1 with flags := c.flags }
      (Single.started L (L.nbConnect c.args) none i1).mysql.st := by
    rw [hi1, hset]
    exact ⟨_, _, rfl⟩
  exact hstarted.trans hset'

theorem connect_refines (hL : NonBlocking L susp) (hopen : i.initialized = true)
    (c : ConnectRequest) :
    ∃ t j, initiate L i (.connect c) = .ran t ∧
      Handler.EndsAt L t j (blocking L i.toImplementation (.connect c)).2 ∧
      Marked j (blocking L i.toImplementation (.connect c)).1 := by
  obtain ⟨m', hsettle, herr⟩ := hL.connect c.args i.mysql.st
  obtain ⟨t, j, ht, hj, hset⟩ := connect_ends hL hopen c hsettle
  refine ⟨t, j, ht, ?_, ?_⟩
  · simpa [blocking, Service.connect, hopen, Service.connectOpen, mysqlRealConnect, wrapped,
      Done.outcome, herr] using hj
  · have hb : (blocking L i.toImplementation (.connect c)).1 =
        { i.toImplementation with
          mysql := i.mysql.call (.realConnect c.args) (L.realConnect c.args i.mysql.st).2
          flags := c.flags } := by
      simp [blocking, Service.connect, hopen, Service.connectOpen, mysqlRealConnect, wrapped]
    rw [hb]
    exact ⟨hset.flags, hset.first, hset.last⟩

theorem query_ends (hL : NonBlocking L susp) (hopen : i.initialized = true) (stmt : String) :
    ∃ t j, initiate L i (.query stmt) = .ran t ∧
      Handler.EndsAt L t j ⟨errorWrapper (L.realQuery stmt i.mysql.st).1
        (L.errno (L.realQuery stmt i.mysql.st).2) .clear, none⟩ ∧
      Settled { i.update i.freeResult with firstResultStored := false } j
        (L.realQuery stmt i.mysql.st).2 := by
  set i1 : MariadbImplementation M := { i.update i.freeResult with firstResultStored := false }
    with hi1
  have hst1 : i1.mysql.st = i.mysql.st := Implementation.freeResult_st _
  have hstart : queryHandler L stmt ⟨0, -1, i.cancelationToken⟩ i .clear WaitType.finish = _ :=
    Single.call_start rfl (checkToken_fresh i) _
  have hsettle := hL.query stmt i.mysql.st
  rw [← hst1] at hsettle
  obtain ⟨j, hj, calls, ev, hset⟩ := Single.settles (f := L.nbQuery stmt)
    (fun i => { i.update i.freeResult with firstResultStored := false }) id hsettle (p := ⟨0, -1, i.cancelationToken⟩) rfl
    (i := Single.started L (L.nbQuery stmt) (-1) i1)
    (by simp [Single.started, hi1]) rfl
  refine ⟨(queryHandler L stmt ⟨0, -1, i.cancelationToken⟩ i .clear WaitType.finish).map
    (.query stmt), j, by simp [initiate, asyncQuery, hopen, launch, Handler.construct,
      Handler.call], ?_, calls, ev, by rw [hset, hst1]; rfl⟩
  have : Handler.EndsAt L ((queryHandler L stmt ⟨0, -1, i.cancelationToken⟩ i .clear
      WaitType.finish).map (.query stmt)) j _ :=
    Ends.map (fun _ _ _ => rfl) (by rw [hstart]; exact hj)
  simpa only [hst1] using this

theorem query_mirrors (hL : NonBlocking L susp) (hopen : i.initialized = true) (stmt : String) :
    ∃ t j, initiate L i (.query stmt) = .ran t ∧
      Handler.EndsAt L t j (blocking L i.toImplementation (.query stmt)).2 ∧
      Mirrors j (blocking L i.toImplementation (.query stmt)).1 := by
  obtain ⟨t, j, ht, hj, hset⟩ := query_ends hL hopen stmt
  refine ⟨t, j, ht, ?_, ?_⟩
  · simpa [blocking, Service.query_open hopen, Done.outcome] using hj
  · simp only [blocking, Connector.queryEc_eq, Service.query_open hopen]
    exact ⟨⟨hset.flags, hset.first, hset.last⟩, hset.st, hset.initialized⟩

theorem query_refines (hL : NonBlocking L susp) (hopen : i.initialized = true) (stmt : String) :
    ∃ t j, initiate L i (.query stmt) = .ran t ∧
      Handler.EndsAt L t j (blocking L i.toImplementation (.query stmt)).2 ∧
      Marked j (blocking L i.toImplementation (.query stmt)).1 := by
  obtain ⟨t, j, ht, hj, hm⟩ := query_mirrors hL hopen stmt
  exact ⟨t, j, ht, hj, hm.toMarked⟩

/-- `S_STORE_START` changes at most `first_result_stored` besides freeing the result. -/
def ChainKind.MarksOnly (k : ChainKind M) : Prop :=
  ∀ x, (k.mark x).mysql = x.mysql ∧ (k.mark x).cancelationToken = x.cancelationToken ∧
    (k.mark x).flags = x.flags ∧ (k.mark x).lastResult = x.lastResult

/-- From `S_STORE_START` on, a handler ends as the blocking code does once it
has moved to the result. -/
theorem storing_refines (hL : NonBlocking L susp) {k : ChainKind M} (hk : k.MarksOnly)
    (hinit : ∀ x, (k.mark x).initialized = x.initialized) {p : Chain} (hp : p.result = none) (ht : p.token = i.cancelationToken) (b : Implementation M)
    (ec : ErrorCode) (hst : i.mysql.st = b.mysql.st) :
    ∃ j, Ends (fun p i status => p.call L k i .clear status) (Chain.storing L k p i) j
        (Service.retrieve L b ec).outcome ∧
      j.flags = i.flags ∧
      j.firstResultStored = (k.mark (i.update i.freeResult)).firstResultStored ∧
      j.lastResult = (Service.retrieve L b ec).impl.lastResult ∧
      j.mysql.st = (Service.retrieve L b ec).impl.mysql.st ∧
      j.initialized = i.initialized := by
  obtain ⟨hmysql, htoken, hflags, hlast⟩ := hk (i.update i.freeResult)
  set i1 := k.mark (i.update i.freeResult) with hi1
  have hst1 : i1.mysql.st = i.mysql.st := by rw [hmysql]; simp
  have hlast1 : i1.lastResult = none := by rw [hlast]; simp
  have hsettle := hL.storeResult b.mysql.st
  rw [← hst, ← hst1] at hsettle
  obtain ⟨i', hset, hend⟩ := Chain.store_settles (k := k) hsettle hp
    (i := Single.started L L.nbStoreResult p.result i1)
    (by simp [Single.started, htoken, ht]) rfl
  have hst' : i'.mysql.st = (L.storeResult b.mysql.st).2 := by
    rw [hset.st, hst1, hst]
  obtain ⟨j, hj, hf, h1, hl, hs, ho⟩ := finish_retrieve L b ec hst' (hset.last.trans hlast1)
  refine ⟨j, hend j _ ?_, hf.trans (hset.flags.trans (hflags.trans (by simp))),
    h1.trans hset.first, hl, hs, ho.trans (hset.initialized.trans ((hinit _).trans (by simp)))⟩
  rw [hst1, hst]
  exact hj

/-- From its first native call on, made on connector `i`, a handler ends as the
blocking code does, which leaves its connector as `b` after that call. -/
theorem first_refines (hL : NonBlocking L susp) {k : ChainKind M} (hk : k.MarksOnly)
    (hinit : ∀ x, (k.mark x).initialized = x.initialized) {p : Chain} (hp : p.result = none) (hr : ReturnType.failed p.firstResult = true)
    (ht : p.token = i.cancelationToken) {ws : List UInt32} {r : Int32} {m : M}
    (hs : Settles k.first.cont (Suspends L) ready (k.first.start i.mysql.st) ws r m)
    {b : Implementation M} (hb : b.mysql.st = m) (ec : ErrorCode)
    (hec : ec = errorWrapper r (L.errno m) .clear) (first : Bool)
    (hmark : ∀ x, x.firstResultStored = i.firstResultStored →
      (k.mark x).firstResultStored = first) :
    let o := mysqlStart L k.first p.firstResult i.mysql .clear
    ∃ j, Ends (fun p i status => p.call L k i .clear status)
        (Chain.firstTurn L k { p with firstResult := o.ret } { i with mysql := o.mysql } o.ec
          o.status) j
        (if ec.failed then ⟨ec, some .emptySet⟩ else (Service.retrieve L b ec).outcome) ∧
      j.flags = i.flags ∧
      j.firstResultStored = (if ec.failed then i.firstResultStored else first) ∧
      j.lastResult = (if ec.failed then i.lastResult
        else (Service.retrieve L b ec).impl.lastResult) ∧
      j.mysql.st = (if ec.failed then m else (Service.retrieve L b ec).impl.mysql.st) ∧
      j.initialized = i.initialized := by
  intro o
  obtain ⟨i', p', hset, hres, htok, hend⟩ := Chain.first_settles (L := L) (k := k) hs hr
    (i := Single.started L k.first p.firstResult i) ht rfl
  rw [← hec] at hend
  cases hf : ec.failed with
  | true =>
    have hturn : Chain.firstTurn L k p' i' ec WaitType.finish =
        .invoke i' ⟨ec, some .emptySet⟩ := by
      simp [Chain.firstTurn, hf, Chain.finish]
    refine ⟨i', hend _ _ ?_, hset.flags, hset.first, hset.last, hset.st, hset.initialized⟩
    rw [hturn]
    exact .invoke i' _
  | false =>
    have hturn : Chain.firstTurn L k p' i' ec WaitType.finish = Chain.storing L k p' i' := by
      simp [Chain.firstTurn, hf]
    obtain ⟨j, hj, hjf, hj1, hjl, hjs, hjo⟩ := storing_refines hL hk hinit (p := p') (i := i')
      (hres.trans hp) (htok.trans (ht.trans hset.token.symm)) b ec (hset.st.trans hb.symm)
    refine ⟨j, hend _ _ ?_, hjf.trans hset.flags, hj1.trans (hmark _ ?_), hjl, hjs,
      hjo.trans hset.initialized⟩
    · rw [hturn]
      exact hj
    · simp [hset.first, Single.started]

theorem storeResult_first_mirrors (hL : NonBlocking L susp) (h1 : i.firstResultStored = false) :
    ∃ j, Ends (fun p i status => storeResultHandler L p i .clear status)
        (storeResultHandler L ⟨.entry, -1, none, i.cancelationToken⟩ i .clear WaitType.finish) j
        (Service.storeResult L i.toImplementation .clear).outcome ∧
      Mirrors j (Service.storeResult L i.toImplementation .clear).impl := by
  set p : Chain := ⟨.entry, -1, none, i.cancelationToken⟩
  -- the first result is stored at once
  have he : (storeResultKind L).entry i = .skip { i with firstResultStored := true } := by
    simp [storeResultKind, h1]
  have hcall : storeResultHandler L p i .clear WaitType.finish = _ :=
    Chain.call_skip rfl (checkToken_fresh i) he _
  unfold Service.storeResult
  rw [hcall, Service.nextResult_first h1]
  simp only [ErrorCode.failed_clear, Bool.false_eq_true, if_false]
  obtain ⟨j, hj, hf, hfirst, hl, hs, ho⟩ := storing_refines hL (k := storeResultKind L) (p := p)
    (fun _ => ⟨rfl, rfl, rfl, rfl⟩) (fun _ => rfl) (i := { i with firstResultStored := true })
    rfl rfl { i.toImplementation with firstResultStored := true } .clear rfl
  exact ⟨j, hj, ⟨hf.trans (by simp), hfirst.trans (by simp [storeResultKind]), hl⟩, hs,
    ho.trans (by simp)⟩

theorem storeResult_next_mirrors (hL : NonBlocking L susp) (h1 : i.firstResultStored = true) :
    ∃ j, Ends (fun p i status => storeResultHandler L p i .clear status)
        (storeResultHandler L ⟨.entry, -1, none, i.cancelationToken⟩ i .clear WaitType.finish) j
        (Service.storeResult L i.toImplementation .clear).outcome ∧
      Mirrors j (Service.storeResult L i.toImplementation .clear).impl := by
  set p : Chain := ⟨.entry, -1, none, i.cancelationToken⟩
  have hck : (checkToken p.token i .clear).failed = false := checkToken_fresh i
  set q := i.update (Service.hasMoreResults L i.freeResult).2 with hq
  have hqs : q.mysql.st = i.mysql.st := by simp [hq, Service.hasMoreResults_impl]
  have hqt : q.cancelationToken = i.cancelationToken := by simp [hq, Service.hasMoreResults_impl]
  have hqf : q.flags = i.flags := by simp [hq, Service.hasMoreResults_impl]
  have hq1 : q.firstResultStored = true := by simp [hq, Service.hasMoreResults_impl, h1]
  unfold Service.storeResult
  cases hm : (Service.hasMoreResults L i.freeResult).1 with
  | false =>
    have he : (storeResultKind L).entry i = .leave q .noMoreResults := by
      simp [storeResultKind, h1, hm, hq]
    have hcall : storeResultHandler L p i .clear WaitType.finish = _ :=
      Chain.call_leave rfl hck he _
    rw [hcall, Service.nextResult_done h1 _ hm]
    simp only [ErrorCode.failed_noMoreResults, if_true, Stored.outcome]
    exact ⟨q, .invoke q _, ⟨rfl, rfl, rfl⟩, rfl, rfl⟩
  | true =>
    have he : (storeResultKind L).entry i = .start q := by simp [storeResultKind, h1, hm, hq]
    have hcall : storeResultHandler L p i .clear WaitType.finish = _ :=
      Chain.call_start rfl hck he hqt _
    rw [hcall, Service.nextResult_next h1 _ hm]
    set ec := errorWrapper (L.nextResult i.mysql.st).1 (L.errno (L.nextResult i.mysql.st).2)
      .clear with hec
    set b : Implementation M := { (Service.hasMoreResults L i.freeResult).2 with
      mysql := (Service.hasMoreResults L i.freeResult).2.mysql.call .nextResult
        (L.nextResult i.mysql.st).2 } with hb
    have hs := hL.nextResult i.mysql.st
    rw [← hqs] at hs
    obtain ⟨j, hj, hjf, hj1, hjl, hjs, hjo⟩ := first_refines hL (k := storeResultKind L) (p := p)
      (fun _ => ⟨rfl, rfl, rfl, rfl⟩) (fun _ => rfl) rfl rfl hqt.symm hs (b := b)
      (by rw [hqs]; rfl) ec (by rw [hqs]) true (fun x hx => hx.trans hq1)
    cases hf : ec.failed with
    | false =>
      simp only [hf, Bool.false_eq_true, if_false] at hj hj1 hjl hjs ⊢
      refine ⟨j, hj, ⟨hjf.trans ?_, hj1.trans ?_, hjl⟩, hjs, hjo.trans ?_⟩
      · simp [hb, hqf, Service.hasMoreResults_impl]
      · simp [hb, Service.hasMoreResults_impl, h1]
      · simp [hb, hq]
    | true =>
      simp only [hf, if_true] at hj hj1 hjl hjs ⊢
      exact ⟨j, hj, ⟨hjf, hj1, hjl⟩, by rw [hjs, hqs]; rfl, hjo⟩

theorem storeResult_mirrors (hL : NonBlocking L susp) (hopen : i.initialized = true) :
    ∃ t j, initiate L i .storeResult = .ran t ∧
      Handler.EndsAt L t j (blocking L i.toImplementation .storeResult).2 ∧
      Mirrors j (blocking L i.toImplementation .storeResult).1 := by
  set p : Chain := ⟨.entry, -1, none, i.cancelationToken⟩ with hp
  obtain ⟨j, hj, hm⟩ : ∃ j, Ends (fun p i status => storeResultHandler L p i .clear status)
      (storeResultHandler L p i .clear WaitType.finish) j
      (Service.storeResult L i.toImplementation .clear).outcome ∧
      Mirrors j (Service.storeResult L i.toImplementation .clear).impl := by
    cases h1 : i.firstResultStored with
    | false => exact storeResult_first_mirrors hL h1
    | true => exact storeResult_next_mirrors hL h1
  refine ⟨(storeResultHandler L p i .clear WaitType.finish).map .storeResult, j,
    by simp [initiate, asyncStoreResult, hopen, launch, Handler.construct, Handler.call, hp],
    ?_, ?_⟩
  · have : Handler.EndsAt L ((storeResultHandler L p i .clear WaitType.finish).map
        .storeResult) j _ := Ends.map (fun _ _ _ => rfl) hj
    simpa [blocking] using this
  · simpa [blocking] using hm

theorem storeResult_refines (hL : NonBlocking L susp) (hopen : i.initialized = true) :
    ∃ t j, initiate L i .storeResult = .ran t ∧
      Handler.EndsAt L t j (blocking L i.toImplementation .storeResult).2 ∧
      Marked j (blocking L i.toImplementation .storeResult).1 := by
  obtain ⟨t, j, ht, hj, hm⟩ := storeResult_mirrors hL hopen
  exact ⟨t, j, ht, hj, hm.toMarked⟩

theorem queryResult_mirrors (hL : NonBlocking L susp) (hopen : i.initialized = true)
    (stmt : String) :
    ∃ t j, initiate L i (.queryResult stmt) = .ran t ∧
      Handler.EndsAt L t j (blocking L i.toImplementation (.queryResult stmt)).2 ∧
      Mirrors j (blocking L i.toImplementation (.queryResult stmt)).1 := by
  set p : Chain := ⟨.entry, -1, none, i.cancelationToken⟩ with hp
  set q : MariadbImplementation M := { i.update i.freeResult with firstResultStored := false }
    with hq
  have hqs : q.mysql.st = i.mysql.st := by simp [hq]
  have hqt : q.cancelationToken = i.cancelationToken := by simp [hq]
  have hcall : queryResultHandler L stmt p i .clear WaitType.finish = _ :=
    Chain.call_start (j := q) rfl (checkToken_fresh i) rfl hqt _
  set ec := errorWrapper (L.realQuery stmt i.mysql.st).1 (L.errno (L.realQuery stmt i.mysql.st).2)
    .clear with hec
  set b : Implementation M := { i.freeResult with
    mysql := i.freeResult.mysql.call (.realQuery stmt) (L.realQuery stmt i.mysql.st).2
    firstResultStored := false } with hbi
  have hquery : Service.query L i.toImplementation stmt .clear = ⟨b, ec⟩ :=
    Service.query_open hopen stmt .clear
  have hblock : Connector.queryResultEc .mariadb L i.toImplementation stmt .clear =
      if ec.failed then ⟨b, ec, .emptySet⟩
      else Service.retrieve L { b with firstResultStored := true } ec := by
    have h1 : b.firstResultStored = false := rfl
    simp only [Connector.queryResultEc, Connector.queryEc_eq, Connector.storeResultEc_eq, hquery]
    cases hf : ec.failed
    · simp [Service.storeResult, Service.nextResult_first h1, hf]
    · simp
  have hs := hL.query stmt i.mysql.st
  rw [← hqs] at hs
  obtain ⟨j, hj, hjf, hj1, hjl, hjs, hjo⟩ := first_refines hL (k := queryResultKind L stmt) (p := p)
    (fun _ => ⟨rfl, rfl, rfl, rfl⟩) (fun _ => rfl) rfl rfl hqt.symm hs
    (b := { b with firstResultStored := true }) (by rw [hbi, hqs]; rfl) ec (by rw [hqs])
    true (fun _ _ => rfl)
  refine ⟨(queryResultHandler L stmt p i .clear WaitType.finish).map (.queryResult stmt), j,
    by simp [initiate, asyncQueryResult, hopen, launch, Handler.construct, Handler.call, hp],
    ?_, ?_⟩
  · have : Handler.EndsAt L ((queryResultHandler L stmt p i .clear WaitType.finish).map
        (.queryResult stmt)) j _ := Ends.map (fun _ _ _ => rfl) (by rw [hcall]; exact hj)
    simp only [blocking, hblock]
    cases hf : ec.failed <;> simpa [hf, Stored.outcome] using this
  · simp only [blocking, hblock]
    cases hf : ec.failed
    · exact ⟨⟨hjf.trans (by simp [hbi, hq]), hj1.trans (by simp [hf]), by simpa [hf] using hjl⟩,
        by simpa [hf] using hjs, hjo.trans (by simp [hbi, hq])⟩
    · exact ⟨⟨hjf.trans (by simp [hbi, hq]), hj1.trans (by simp [hf, hbi, hq]),
        hjl.trans (by simp [hf, hbi, hq])⟩, hjs.trans (by simp [hf, hbi, hqs]),
        hjo.trans (by simp [hbi, hq])⟩

theorem queryResult_refines (hL : NonBlocking L susp) (hopen : i.initialized = true)
    (stmt : String) :
    ∃ t j, initiate L i (.queryResult stmt) = .ran t ∧
      Handler.EndsAt L t j (blocking L i.toImplementation (.queryResult stmt)).2 ∧
      Marked j (blocking L i.toImplementation (.queryResult stmt)).1 := by
  obtain ⟨t, j, ht, hj, hm⟩ := queryResult_mirrors hL hopen stmt
  exact ⟨t, j, ht, hj, hm.toMarked⟩

end Operations

/-- **The non-blocking operations refine the blocking ones.** From every open
connector, an operation initiated and resumed after each of its waits ends,
without an assertion failing on the way, by handing its handler what the
blocking call returns, and leaves the marks that call leaves. -/
theorem async_refines {L : Library M} {susp : NbCall → M → List UInt32} (hL : NonBlocking L susp)
    {i : MariadbImplementation M} (hopen : i.initialized = true) (r : Request) :
    ∃ t j, initiate L i r = .ran t ∧
      Ends (fun h i status => h.call L i .clear status) t j (blocking L i.toImplementation r).2 ∧
      j.flags = (blocking L i.toImplementation r).1.flags ∧
      j.firstResultStored = (blocking L i.toImplementation r).1.firstResultStored ∧
      j.lastResult = (blocking L i.toImplementation r).1.lastResult := by
  have h : ∃ t j, initiate L i r = .ran t ∧
      Handler.EndsAt L t j (blocking L i.toImplementation r).2 ∧
      Marked j (blocking L i.toImplementation r).1 := by
    cases r with
    | connect c => exact connect_refines hL hopen c
    | query stmt => exact query_refines hL hopen stmt
    | storeResult => exact storeResult_refines hL hopen
    | queryResult stmt => exact queryResult_refines hL hopen stmt
  obtain ⟨t, j, ht, hj, hm⟩ := h
  exact ⟨t, j, ht, hj, hm.flags, hm.first, hm.last⟩

theorem async_refines_suspended :
    let i := Script.openedMariadb
      { verdicts := [.batch (some Script.oneRow) [] 0]
        waits := [[⟨true, false, true⟩, ⟨false, true, false⟩], [⟨true, false, false⟩]] }
      defaultFlags
    ∃ t j, initiate Script.library i (.queryResult "select 1") = .ran t ∧
      Ends (fun h i status => h.call Script.library i .clear status) t j
        ⟨.client 0, some (.ofRes Script.oneRow.val)⟩ ∧
      j.firstResultStored = true ∧ j.lastResult = some Script.oneRow.val := by
  intro i
  obtain ⟨t, j, ht, hj, -, hfirst, hlast⟩ :=
    async_refines Script.nonBlocking (i := i) rfl (.queryResult "select 1")
  have hout : (blocking Script.library i.toImplementation (.queryResult "select 1")).2 =
      ⟨.client 0, some (.ofRes Script.oneRow.val)⟩ := by decide
  exact ⟨t, j, ht, hout ▸ hj, hfirst.trans (by decide), hlast.trans (by decide)⟩

end MariadbService

end Amy
