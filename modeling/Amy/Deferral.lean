import Amy.Cancel

/-!
# Handlers invoked inside the initiating call

`mysql_service` posts every handler it completes. `mariadb_service` posts only
the handlers of operations it refuses; the others it runs at once, and the
user's handler is invoked from there unless the library suspends the first call
that matters. `Defers` says it of the library's answers.
-/

namespace Amy

open Base

variable {M P R : Type}

/-! ## `mysql_service` -/

namespace MysqlService

/-- Actions of the io_service the handlers are posted to. -/
def Action.fromIo : Action → Bool
  | .deliver => true
  | _ => false

theorem World.step_invoked {L : Library M} {w w' : World M} {a : Action}
    (hstep : w.step L a = some w') (ha : a.fromIo = false) : w'.invoked = w.invoked := by
  cases a with
  | initiate r =>
    cases hstep
    obtain ⟨j, -, -, ⟨o, -, heq⟩ | ⟨-, heq⟩⟩ := initiate_cases L w r
    · rw [heq]
      rfl
    · rw [heq]
      rfl
  | work =>
    obtain ⟨j, js, hw, rfl⟩ := World.step_work hstep
    rfl
  | deliver => cases ha
  | cancel => cases hstep; rfl
  | close => cases hstep; rfl
  | call ec op => cases hstep; rfl

end MysqlService

/-! ## `mariadb_service` -/

def Turn.invokes : Turn M P → Bool
  | .invoke _ _ => true
  | _ => false

@[simp] theorem Turn.invokes_map {Q : Type} (f : P → Q) (t : Turn M P) :
    (t.map f).invokes = t.invokes := by cases t <;> rfl

@[simp] theorem asyncWaitMysql_invokes (L : Library M) (status : UInt32)
    (i : MariadbImplementation M) (p : P) : (asyncWaitMysql L status i p).invokes = false := by
  rw [asyncWaitMysql_eq]
  cases WaitFor.of status <;> rfl

/-- The call suspends and leaves no error. -/
def lingers [ReturnType R] (L : Library M) (r : R) (a : NbAnswer M R) : Bool :=
  a.status != 0 && (heard L r a).calm

namespace MariadbService

/-- The first of two calls suspends, or finishes without an error and
`mysql_store_result` suspends. -/
def chainLingers (L : Library M) (a : NbAnswer M Int32) : Bool :=
  if a.status = 0 then
    !(errorWrapper (a.ret.getD (-1)) (L.errno a.st) .clear).failed &&
      lingers L none (L.storeResultStart a.st)
  else (heard L (-1) a).calm

/-- A connect on the open handle `m`: the option cannot be set, or the connect suspends. -/
def connectDefers (L : Library M) (c : ConnectRequest) (m : M) : Bool :=
  let s := L.options nonblockDefault m
  (errorWrapper s.1 (L.errno s.2) .clear).failed || lingers L none (L.connectStart c.args s.2)

/-- **When the initiating call leaves the handler to the io_service.** -/
def Defers (L : Library M) (i : MariadbImplementation M) : Request → Bool
  | .connect c => match if i.initialized then some i.mysql.st else L.init i.mysql.st with
    | none => true
    | some m => connectDefers L c m
  | .query stmt => !i.initialized || lingers L (-1) (L.queryStart stmt i.mysql.st)
  | .storeResult => !i.initialized ||
      if i.firstResultStored then
        (Service.hasMoreResults L i.toImplementation).1 &&
          chainLingers L (L.nextResultStart i.mysql.st)
      else lingers L none (L.storeResultStart i.mysql.st)
  | .queryResult stmt => !i.initialized || chainLingers L (L.queryStart stmt i.mysql.st)

variable {L : Library M} {i : MariadbImplementation M}

/-! ### Turns that invoke -/

/-- A suspended answer's code fails when it is not calm; a finished call's turn invokes. -/
theorem invokes_iff_lingers [ReturnType R] (r : R) (a : NbAnswer M R) :
    (decide (a.status = WaitType.finish) ||
      (statusError a.status (a.ret.getD r) (L.errno a.st) .clear).failed) = !lingers L r a := by
  by_cases h0 : a.status = 0
  · simp [h0, lingers]
  · rw [statusError_heard L r a h0 .clear, decide_eq_false h0, lingers, bne_iff_ne.mpr h0]
    rfl

theorem Single.turn_invokes [ReturnType R] (p : Single R) (i : MariadbImplementation M)
    (a : NbAnswer M R) : (Single.turn L p i a).invokes = !lingers L p.result a := by
  have h := invokes_iff_lingers (L := L) p.result a
  simp only [Single.turn, ← h]
  split_ifs with hc
  · exact hc.symm
  · rw [asyncWaitMysql_invokes]
    exact (Bool.not_eq_true _ ▸ hc).symm

namespace Chain

variable {k : ChainKind M} {p : Chain}

@[simp] theorem finish_invokes (r : Option MysqlRes) (ec : ErrorCode) :
    (finish L r i ec).invokes = true := by
  unfold finish
  split_ifs <;> rfl

theorem storing_invokes (hmark : ∀ j, (k.mark j).mysql.st = j.mysql.st) :
    (storing L k p i).invokes = !lingers L p.result (L.storeResultStart i.mysql.st) := by
  have h := invokes_iff_lingers (L := L) p.result (L.storeResultStart i.mysql.st)
  have hst : (k.mark (i.update i.freeResult)).mysql.st = i.mysql.st := by simp [hmark]
  simp only [storing, storeTurn, mysqlStart, hst, Library.nbStoreResult, clearError_eq]
  split_ifs with hc
  · rw [← h, finish_invokes]
    simpa [or_comm] using hc
  · rw [← h, asyncWaitMysql_invokes]
    simpa [or_comm] using hc

theorem firstTurn_invokes (hmark : ∀ j, (k.mark j).mysql.st = j.mysql.st) (hr : p.result = none)
    (a : NbAnswer M Int32) (hst : i.mysql.st = a.st) :
    (firstTurn L k p i (statusError a.status (a.ret.getD (-1)) (L.errno a.st) .clear)
      a.status).invokes = !chainLingers L a := by
  unfold firstTurn chainLingers
  by_cases h0 : a.status = 0
  · simp only [h0, statusError_finish, if_true]
    split_ifs with hc
    · simp [hc]
    · simp [hc, storing_invokes hmark, hr, hst]
  · have hec := statusError_heard L (-1) a h0 .clear
    rw [if_neg h0]
    split_ifs with hc
    · rw [finish_invokes, ← hec, hc]
    · rw [asyncWaitMysql_invokes, ← hec]
      simpa using hc

end Chain

/-! ### Initiating calls -/

def Started.invokes : Started M → Bool
  | .posted _ _ => false
  | .ran t => t.invokes

theorem launch_connect (c : ConnectRequest) {ec : ErrorCode} (hec : ec.failed = false) :
    (launch L i (.connect c) ec).invokes = !lingers L none (L.connectStart c.args i.mysql.st) := by
  have hc : (checkToken i.cancelationToken i ec).failed = false := by rwa [checkToken_of_eq rfl]
  simp only [launch, Started.invokes, Handler.construct, Handler.call, Turn.invokes_map,
    connectHandler]
  rw [Single.call_start rfl hc, Single.turn_invokes]
  rfl

theorem launch_query (stmt : String) :
    (launch L i (.query stmt) .clear).invokes = !lingers L (-1) (L.queryStart stmt i.mysql.st) := by
  have hc : (checkToken i.cancelationToken i .clear).failed = false := by rw [checkToken_of_eq rfl]; rfl
  simp only [launch, Started.invokes, Handler.construct, Handler.call, Turn.invokes_map,
    queryHandler]
  rw [Single.call_start rfl hc, Single.turn_invokes]
  simp [Library.nbQuery]

theorem launch_queryResult (stmt : String) :
    (launch L i (.queryResult stmt) .clear).invokes =
      !chainLingers L (L.queryStart stmt i.mysql.st) := by
  have hc : (checkToken i.cancelationToken i .clear).failed = false := by rw [checkToken_of_eq rfl]; rfl
  simp only [launch, Started.invokes, Handler.construct, Handler.call, Turn.invokes_map,
    queryResultHandler]
  rw [Chain.call_start rfl hc (j := { i.update i.freeResult with firstResultStored := false }) rfl
    (by simp)]
  simp only [mysqlStart, queryResultKind, Library.nbQuery, clearError_eq,
    MariadbImplementation.update_toImplementation, Implementation.freeResult_st]
  exact Chain.firstTurn_invokes (fun _ => rfl) rfl _ rfl

theorem launch_storeResult :
    (launch L i .storeResult .clear).invokes =
      !(if i.firstResultStored then
          (Service.hasMoreResults L i.toImplementation).1 &&
            chainLingers L (L.nextResultStart i.mysql.st)
        else lingers L none (L.storeResultStart i.mysql.st)) := by
  have hc : (checkToken i.cancelationToken i .clear).failed = false := by rw [checkToken_of_eq rfl]; rfl
  have hmore : (Service.hasMoreResults L i.freeResult).1 =
      (Service.hasMoreResults L i.toImplementation).1 :=
    Service.hasMoreResults_freeResult L i.toImplementation
  simp only [launch, Started.invokes, Handler.construct, Handler.call, Turn.invokes_map,
    storeResultHandler, ← hmore]
  cases h1 : i.firstResultStored with
  | false =>
    rw [Chain.call_skip rfl hc (j := { i with firstResultStored := true })
      (by simp [storeResultKind, h1])]
    simp [Chain.storing_invokes (k := storeResultKind L) fun _ => rfl]
  | true =>
    cases hm : (Service.hasMoreResults L i.freeResult).1 with
    | false =>
      rw [Chain.call_leave rfl hc (j := i.update (Service.hasMoreResults L i.freeResult).2)
        (e := .noMoreResults) (by simp [storeResultKind, h1, hm])]
      simp
    | true =>
      have hst : (i.update (Service.hasMoreResults L i.freeResult).2).mysql.st = i.mysql.st := by
        simp [Service.hasMoreResults_impl]
      rw [Chain.call_start rfl hc (j := i.update (Service.hasMoreResults L i.freeResult).2)
        (by simp [storeResultKind, h1, hm]) (by simp [Service.hasMoreResults_impl])]
      simp only [mysqlStart, hst, storeResultKind, Library.nbNextResult, clearError_eq, if_true,
        Bool.true_and]
      exact Chain.firstTurn_invokes (fun _ => rfl) rfl _ rfl

theorem asyncConnectOpen_invokes (hopen : i.initialized = true) (c : ConnectRequest) :
    (asyncConnectOpen L i c).invokes = !connectDefers L c i.mysql.st := by
  simp only [asyncConnectOpen, connectDefers, setOption, hopen, Service.applyOption, mysqlOptions,
    wrapped, clearError_eq, Bool.not_true, Bool.false_eq_true, if_false]
  split_ifs with hec
  · simp [Started.invokes, hec]
  · rw [launch_connect c (Bool.eq_false_iff.mpr hec), Bool.eq_false_iff.mpr hec]
    rfl

/-- **What the initiating call invokes**, told by what the library answers in it. -/
theorem initiate_invokes (L : Library M) (i : MariadbImplementation M) (r : Request) :
    (initiate L i r).invokes = !Defers L i r := by
  cases r with
  | connect c =>
    simp only [initiate, asyncConnect, Defers]
    cases hi : i.initialized with
    | true => simp [asyncConnectOpen_invokes hi]
    | false =>
      simp only [Service.open, hi, mysqlInit]
      cases L.init i.mysql.st with
      | none => simp [Started.invokes]
      | some m =>
        simp only [Bool.not_false, if_true, clearError_eq, Option.isSome_some,
          ErrorCode.failed_clear, Bool.false_eq_true, if_false]
        rw [asyncConnectOpen_invokes (by rfl)]
        rfl
  | query stmt =>
    cases hi : i.initialized with
    | true => simp [initiate, asyncQuery, Defers, hi, launch_query]
    | false => simp [initiate, asyncQuery, Defers, hi, Started.invokes]
  | storeResult =>
    cases hi : i.initialized with
    | true => simp [initiate, asyncStoreResult, Defers, hi, launch_storeResult]
    | false => simp [initiate, asyncStoreResult, Defers, hi, Started.invokes]
  | queryResult stmt =>
    cases hi : i.initialized with
    | true => simp [initiate, asyncQueryResult, Defers, hi, launch_queryResult]
    | false => simp [initiate, asyncQueryResult, Defers, hi, Started.invokes]

def Action.fromIo : Action → Bool
  | .fire _ _ | .deliver => true
  | _ => false

namespace World

variable {w w' : World M} {a : Action}

theorem settle_invoked (w : World M) (id : Nat) (t : Turn M Handler) :
    (w.settle id t).invoked = w.invoked ↔ t.invokes = false := by
  cases t <;> simp [settle, Turn.invokes]

theorem initiate_invoked (L : Library M) (w : World M) (r : Request) :
    (w.initiate L r).invoked = w.invoked ↔ Defers L w.impl r = true := by
  have h := initiate_invokes L w.impl r
  unfold World.initiate
  cases hs : MariadbService.initiate L w.impl r with
  | posted j o =>
    rw [hs] at h
    simpa [Started.invokes] using h
  | ran t =>
    rw [hs] at h
    simp only [Started.invokes] at h
    rw [settle_invoked (w := { w with next := w.next + 1 }), h]
    simp

theorem step_invoked (hstep : w.step L a = some w') (ha : a.fromIo = false) :
    w'.invoked = w.invoked ↔ ∀ r, a = .initiate r → Defers L w.impl r = true := by
  cases a with
  | initiate r =>
    cases hstep
    rw [initiate_invoked]
    exact ⟨fun h r' hr => by cases hr; exact h, fun h => h r rfl⟩
  | fire k ec => cases ha
  | deliver => cases ha
  | cancel =>
    cases hstep
    exact iff_of_true rfl fun r hr => by cases hr
  | close =>
    cases hstep
    exact iff_of_true rfl fun r hr => by cases hr
  | call ec op =>
    cases hstep
    exact iff_of_true rfl fun r hr => by cases hr

theorem step_invoked_le (hstep : w.step L a = some w') (ha : a.fromIo = true) :
    w'.invoked.length ≤ w.invoked.length + 1 := by
  cases a with
  | fire k ec =>
    obtain ⟨x, hx, rfl⟩ := World.step_fire hstep
    cases x.handler.call L w.impl ec x.on.status <;> simp [settle]
  | deliver =>
    obtain ⟨c, cs, hp, rfl⟩ := World.step_deliver hstep
    simp
  | _ => cases ha

/-- The caller initiates only what defers its handler. -/
def Deferring (L : Library M) (w : World M) (a : Action) : Prop :=
  ∀ r, a = .initiate r → Defers L w.impl r = true

/-- In a run of deferring operations every invocation is a step of the io_service. -/
theorem invoked_le_fromIo {i : MariadbImplementation M} {as : List Action}
    (hrun : Run (World.step L) (Deferring L) (.start i) as w) :
    w.invoked.length ≤ as.countP Action.fromIo := by
  refine hrun.invariantAlong (I := fun as w => w.invoked.length ≤ as.countP Action.fromIo)
    (Nat.le_refl 0) fun bs u a v h hok hstep => ?_
  rw [List.countP_append, List.countP_singleton]
  cases ha : a.fromIo with
  | true =>
    have := step_invoked_le hstep ha
    simp only [if_true]
    omega
  | false =>
    rw [(step_invoked hstep ha).mpr hok]
    simpa using h

end World

end MariadbService

/-! ## Both services -/

/-- **A handler is invoked from the io_service only**, in `mysql_service` always;
in `mariadb_service` an initiating call invokes none exactly when it defers,
and nothing else but the io_service does, so a run of such calls has no more
invocations than steps of the io_service. -/
theorem invoked_from_io_iff {M : Type} (L : Library M) :
    (∀ (w w' : MysqlService.World M) (a : MysqlService.Action), w.step L a = some w' →
      a.fromIo = false → w'.invoked = w.invoked) ∧
    (∀ (w w' : MariadbService.World M) (a : MariadbService.Action), w.step L a = some w' →
      a.fromIo = false →
      (w'.invoked = w.invoked ↔
        ∀ r, a = .initiate r → MariadbService.Defers L w.impl r = true)) ∧
    (∀ (i : MariadbImplementation M) (as : List MariadbService.Action) (w : MariadbService.World M),
      Run (MariadbService.World.step L) (MariadbService.World.Deferring L) (.start i) as w →
      w.invoked.length ≤ as.countP MariadbService.Action.fromIo) :=
  ⟨fun _ _ _ hstep ha => MysqlService.World.step_invoked hstep ha,
    fun _ _ _ hstep ha => MariadbService.World.step_invoked hstep ha,
    fun _ _ _ hrun => MariadbService.World.invoked_le_fromIo hrun⟩

theorem invoked_from_io_suspended :
    ∃ w : MariadbService.World Script,
      exec (MariadbService.World.step Script.library)
        (.start (MariadbImplementation.construct { waits := [[], [⟨true, false, false⟩]] }))
        [.call .clear (.connect (Script.login defaultFlags))] = some w ∧
      (w.initiate Script.library (.query "do 1")).invoked = w.invoked := by
  obtain ⟨w, hw, hdefers⟩ : ∃ w : MariadbService.World Script,
      exec (MariadbService.World.step Script.library)
        (.start (MariadbImplementation.construct { waits := [[], [⟨true, false, false⟩]] }))
        [.call .clear (.connect (Script.login defaultFlags))] = some w ∧
      MariadbService.Defers Script.library w.impl (.query "do 1") = true := ⟨_, rfl, by decide⟩
  refine ⟨w, hw, ((invoked_from_io_iff Script.library).2.1 w _ (.initiate (.query "do 1")) rfl
    rfl).mpr fun r hr => ?_⟩
  cases hr
  exact hdefers

/-- A query the library finishes at once has its handler invoked before
`async_query` returns, on a connector that was just connected. -/
theorem query_invoked_inside :
    ∃ w : MariadbService.World Script,
      Run (MariadbService.World.step Script.library) anyStep
        (.start (MariadbImplementation.construct {}))
        [.call .clear (.connect (Script.login defaultFlags))] w ∧
      w.invoked = [] ∧
      (w.initiate Script.library (.query "do 1")).invoked = [⟨0, .clear, none⟩] := by
  obtain ⟨w, hw, h⟩ : ∃ w : MariadbService.World Script,
      exec (MariadbService.World.step Script.library) (.start (MariadbImplementation.construct {}))
        [.call .clear (.connect (Script.login defaultFlags))] = some w ∧
      w.invoked = [] ∧
      (w.initiate Script.library (.query "do 1")).invoked = [⟨0, .clear, none⟩] :=
    ⟨_, rfl, rfl, by decide⟩
  exact ⟨w, run_of_exec (fun _ _ _ => trivial) hw, h⟩

end Amy
