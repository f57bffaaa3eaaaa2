import Amy.Mariadb.Suspended
import Amy.Materialise
import Amy.Mysql.Delivery

/-!
# A reading that fails

When `mysql_fetch_row` ends the rows of a result with an errno, `assign` resets
the set's three pointers. Its callers hand such a set out in place of an empty
one: it has size 0, and `begin`, `end`, `rbegin` and `rend` follow a null
pointer. This is so after any number of rows, for `store_result` and for the
handlers of both services (`failed_fetch_unusable`).
-/

namespace Amy

open Base

variable {M : Type} {L : Library M} {i : Implementation M} {ec : ErrorCode} {r : MysqlRes}

/-- An empty set all of whose accessors are defined. -/
structure ResultSet.UsableEmpty (x : ResultSet) (i : Implementation M) : Prop where
  rows : x.rows = some []
  reversed : x.reversed = some []
  size : x.size i = 0
  empty : x.empty i = true

example (i : Implementation M) : ResultSet.emptySet.UsableEmpty i :=
  ⟨rfl, rfl, by simp [ResultSet.size, ResultSet.lock, ResultSet.emptySet],
    by simp [ResultSet.empty, ResultSet.expired, ResultSet.lock, ResultSet.emptySet]⟩

/-- What a failed reading leaves: the vectors are null. -/
structure ResultSet.Broken (x : ResultSet) (i : Implementation M) : Prop where
  rows : x.rows = none
  reversed : x.reversed = none
  size : x.size i = 0
  empty : x.empty i = true

namespace ResultSet

theorem Broken.not_usable {x : ResultSet} (h : x.Broken i) : ¬ x.UsableEmpty i := by
  intro hu
  have hrows := hu.rows
  rw [h.rows] at hrows
  cases hrows

/-- **A failed reading breaks the set**, whatever it was before and however many rows
were fetched. -/
theorem assign_broken (x : ResultSet) (h : Mysql M) (ec : ErrorCode) (hrows : r.rowCount ≠ 0)
    (hfail : L.errno (L.fetchNull r h.st) ≠ 0) (i : Implementation M) :
    (assign L x h (some r) ec).ec.failed = true ∧ (assign L x h (some r) ec).rs.Broken i := by
  have ha : assign L x h (some r) ec = ⟨⟨true, none, none, none⟩,
      { h with st := L.fetchNull r h.st }, .client (L.errno (L.fetchNull r h.st))⟩ := by
    simp [assign, hrows, fetchRows_eq, hfail]
  rw [ha]
  refine ⟨by simpa using hfail, rfl, rfl, ?_, ?_⟩
  · simp [size, lock]
  · simp [empty, expired, lock]

end ResultSet

/-- An operation's code and set after a reading that failed. -/
def Outcome.Fails (o : Outcome) (i : Implementation M) : Prop :=
  o.code.failed = true ∧ ∃ x, o.rs = some x ∧ x.Broken i

/-- An operation fails, and hands out a set that is not an empty one. -/
def Outcome.Unusable (o : Outcome) (i : Implementation M) : Prop :=
  o.code.failed = true ∧ ∃ x, o.rs = some x ∧ ¬ x.UsableEmpty i

theorem Outcome.Fails.unusable {o : Outcome} (h : o.Fails i) : o.Unusable i := by
  obtain ⟨hec, x, hx, hb⟩ := h
  exact ⟨hec, x, hx, hb.not_usable⟩

theorem Outcome.Reads.fails {o : Outcome} {j : Implementation M} (h : o.Reads L j)
    (hl : j.lastResult = some r) (hrows : r.rowCount ≠ 0) (hfail : L.errno j.mysql.st ≠ 0) :
    o.Fails j := by
  obtain ⟨r', h, ec, hl', hst, rfl⟩ := h
  obtain rfl : r' = r := Option.some_inj.mp (hl'.symm.trans hl)
  have hend : L.errno (L.fetchNull r' h.st) ≠ 0 := by
    have hread : (ResultSet.assign L .fresh h (some r') ec).mysql.st = L.fetchNull r' h.st := by
      simp only [ResultSet.assign, hrows, if_false, ResultSet.fetchRows_eq]
      split <;> rfl
    rwa [hst, hread] at hfail
  obtain ⟨hec, hb⟩ := ResultSet.assign_broken (L := L) .fresh h ec hrows hend j
  exact ⟨hec, _, rfl, hb⟩

/-! ## `store_result` -/

/-- `store_result` on `i` stores `r`, which has rows and cannot be fetched to its end. -/
structure Service.FailsToRead (L : Library M) (i : Implementation M) (ec : ErrorCode)
    (r : MysqlRes) : Prop where
  goes : (Service.nextResult L i ec).ec.failed = false
  stores : (L.storeResult (Service.nextResult L i ec).impl.mysql.st).1 = some r
  rows : r.rowCount ≠ 0
  fails : L.errno (L.fetchNull r
    (L.storeResult (Service.nextResult L i ec).impl.mysql.st).2) ≠ 0

namespace Service

theorem retrieve_fails (hst : (L.storeResult i.mysql.st).1 = some r) (hrows : r.rowCount ≠ 0)
    (hfail : L.errno (L.fetchNull r (L.storeResult i.mysql.st).2) ≠ 0) :
    (retrieve L i ec).outcome.Fails (retrieve L i ec).impl := by
  simp only [retrieve, Stored.outcome, Outcome.Fails, mysqlStoreResult, wrapped, hst,
    Implementation.resetResult_last]
  have hbroken := ResultSet.assign_broken (L := L) (r := r) .fresh
    (({ i with mysql := i.mysql.call .storeResult (L.storeResult i.mysql.st).2 } :
      Implementation M).resetResult (some r)).mysql
    (errorWrapper (some r) (L.errno (L.storeResult i.mysql.st).2) (clearError ec)) hrows
    (by simpa using hfail)
  exact ⟨(hbroken i).1, _, rfl, (hbroken _).2⟩

theorem storeResult_fails (h : FailsToRead L i ec r) :
    (storeResult L i ec).outcome.Fails (storeResult L i ec).impl := by
  have hs : storeResult L i ec = retrieve L (nextResult L i ec).impl (nextResult L i ec).ec := by
    simp [storeResult, h.goes]
  rw [hs]
  exact retrieve_fails h.stores h.rows h.fails

end Service

theorem perform_fails (svc : MySQLService) (h : Service.FailsToRead L i ec r) :
    ∃ e x, (perform svc L i ec .storeResult).2 = .result e x ∧ e.failed = true ∧
      x.Broken (perform svc L i ec .storeResult).1 := by
  obtain ⟨hec, x, hx, hb⟩ := Service.storeResult_fails h
  obtain rfl := Option.some_inj.mp hx
  refine ⟨(Service.storeResult L i ec).ec, (Service.storeResult L i ec).rs, ?_, hec, ?_⟩
  · simp
  · simpa using hb

theorem MysqlService.World.work_fails {w w' : MysqlService.World M} {j : MysqlService.Job}
    {js : List MysqlService.Job} (hstep : w.step L .work = some w') (hw : w.work = j :: js)
    (hj : j.request = .storeResult) (hfresh : j.expired w.impl = false)
    (h : Service.FailsToRead L w.impl .clear r) :
    ∃ o : Outcome, w'.io = w.io ++ [⟨j.id, o⟩] ∧ o.Fails w'.impl := by
  obtain ⟨j', js', hw', rfl⟩ := MysqlService.World.step_work hstep
  obtain ⟨rfl, rfl⟩ := List.cons.inj (hw.symm.trans hw')
  refine ⟨_, rfl, ?_⟩
  have hrun : j.run L w.impl = MysqlService.storeResultHandler L w.impl := by
    simp [MysqlService.Job.run, hfresh, hj]
  simp only [hrun, MysqlService.storeResultHandler_eq]
  exact Service.storeResult_fails h

namespace MariadbService

/-- The turn of `async_store_result` or `async_query_result` in `mariadb_service` in
which the library returns the result. -/
theorem World.Sound.stored_fails {w w' : World M} (hs : w.Sound) {a : Action} {id : Nat}
    (hstep : w.step L a = some w') (hid : w.running a = some id)
    (hstored : ∃ c ∈ w'.impl.mysql.calls.drop w.impl.mysql.calls.length, c.stored = true)
    (hl : w'.impl.lastResult = some r) (hrows : r.rowCount ≠ 0)
    (hfail : L.errno w'.impl.mysql.st ≠ 0) :
    ∃ o : Outcome, w'.invoked = w.invoked ++ [⟨id, o⟩] ∧ o.Fails w'.impl.toImplementation := by
  have hnone : ∀ log, w'.impl.mysql.calls = w.impl.mysql.calls ++ log →
      ¬ ∀ c ∈ log, c.stored = false := by
    intro log hlog hnone
    obtain ⟨c, hc, hcs⟩ := hstored
    rw [hlog, List.drop_left] at hc
    rw [hnone c hc] at hcs
    cases hcs
  rcases hs.tells hstep hid with ⟨w1, t, rfl, hinv, ht⟩ | ⟨⟨log, hlog, -, hun⟩, -⟩
  · cases t with
    | wait j p on =>
      obtain ⟨log, x, hlog, hsus, -⟩ := ht
      exact absurd hsus.unstored (hnone log hlog)
    | dropped j =>
      obtain ⟨log, x, hlog, hsus, -⟩ := ht
      exact absurd hsus.unstored (hnone log hlog)
    | invoke j o =>
      obtain ⟨log, hlog, ⟨x, hsus, -⟩ | ⟨-, hreads⟩⟩ := ht
      · exact absurd hsus.unstored (hnone log hlog)
      · obtain ⟨c, hc, hcs⟩ := hstored
        have hmem : c ∈ log := by
          simp only [World.settle] at hc
          rwa [hlog, List.drop_left] at hc
        exact ⟨o, by simp [World.settle, hinv], (hreads ⟨c, hmem, hcs⟩).fails hl hrows hfail⟩
    | assertion => exact ht.elim
    | spinning => exact ht.elim
  · exact absurd hun (hnone log hlog)

end MariadbService

/-- **A failed fetch yields no usable set**, after any number of rows: from `assign`,
from `store_result` of either service, from the handler object of `mysql_service`,
and in every run of `mariadb_service` from the turn that stores the result. -/
theorem failed_fetch_unusable (L : Library M) (r : MysqlRes) (hrows : r.rowCount ≠ 0) :
    (∀ (x : ResultSet) (h : Mysql M) (ec : ErrorCode) (i : Implementation M),
      L.errno (L.fetchNull r h.st) ≠ 0 →
        (Cursor.assign L x h (some (.start r)) ec).ec.failed = true ∧
          ¬ (Cursor.assign L x h (some (.start r)) ec).rs.UsableEmpty i) ∧
    (∀ (svc : MySQLService) (i : Implementation M) (ec : ErrorCode),
      Service.FailsToRead L i ec r → ∃ e x,
        (perform svc L i ec .storeResult).2 = .result e x ∧ e.failed = true ∧
          ¬ x.UsableEmpty (perform svc L i ec .storeResult).1) ∧
    (∀ (w w' : MysqlService.World M) (j : MysqlService.Job) (js : List MysqlService.Job),
      w.step L .work = some w' → w.work = j :: js → j.request = .storeResult →
        j.expired w.impl = false → Service.FailsToRead L w.impl .clear r →
          ∃ o : Outcome, w'.io = w.io ++ [⟨j.id, o⟩] ∧ o.Unusable w'.impl) ∧
    ∀ (st : M) (as : List MariadbService.Action) (w w' : MariadbService.World M)
        (a : MariadbService.Action) (id : Nat),
      Run (MariadbService.World.step L) anyStep
        (.start (MariadbImplementation.construct st)) as w →
      w.step L a = some w' → w.running a = some id →
        (∃ c ∈ w'.impl.mysql.calls.drop w.impl.mysql.calls.length, c.stored = true) →
          w'.impl.lastResult = some r → L.errno w'.impl.mysql.st ≠ 0 →
            ∃ o : Outcome, w'.invoked = w.invoked ++ [⟨id, o⟩] ∧
              o.Unusable w'.impl.toImplementation := by
  refine ⟨?_, ?_, ?_, ?_⟩
  · intro x h ec i hfail
    have hstart := Cursor.assign_start L x h (some r) ec
    rw [Option.map_some] at hstart
    obtain ⟨hec, hb⟩ := ResultSet.assign_broken (L := L) x h ec hrows hfail i
    rw [hstart]
    exact ⟨hec, hb.not_usable⟩
  · intro svc i ec h
    obtain ⟨e, x, hx, he, hb⟩ := perform_fails svc h
    exact ⟨e, x, hx, he, hb.not_usable⟩
  · intro w w' j js hstep hw hj hfresh h
    obtain ⟨o, ho, hf⟩ := MysqlService.World.work_fails hstep hw hj hfresh h
    exact ⟨o, ho, hf.unusable⟩
  · intro st as w w' a id hrun hstep hid hstored hl hfail
    have hs : w.Sound :=
      hrun.invariant (MariadbService.World.start_sound st) fun _ _ _ h _ hstep => h.step hstep
    obtain ⟨o, ho, hf⟩ := hs.stored_fails hstep hid hstored hl hrows hfail
    exact ⟨o, ho, hf.unusable⟩

def Script.lossy : Library Script :=
  { Script.library with fetchNull := fun _ m => { m with errno := 2013 } }

theorem failed_fetch_mixed :
    MysqlRes.mixed.rowCount ≠ 0 ∧
      (Cursor.assign Script.lossy .fresh ⟨{}, []⟩ (some (.start .mixed)) .clear).ec.failed = true ∧
      ¬ (Cursor.assign Script.lossy .fresh ⟨{}, []⟩ (some (.start .mixed)) .clear).rs.UsableEmpty
        (Implementation.construct ({} : Script)) :=
  ⟨by decide, (failed_fetch_unusable Script.lossy .mixed (by decide)).1 .fresh ⟨{}, []⟩ .clear
    (.construct {}) (by decide)⟩

/-- `store_result` of a result that is lost while it is read: size 0, and null rows. -/
theorem failed_fetch_stored :
    ∃ e x i, perform .mysql Script.lossy (Script.opened
        { held := ⟨some (.rows Script.oneRow), [], some 0⟩, columns := 1 } 0) .clear .storeResult =
        (i, .result e x) ∧
      e = .client 2013 ∧ x.size i = 0 ∧ x.empty i = true ∧ x.rows = none ∧ x.reversed = none := by
  exact ⟨_, _, _, rfl, rfl, rfl, rfl, rfl, rfl⟩

end Amy
