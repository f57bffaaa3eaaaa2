import Amy.Mysql.Queue
import Amy.Mariadb.Completion

/-!
# Operations on a connector that is not open

Most operations begin with a test of `is_open` that is repeated in each of
them. Where it stands, the operation leaves the connector, native calls
included, as it is and reports `not_initialized`; the operations without it do
neither (`refuses_iff`).
-/

namespace Amy

open Base

variable {M : Type} {L : Library M} {i : Implementation M}

/-! ## Blocking operations -/

/-- Every operation but those that open the connector. -/
def Operation.needsOpen : Operation → Bool
  | .open | .connect _ => false
  | _ => true

/-- The operations that test `is_open` before anything else and return. -/
def Operation.guarded (svc : MySQLService) : Operation → Bool
  | .query _ | .queryResult _ | .commit | .rollback | .hasMoreResults => true
  | .setOption _ => svc == .mariadb
  | _ => false

/-- The connector is left as it is, and a code that is reported is `not_initialized`. -/
def Refuses (svc : MySQLService) (L : Library M) (i : Implementation M) (ec : ErrorCode)
    (op : Operation) : Prop :=
  (perform svc L i ec op).1 = i ∧
    ∀ c, (perform svc L i ec op).2.code? = some c → c = .notInitialized

theorem guarded_refuses {svc : MySQLService} (hclosed : i.initialized = false) (ec : ErrorCode)
    {op : Operation} (h : op.guarded svc = true) : Refuses svc L i ec op := by
  cases op with
  | query stmt => simp [Refuses, Service.query, hclosed, Reply.code?]
  | queryResult stmt =>
    simp [Refuses, Service.query, hclosed, Reply.code?]
  | commit => simp [Refuses, Service.commit, hclosed, Reply.code?]
  | rollback => simp [Refuses, Service.rollback, hclosed, Reply.code?]
  | hasMoreResults =>
    simp [Refuses, Service.hasMoreResults_closed hclosed, Reply.code?]
  | setOption o =>
    obtain rfl : svc = .mariadb := by simpa [Operation.guarded] using h
    simp [Refuses, perform, Connector.setOptionEc, MariadbService.setOption, hclosed, Done.reply,
      Reply.code?]
  | _ => cases h

/-- An operation that calls a native function does not refuse. -/
theorem not_refuses_of_calls {svc : MySQLService} {ec : ErrorCode} {op : Operation} {c : Call}
    {l : List Call} (h : (perform svc L i ec op).1.mysql.calls = i.mysql.calls ++ c :: l) :
    ¬ Refuses svc L i ec op := by
  rintro ⟨he, -⟩
  rw [he] at h
  simp at h

/-- `store_result` either calls a native function or, once the first result is
stored, reports `no_more_results`. -/
theorem storeResult_not_refuses (svc : MySQLService) (hclosed : i.initialized = false)
    (ec : ErrorCode) : ¬ Refuses svc L i ec .storeResult := by
  intro ⟨himpl, hcode⟩
  simp only [perform_storeResult, Stored.reply, Reply.code?, Option.some.injEq,
    forall_eq'] at himpl hcode
  cases h1 : i.firstResultStored with
  | false =>
    -- the mark is set, whatever comes after
    have hfirst : (Service.storeResult L i ec).impl.firstResultStored = true := by
      simp only [Service.storeResult, Service.nextResult_first h1]
      split_ifs <;> simp
    rw [himpl, h1] at hfirst
    cases hfirst
  | true =>
    have hm : (Service.hasMoreResults L i.freeResult).1 = false := by
      rw [Service.hasMoreResults_closed (by simpa using hclosed)]
    have hec : (Service.storeResult L i ec).ec = .noMoreResults := by
      simp [Service.storeResult, Service.nextResult_done h1 ec hm]
    rw [hec] at hcode
    exact absurd hcode (by decide)

theorem unguarded_not_refuses {svc : MySQLService} (hclosed : i.initialized = false)
    (ec : ErrorCode) {op : Operation} (hop : op.needsOpen = true) (h : op.guarded svc = false) :
    ¬ Refuses svc L i ec op := by
  cases op with
  | storeResult => exact storeResult_not_refuses svc hclosed ec
  | setOption o =>
    cases svc with
    | mysql => exact not_refuses_of_calls (c := .options o.option) (l := []) rfl
    | mariadb => cases h
  | autocommit mode =>
    exact not_refuses_of_calls (c := .autocommit mode) (l := []) (by
      simp [Service.autocommit, mysqlAutocommit])
  | affectedRows =>
    exact not_refuses_of_calls (c := .affectedRows) (l := []) (by
      simp [Service.affectedRows, mysqlAffectedRows])
  | errorMessage e =>
    by_cases he : L.errno i.mysql.st = e.value.toUInt32
    · exact not_refuses_of_calls (c := .errno) (l := [.error]) (by
        simp [Service.errorMessage, he])
    · exact not_refuses_of_calls (c := .errno) (l := []) (by
        simp [Service.errorMessage, he])
  | «open» => cases hop
  | connect c => cases hop
  | query stmt => cases h
  | queryResult stmt => cases h
  | commit => cases h
  | rollback => cases h
  | hasMoreResults => cases h

theorem refuses_iff {svc : MySQLService} (hclosed : i.initialized = false) (ec : ErrorCode)
    {op : Operation} (hop : op.needsOpen = true) :
    Refuses svc L i ec op ↔ op.guarded svc = true := by
  refine ⟨fun hr => ?_, guarded_refuses hclosed ec⟩
  by_contra hg
  exact unguarded_not_refuses hclosed ec hop (Bool.not_eq_true _ ▸ hg) hr

/-! ## Asynchronous operations -/

def MysqlService.Request.needsOpen : MysqlService.Request → Bool
  | .connect _ => false
  | _ => true

def MariadbService.Request.needsOpen : MariadbService.Request → Bool
  | .connect _ => false
  | _ => true

theorem MysqlService.World.initiate_refuses {w : MysqlService.World M}
    (hclosed : w.impl.initialized = false) {r : MysqlService.Request} (hr : r.needsOpen = true) :
    ∃ o, o.code = .notInitialized ∧
      w.initiate L r = { w with io := w.io ++ [⟨w.next, o⟩], next := w.next + 1 } := by
  cases r with
  | connect c => cases hr
  | query stmt => exact ⟨⟨.notInitialized, none⟩, rfl, by
      simp [initiate, asyncQuery, hclosed, postHandler]⟩
  | storeResult => exact ⟨⟨.notInitialized, some .emptySet⟩, rfl, by
      simp [initiate, asyncStoreResult, hclosed, postHandler]⟩

theorem MariadbService.World.initiate_refuses {w : MariadbService.World M}
    (hclosed : w.impl.initialized = false) {r : MariadbService.Request} (hr : r.needsOpen = true) :
    ∃ o, o.code = .notInitialized ∧
      w.initiate L r = { w with posted := w.posted ++ [⟨w.next, o⟩], next := w.next + 1 } := by
  cases r with
  | connect c => cases hr
  | query stmt => exact ⟨⟨.notInitialized, none⟩, rfl, by
      simp [initiate, MariadbService.initiate, asyncQuery, hclosed]⟩
  | storeResult => exact ⟨⟨.notInitialized, some .emptySet⟩, rfl, by
      simp [initiate, MariadbService.initiate, asyncStoreResult, hclosed]⟩
  | queryResult stmt => exact ⟨⟨.notInitialized, some .emptySet⟩, rfl, by
      simp [initiate, MariadbService.initiate, asyncQueryResult, hclosed]⟩

/-! ## Both services -/

/-- **A connector that is not open**, in any state of any run of either service:
a blocking operation leaves it as it is and reports `not_initialized` if and
only if it is a guarded one; an asynchronous one leaves it as it is and posts
its handler with `not_initialized`. -/
theorem closed_refuses_iff {M : Type} (L : Library M) (st : M) :
    (∀ (as : List MysqlService.Action) (w : MysqlService.World M),
      Run (MysqlService.World.step L) anyStep (.start (Implementation.construct st)) as w →
      w.impl.initialized = false →
      (∀ ec op, op.needsOpen = true → (Refuses .mysql L w.impl ec op ↔ op.guarded .mysql = true)) ∧
      ∀ r, r.needsOpen = true → ∃ o, o.code = .notInitialized ∧
        w.step L (.initiate r) =
          some { w with io := w.io ++ [⟨w.next, o⟩], next := w.next + 1 }) ∧
    (∀ (as : List MariadbService.Action) (w : MariadbService.World M),
      Run (MariadbService.World.step L) anyStep
        (.start (MariadbImplementation.construct st)) as w →
      w.impl.initialized = false →
      (∀ ec op, op.needsOpen = true →
        (Refuses .mariadb L w.impl.toImplementation ec op ↔ op.guarded .mariadb = true)) ∧
      ∀ r, r.needsOpen = true → ∃ o, o.code = .notInitialized ∧
        w.step L (.initiate r) =
          some { w with posted := w.posted ++ [⟨w.next, o⟩], next := w.next + 1 }) := by
  refine ⟨fun _ w _ hclosed => ⟨fun ec op hop => refuses_iff hclosed ec hop, fun r hr => ?_⟩,
    fun _ w _ hclosed => ⟨fun ec op hop => refuses_iff hclosed ec hop, fun r hr => ?_⟩⟩
  · obtain ⟨o, ho, h⟩ := MysqlService.World.initiate_refuses (L := L) hclosed hr
    exact ⟨o, ho, congrArg some h⟩
  · obtain ⟨o, ho, h⟩ := MariadbService.World.initiate_refuses (L := L) hclosed hr
    exact ⟨o, ho, congrArg some h⟩

theorem closed_refuses_iff_query :
    ∃ w : MariadbService.World Script,
      exec (MariadbService.World.step Script.library) (.start (MariadbImplementation.construct {}))
        [.call .clear .open, .close] = some w ∧
      w.impl.mysql.calls = [.init, .close] ∧
      Refuses .mariadb Script.library w.impl.toImplementation .clear (.query "do 1") := by
  obtain ⟨w, hw, hclosed, hcalls⟩ : ∃ w : MariadbService.World Script,
      exec (MariadbService.World.step Script.library) (.start (MariadbImplementation.construct {}))
        [.call .clear .open, .close] = some w ∧
      w.impl.initialized = false ∧ w.impl.mysql.calls = [.init, .close] := ⟨_, rfl, rfl, rfl⟩
  have h := (closed_refuses_iff Script.library {}).2 _ w (run_of_exec (fun _ _ _ => trivial) hw)
    hclosed
  exact ⟨w, hw, hcalls, (h.1 .clear (.query "do 1") rfl).mpr rfl⟩

/-- `set_option` of `mysql_service` on a connector that was never opened makes
its native call and reports no error; so do `affected_rows` and `autocommit`
make theirs. -/
theorem setOption_never_opened :
    let i := Implementation.construct ({} : Script)
    let called (op : Operation) := (perform .mysql Script.library i .clear op).1.mysql.calls
    Run (MysqlService.World.step Script.library) anyStep (.start i) [] (.start i) ∧
      i.initialized = false ∧
      (perform .mysql Script.library i .clear (.setOption ⟨0, none⟩)).2 = .code .clear ∧
      called (.setOption ⟨0, none⟩) = [.options 0] ∧
      called .affectedRows = [.affectedRows] ∧
      called (.autocommit true) = [.autocommit true] := by
  exact ⟨.start, rfl, by decide, by decide, by decide, by decide⟩

end Amy
