import Amy.Results
import Amy.Script
import Amy.Base.Replies

/-!
# What `close` leaves of a session

`Same i j`: two connectors on the same handle that agree on whether they are
open, on `first_result_stored` and on whether the flags ask for several
results. Nothing else of a connector shows in what an operation returns, so
such connectors are alike. A closed connector is `Same` as a constructed one
when the flags of its last connect did not ask for several results, and, where
`close` found it not open, `first_result_stored` was not set.
-/

namespace Amy

open Base

variable {M : Type} {L : Library M} {i j : Implementation M}

/-! ## What an operation returns -/

structure Same (i j : Implementation M) : Prop where
  st : i.mysql.st = j.mysql.st
  initialized : i.initialized = j.initialized
  first : i.firstResultStored = j.firstResultStored
  multi : multiResults i.flags = multiResults j.flags

def Done.Same (o o' : Done M) : Prop := o.ec = o'.ec ∧ Amy.Same o.impl o'.impl

def Stored.Same (o o' : Stored M) : Prop :=
  o.ec = o'.ec ∧ o.rs = o'.rs ∧ Amy.Same o.impl o'.impl

namespace Same

theorem refl (i : Implementation M) : Same i i := ⟨rfl, rfl, rfl, rfl⟩

theorem trans {k : Implementation M} (h : Same i j) (h' : Same j k) : Same i k :=
  ⟨h.st.trans h'.st, h.initialized.trans h'.initialized, h.first.trans h'.first,
    h.multi.trans h'.multi⟩

theorem congr (h : Same i j) {i' j' : Implementation M} (hst : i'.mysql.st = j'.mysql.st)
    (hi : i'.initialized = i.initialized) (hj : j'.initialized = j.initialized)
    (hfirst : i'.firstResultStored = j'.firstResultStored) (hif : i'.flags = i.flags)
    (hjf : j'.flags = j.flags) : Same i' j' :=
  ⟨hst, by rw [hi, hj, h.initialized], hfirst, by rw [hif, hjf, h.multi]⟩

theorem resetResult (h : Same i j) (p : Option MysqlRes) :
    Same (i.resetResult p) (j.resetResult p) :=
  h.congr (by simp [h.st]) (by simp) (by simp) (by simp [h.first]) (by simp) (by simp)

theorem freeResult (h : Same i j) : Same i.freeResult j.freeResult := h.resetResult none

theorem called (h : Same i j) (c : Call) (st : M) :
    Same { i with mysql := i.mysql.call c st } { j with mysql := j.mysql.call c st } :=
  h.congr rfl rfl rfl h.first rfl rfl

theorem «open» (h : Same i j) (ec : ErrorCode) :
    (Service.open L i ec).Same (Service.open L j ec) := by
  simp only [Service.open, Done.Same, ← h.initialized]
  split_ifs with hc
  · simp only [mysqlInit, ← h.st]
    cases L.init i.mysql.st with
    | none => exact ⟨rfl, rfl, rfl, h.first, h.multi⟩
    | some m => exact ⟨rfl, rfl, rfl, h.first, h.multi⟩
  · exact ⟨rfl, h⟩

theorem connectOpen (h : Same i j) (c : ConnectRequest) (ec : ErrorCode) :
    (Service.connectOpen L i c ec).Same (Service.connectOpen L j c ec) := by
  simp only [Service.connectOpen, Done.Same, mysqlRealConnect, wrapped, ← h.st]
  exact ⟨trivial, rfl, h.initialized, h.first, rfl⟩

theorem connect (h : Same i j) (c : ConnectRequest) (ec : ErrorCode) :
    (Service.connect L i c ec).Same (Service.connect L j c ec) := by
  obtain ⟨hec, ho⟩ := h.open (L := L) ec
  simp only [Service.connect, ← h.initialized, ← hec]
  split_ifs
  · exact ⟨hec, ho⟩
  · exact ho.connectOpen c _
  · exact h.connectOpen c ec

theorem query (h : Same i j) (stmt : String) (ec : ErrorCode) :
    (Service.query L i stmt ec).Same (Service.query L j stmt ec) := by
  cases hi : i.initialized with
  | false =>
    simp only [Service.query, ← h.initialized, hi]
    exact ⟨rfl, h⟩
  | true =>
    rw [Service.query_open hi, Service.query_open (h.initialized ▸ hi), ← h.st]
    exact ⟨rfl, h.congr (by simp) (by simp) (by simp) rfl (by simp) (by simp)⟩

theorem hasMoreResults (h : Same i j) :
    (Service.hasMoreResults L i).1 = (Service.hasMoreResults L j).1 ∧
      Same (Service.hasMoreResults L i).2 (Service.hasMoreResults L j).2 := by
  refine ⟨?_, ?_⟩
  · exact Service.hasMoreResults_congr h.initialized h.multi h.first (by rw [h.st]) (by rw [h.st])
  · rw [Service.hasMoreResults_impl, Service.hasMoreResults_impl]
    exact h.congr h.st rfl rfl h.first rfl rfl

theorem nextResult (h : Same i j) (ec : ErrorCode) :
    (Service.nextResult L i ec).Same (Service.nextResult L j ec) := by
  obtain ⟨hmore, hs⟩ := h.freeResult.hasMoreResults (L := L)
  simp only [Service.nextResult, ← h.first, ← hmore, mysqlNextResult, wrapped, ← hs.st]
  split_ifs
  · exact ⟨rfl, hs⟩
  · exact ⟨rfl, hs.congr rfl rfl rfl hs.first rfl rfl⟩
  · exact ⟨rfl, h.congr h.st rfl rfl rfl rfl rfl⟩

theorem assign_same {g g' : Mysql M} (h : g.st = g'.st) (r : Option MysqlRes) (ec : ErrorCode) :
    (ResultSet.assign L .fresh g r ec).rs = (ResultSet.assign L .fresh g' r ec).rs ∧
      (ResultSet.assign L .fresh g r ec).ec = (ResultSet.assign L .fresh g' r ec).ec ∧
      (ResultSet.assign L .fresh g r ec).mysql.st =
        (ResultSet.assign L .fresh g' r ec).mysql.st := by
  cases r with
  | none => exact ⟨rfl, rfl, h⟩
  | some r =>
    simp only [ResultSet.assign, ResultSet.fetchRows_eq, h]
    split_ifs <;> simp [h]

theorem retrieve (h : Same i j) (ec : ErrorCode) :
    (Service.retrieve L i ec).Same (Service.retrieve L j ec) := by
  simp only [Service.retrieve, Stored.Same, mysqlStoreResult, wrapped,
    Implementation.resetResult_last, ← h.st]
  have hreset := (h.called .storeResult (L.storeResult i.mysql.st).2).resetResult
    (L.storeResult i.mysql.st).1
  obtain ⟨hrs, hec, hst⟩ := assign_same (L := L) hreset.st (L.storeResult i.mysql.st).1 _
  exact ⟨hec, hrs, h.congr hst (by simp) (by simp) (by simp [h.first]) (by simp) (by simp)⟩

theorem storeResult (h : Same i j) (ec : ErrorCode) :
    (Service.storeResult L i ec).Same (Service.storeResult L j ec) := by
  obtain ⟨hec, hs⟩ := h.nextResult (L := L) ec
  simp only [Service.storeResult, ← hec]
  split_ifs
  · exact ⟨rfl, rfl, hs⟩
  · exact hs.retrieve _

theorem applyOption (h : Same i j) (o : MysqlOption) (ec : ErrorCode) :
    (Service.applyOption L i o ec).Same (Service.applyOption L j o ec) := by
  simp only [Service.applyOption, Done.Same, mysqlOptions, wrapped, ← h.st]
  exact ⟨trivial, h.called _ _⟩

/-- An operation that tests `is_open` first. -/
theorem guarded (h : Same i j) {o o' : Done M} (hs : o.Same o') :
    (if !i.initialized then ⟨i, .notInitialized⟩ else o : Done M).Same
      (if !j.initialized then ⟨j, .notInitialized⟩ else o') := by
  rw [← h.initialized]
  split_ifs
  · exact ⟨rfl, h⟩
  · exact hs

theorem setOption (h : Same i j) (svc : MySQLService) (o : MysqlOption) (ec : ErrorCode) :
    (Connector.setOptionEc svc L i o ec).Same (Connector.setOptionEc svc L j o ec) := by
  cases svc with
  | mysql => exact h.applyOption o _
  | mariadb => exact h.guarded (h.applyOption o ec)

theorem autocommit (h : Same i j) (mode : Bool) (ec : ErrorCode) :
    (Service.autocommit L i mode ec).Same (Service.autocommit L j mode ec) := by
  simp only [Service.autocommit, Done.Same, mysqlAutocommit, ← h.st]
  exact ⟨trivial, h.called _ _⟩

theorem commit (h : Same i j) (ec : ErrorCode) :
    (Service.commit L i ec).Same (Service.commit L j ec) := by
  refine h.guarded ?_
  simp only [Done.Same, mysqlCommit, ← h.st]
  exact ⟨trivial, h.called _ _⟩

theorem rollback (h : Same i j) (ec : ErrorCode) :
    (Service.rollback L i ec).Same (Service.rollback L j ec) := by
  refine h.guarded ?_
  simp only [Done.Same, mysqlRollback, ← h.st]
  exact ⟨trivial, h.called _ _⟩

theorem errorMessage (h : Same i j) (e : ErrorCode) :
    (Service.errorMessage L i e).1 = (Service.errorMessage L j e).1 ∧
      Same (Service.errorMessage L i e).2 (Service.errorMessage L j e).2 := by
  simp only [Service.errorMessage, Mysql.read_st, ← h.st]
  by_cases he : L.errno i.mysql.st = e.value.toUInt32
  · simp only [he, if_true]
    exact ⟨trivial, h.congr h.st rfl rfl h.first rfl rfl⟩
  · simp only [he, if_false]
    exact ⟨trivial, h.congr h.st rfl rfl h.first rfl rfl⟩

/-- **An operation returns the same on both connectors** and leaves them the same. -/
theorem perform (h : Same i j) (svc : MySQLService) (ec : ErrorCode) (op : Operation) :
    (perform svc L i ec op).2 = (perform svc L j ec op).2 ∧
      Same (perform svc L i ec op).1 (perform svc L j ec op).1 := by
  have hdone : ∀ {o o' : Done M}, o.Same o' →
      o.reply.2 = o'.reply.2 ∧ Same o.reply.1 o'.reply.1 :=
    fun hs => ⟨congrArg Reply.code hs.1, hs.2⟩
  have hstored : ∀ {o o' : Stored M}, o.Same o' →
      o.reply.2 = o'.reply.2 ∧ Same o.reply.1 o'.reply.1 :=
    fun hs => ⟨congrArg₂ Reply.result hs.1 hs.2.1, hs.2.2⟩
  cases op with
  | «open» => exact hdone (by simpa using h.open ec)
  | connect c => exact hdone (by simpa using h.connect c ec)
  | query stmt => exact hdone (by simpa using h.query stmt ec)
  | storeResult => exact hstored (by simpa using h.storeResult ec)
  | queryResult stmt =>
    obtain ⟨hec, hq⟩ := h.query (L := L) stmt ec
    rw [perform_queryResult, perform_queryResult, ← hec]
    split_ifs
    · exact hstored ⟨rfl, rfl, hq⟩
    · exact hstored (hq.storeResult _)
  | setOption o => exact hdone (h.setOption svc o ec)
  | autocommit mode =>
    rw [perform_autocommit, perform_autocommit]
    exact hdone (h.autocommit mode ec)
  | commit =>
    rw [perform_commit, perform_commit]
    exact hdone (h.commit ec)
  | rollback =>
    rw [perform_rollback, perform_rollback]
    exact hdone (h.rollback ec)
  | affectedRows =>
    simp only [perform_affectedRows, Service.affectedRows, mysqlAffectedRows]
    exact ⟨by rw [h.st], h.congr h.st rfl rfl h.first rfl rfl⟩
  | hasMoreResults =>
    obtain ⟨hmore, hs⟩ := h.hasMoreResults (L := L)
    rw [perform_hasMoreResults, perform_hasMoreResults]
    exact ⟨congrArg Reply.flag hmore, hs⟩
  | errorMessage e =>
    obtain ⟨htext, hs⟩ := h.errorMessage (L := L) e
    rw [perform_errorMessage, perform_errorMessage]
    exact ⟨congrArg Reply.text htext, hs⟩

end Same

/-! ## Uses of a connector -/

/-- Something done with a connector: a blocking call, `is_open`, `cancel` or `close`. -/
inductive Deed where
  | call (ec : ErrorCode) (op : Operation)
  | isOpen
  | cancel
  | close
  deriving DecidableEq, Repr

/-- The connector after a deed, and what the deed returned. -/
def Deed.run (svc : MySQLService) (L : Library M) (i : Implementation M) :
    Deed → Implementation M × Option Reply
  | .call ec op => ((perform svc L i ec op).1, some (perform svc L i ec op).2)
  | .isOpen => (i, some (.flag i.initialized))
  | .cancel => (i.cancel, none)
  | .close => (Connector.close svc L i, none)

theorem Same.run (h : Same i j) (svc : MySQLService) (d : Deed) :
    (d.run svc L i).2 = (d.run svc L j).2 ∧ Same (d.run svc L i).1 (d.run svc L j).1 := by
  cases d with
  | call ec op =>
    obtain ⟨hreply, hs⟩ := h.perform (L := L) svc ec op
    exact ⟨congrArg some hreply, hs⟩
  | isOpen => exact ⟨congrArg (some ∘ Reply.flag) h.initialized, h⟩
  | cancel => exact ⟨rfl, h.congr h.st rfl rfl h.first rfl rfl⟩
  | close =>
    refine ⟨rfl, ?_⟩
    simp only [Deed.run, Connector.close_eq, Service.close, ← h.initialized]
    cases hi : i.initialized with
    | false => exact h
    | true =>
      have hj : j.initialized = true := h.initialized ▸ hi
      simp only [if_true, Implementation.close, hi, hj, Implementation.cancel]
      exact ⟨by simp [mysqlClose, h.st], by simp, by simp, by simp [h.multi]⟩

/-- **Connectors that are the same cannot be told apart**, whatever is done with them. -/
theorem Same.alike (h : Same i j) (svc : MySQLService) : Alike (Deed.run svc L) i j :=
  alike_of_kept (R := Same) (fun _ _ d hs => hs.run svc d) h

/-! ## A closed connector against a constructed one -/

def Implementation.onHandle (i : Implementation M) (st : M) : Implementation M :=
  { i with mysql := ⟨st, i.mysql.calls⟩ }

/-- What `close` leaves behind: the flags always, `first_result_stored` where the
connector is not open. -/
structure Clean (i : Implementation M) : Prop where
  first : i.initialized = false → i.firstResultStored = false
  flags : multiResults i.flags = false

/-- The operations that return something of the session. -/
def Deed.observes : Deed → Bool
  | .isOpen => true
  | .call _ op => match op with
    | .open | .connect _ | .query _ | .storeResult | .hasMoreResults | .commit | .rollback => true
    | _ => false
  | .cancel | .close => false

/-- Closed, and continued on a handle that is in any state, the connector returns
what a constructed one on that handle returns. -/
def Resets (svc : MySQLService) (L : Library M) (i : Implementation M) : Prop :=
  ∀ (st : M) (later : List Deed), (∀ d ∈ later, d.observes = true) →
    replies (Deed.run svc L) ((Connector.close svc L i).onHandle st) later =
      replies (Deed.run svc L) (.construct st) later

section Closed

variable {svc : MySQLService}

theorem closed_initialized : (Service.close L i).initialized = false := by
  rw [Service.close]
  split_ifs with hi
  · exact i.close_initialized L
  · exact Bool.not_eq_true _ ▸ hi

theorem closed_flags : (Service.close L i).flags = i.flags := by
  rw [Service.close]
  split_ifs with hi
  · simp [Implementation.close, Implementation.cancel, hi]
  · rfl

theorem closed_first :
    (Service.close L i).firstResultStored = (!i.initialized && i.firstResultStored) := by
  rw [Service.close]
  split_ifs with hi
  · simp [Implementation.close, Implementation.cancel, hi]
  · simp [Bool.not_eq_true _ ▸ hi]

theorem Clean.same (h : Clean i) (st : M) :
    Same ((Connector.close svc L i).onHandle st) (.construct st) := by
  rw [Connector.close_eq]
  refine ⟨rfl, closed_initialized, ?_, ?_⟩
  · show (Service.close L i).firstResultStored = false
    rw [closed_first]
    cases hi : i.initialized with
    | true => rfl
    | false => simp [h.first hi]
  · show multiResults (Service.close L i).flags = multiResults defaultFlags
    rw [closed_flags, h.flags]
    decide

theorem ResultSet.assign_code (L : Library M) (x : ResultSet) (h : Mysql M) (r : Option MysqlRes)
    (ec : ErrorCode) : (assign L x h r ec).ec = ec ∨ ∃ e, (assign L x h r ec).ec = .client e := by
  cases r with
  | none => exact .inl rfl
  | some r =>
    simp only [assign, fetchRows_eq]
    split_ifs
    · exact .inl rfl
    · exact .inr ⟨_, rfl⟩
    · exact .inr ⟨_, rfl⟩

theorem Service.retrieve_code (L : Library M) (i : Implementation M) (ec : ErrorCode) :
    (Service.retrieve L i ec).ec ≠ .noMoreResults := by
  have hclient : ∀ e, ErrorCode.client e ≠ .noMoreResults := by
    simp [ErrorCode.client, ErrorCode.noMoreResults]
  have hstore : (mysqlStoreResult L i.mysql ec).ec ≠ .noMoreResults := by
    simp only [mysqlStoreResult, wrapped, errorWrapper]
    split_ifs
    · exact hclient _
    · exact (by decide : ErrorCode.clear ≠ .noMoreResults)
  rcases ResultSet.assign_code L .fresh _ _ (mysqlStoreResult L i.mysql ec).ec with h | ⟨e, h⟩
  · exact fun hr => hstore (h.symm.trans hr)
  · exact fun hr => hclient e (h.symm.trans hr)

theorem Resets.first (h : Resets svc L i) (hi : i.initialized = false) :
    i.firstResultStored = false := by
  by_contra hf
  have hone := h i.mysql.st [.call .clear .storeResult] (by simp [Deed.observes])
  simp only [replies_cons, replies_nil, Deed.run, perform_storeResult, Stored.reply,
    Connector.close_eq, List.cons.injEq, Option.some.injEq, Reply.result.injEq, and_true] at hone
  set k := (Service.close L i).onHandle i.mysql.st with hk
  have hk0 : k.initialized = false := closed_initialized
  have hk1 : k.firstResultStored = true := by
    show (Service.close L i).firstResultStored = true
    simpa [closed_first, hi] using hf
  have hmore : (Service.hasMoreResults L k.freeResult).1 = false := by
    rw [Service.hasMoreResults_closed (by simpa using hk0)]
  have hcode : (Service.storeResult L k .clear).ec = .noMoreResults := by
    rw [Service.storeResult, Service.nextResult_done hk1 _ hmore]
    rfl
  -- the constructed connector goes on to store
  exact Service.retrieve_code L { Implementation.construct i.mysql.st with firstResultStored := true }
    .clear (hone.1.symm.trans hcode)

theorem opened_hasMoreResults {m m' : M} (hm : L.init m = some m') (hcount : L.fieldCount m' = 0)
    (hi : i.initialized = false) (hst : i.mysql.st = m) (h1 : i.firstResultStored = false) :
    (Service.hasMoreResults L (Service.open L i .clear).impl).1 = multiResults i.flags := by
  simp only [Service.open, hi, Bool.not_false, if_true, mysqlInit, hst, hm]
  rw [Service.hasMoreResults_fst (by rfl)]
  simp [h1, hcount]

theorem Resets.flags (hinit : ∃ m m', L.init m = some m' ∧ L.fieldCount m' = 0)
    (h : Resets svc L i) : multiResults i.flags = false := by
  obtain ⟨m, m', hm, hcount⟩ := hinit
  have hfirst : (Service.close L i).firstResultStored = false := by
    rw [closed_first]
    cases hi : i.initialized with
    | true => rfl
    | false => simp [h.first hi]
  have htwo := h m [.call .clear .open, .call .clear .hasMoreResults] (by simp [Deed.observes])
  simp only [replies_cons, replies_nil, Deed.run, perform_open, Done.reply_fst,
    perform_hasMoreResults, Connector.close_eq, List.cons.injEq, Option.some.injEq,
    Reply.flag.injEq, and_true] at htwo
  calc multiResults i.flags
      = multiResults (Service.close L i).flags := by rw [closed_flags]
    _ = (Service.hasMoreResults L
          (Service.open L ((Service.close L i).onHandle m) .clear).impl).1 :=
        (opened_hasMoreResults (i := (Service.close L i).onHandle m) hm hcount closed_initialized
          rfl hfirst).symm
    _ = (Service.hasMoreResults L (Service.open L (.construct m) .clear).impl).1 := htwo.2
    _ = multiResults defaultFlags := opened_hasMoreResults hm hcount rfl rfl rfl
    _ = false := by decide

end Closed

/-- **`close` resets a connector exactly when it is clean before**, whatever was
done with it since it was constructed. -/
theorem close_resets_iff (svc : MySQLService) (L : Library M)
    (hinit : ∃ m m', L.init m = some m' ∧ L.fieldCount m' = 0) (st : M) (history : List Deed) :
    Resets svc L (after (Deed.run svc L) (.construct st) history) ↔
      Clean (after (Deed.run svc L) (.construct st) history) :=
  ⟨fun h => ⟨h.first, h.flags hinit⟩, fun h st' later _ => (h.same st').alike svc later⟩

/-- A session without several results leaves nothing behind. -/
theorem close_resets_plain :
    Resets .mysql Script.library (after (Deed.run .mysql Script.library) (.construct {})
      [.call .clear (.connect (Script.login defaultFlags)), .call .clear (.query "do 1"),
        .call .clear .storeResult]) :=
  (close_resets_iff .mysql Script.library ⟨{}, _, rfl, rfl⟩ {} _).mpr
    ⟨by decide, by decide⟩

/-- Closed and opened again, a connector that had asked for several results says
that there are more, where a constructed one says that there are none. -/
theorem flags_survive_close :
    let i := after (Deed.run .mysql Script.library) (.construct {})
      [.call .clear (.connect (Script.login clientMultiResults))]
    let later := [.call .clear .open, .call .clear .hasMoreResults]
    replies (Deed.run .mysql Script.library) ((Connector.close .mysql Script.library i).onHandle {})
        later = [some (.code .clear), some (.flag true)] ∧
      replies (Deed.run .mysql Script.library) (.construct {}) later =
        [some (.code .clear), some (.flag false)] ∧
      ¬ Resets .mysql Script.library i := by
  refine ⟨by decide, by decide, fun h => ?_⟩
  have := h {} [.call .clear .open, .call .clear .hasMoreResults] (by simp [Deed.observes])
  revert this
  decide

end Amy
