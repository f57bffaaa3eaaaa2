import Amy.Changes
import Amy.Deferral
import Amy.Mysql.Delivery

/-!
# Result sets handed out, and results given up

Every operation that returns a result set returns an empty one, or the rows of
the result `last_result` then holds (`ResultSet.Shown`). `releases` says which
actions give up what `last_result` held before; every other leaves it alone.
-/

namespace Amy

open Base

variable {M P : Type} {L : Library M} {i j : Implementation M} {ec : ErrorCode}

/-- A stored result has as many rows as it counts, and is fetched to its end
without an errno. -/
structure Fetchable (L : Library M) : Prop where
  counted : ∀ {c m r m'}, L.Stores c m r m' → ∀ x ∈ r, x.rowCount.toNat = x.data.length
  fetched : ∀ {c m r m'}, L.Stores c m r m' → ∀ x ∈ r, L.errno (L.fetchNull x m') = 0

/-- The set is empty, or has the rows of the result the connector holds. -/
def ResultSet.Shown (x : ResultSet) (i : Implementation M) : Prop :=
  x = .emptySet ∨ ∃ r, i.lastResult = some r ∧ x = .ofRes r ∧ r.rowCount.toNat = r.data.length

theorem assign_shown (hF : Fetchable L) {c : Call} {m : M} {r : Option MysqlRes} {h : Mysql M}
    (hs : L.Stores c m r h.st) (hec : r.isSome → ec.failed = false) (hl : j.lastResult = r) :
    (ResultSet.assign L .fresh h r ec).rs.Shown j := by
  cases r with
  | none => exact .inl rfl
  | some r => exact .inr ⟨r, hl, (ResultSet.assign_some L h r ec (hec rfl) (hF.fetched hs r rfl)).1,
      hF.counted hs r rfl⟩

/-! ## Blocking operations -/

namespace Service

theorem retrieve_shown (hF : Fetchable L) : (retrieve L i ec).rs.Shown (retrieve L i ec).impl := by
  simp only [retrieve, mysqlStoreResult, wrapped, Implementation.resetResult_last]
  refine assign_shown hF (c := .storeResult) (m := i.mysql.st) ?_ (fun hr => ?_) rfl
  · rw [Implementation.resetResult_st]
    exact .blocking i.mysql.st
  · obtain ⟨r, hr⟩ := Option.isSome_iff_exists.mp hr
    simp [hr, errorWrapper]

theorem storeResult_shown (hF : Fetchable L) :
    (storeResult L i ec).rs.Shown (storeResult L i ec).impl := by
  simp only [storeResult]
  split_ifs
  · exact .inl rfl
  · exact retrieve_shown hF

end Service

def Reply.rs? : Reply → Option ResultSet
  | .result _ rs => some rs
  | _ => none

theorem perform_shown (svc : MySQLService) (hF : Fetchable L) {op : Operation} {x : ResultSet}
    (hx : (perform svc L i ec op).2.rs? = some x) : x.Shown (perform svc L i ec op).1 := by
  cases op with
  | storeResult =>
    simp only [perform_storeResult, Stored.reply, Reply.rs?, Option.some.injEq] at hx ⊢
    exact hx ▸ Service.storeResult_shown hF
  | queryResult s =>
    rw [perform_queryResult] at hx ⊢
    split_ifs at hx ⊢
    · exact Option.some_inj.mp hx ▸ .inl rfl
    · exact Option.some_inj.mp hx ▸ Service.storeResult_shown hF
  | _ => cases hx

/-! ## `mysql_service` -/

namespace MysqlService

theorem Job.run_shown (hF : Fetchable L) {j : Job} {x : ResultSet}
    (hx : (j.run L i).outcome.rs = some x) : x.Shown (j.run L i).impl := by
  unfold Job.run at hx ⊢
  split_ifs at hx ⊢
  · cases hr : j.request with
    | storeResult =>
      rw [hr] at hx
      exact .inl (Option.some_inj.mp hx).symm
    | _ => rw [hr] at hx; cases hx
  · cases hr : j.request with
    | storeResult =>
      simp only [hr, storeResultHandler_eq] at hx ⊢
      exact Option.some_inj.mp hx ▸ Service.storeResult_shown hF
    | _ => rw [hr] at hx; cases hx

namespace World

variable {w w' : World M}

/-- Actions that give up what `last_result` holds. -/
def releases (w : World M) : Action → Bool
  | .work => w.work.head?.any fun j => !j.expired w.impl && j.request.frees
  | .close => w.impl.initialized
  | .call ec op => op.releases w.impl ec
  | .initiate _ | .deliver | .cancel => false

/-- The sets an action hands out: a call's reply, and what handlers are called with. -/
def gives (L : Library M) (w : World M) : Action → World M → List ResultSet
  | .call ec op, _ => (perform .mysql L w.impl ec op).2.rs?.toList
  | _, w' => sets (w'.invoked.drop w.invoked.length)

theorem step_last {a : Action} (hstep : w.step L a = some w') (h : w.releases a = false) :
    w'.impl.lastResult = w.impl.lastResult := by
  cases a with
  | initiate r => cases hstep; exact initiate_last L w r
  | work =>
    obtain ⟨j, js, hw, rfl⟩ := World.step_work hstep
    exact Job.run_kept (by simpa [releases, hw] using h)
  | deliver =>
    obtain ⟨c, cs, -, rfl⟩ := World.step_deliver hstep
    rfl
  | cancel => cases hstep; rfl
  | close =>
    cases hstep
    simp only [releases] at h
    simp [Service.close, h]
  | call ec op => cases hstep; exact perform_kept .mysql h

theorem step_shown (hF : Fetchable L) {a : Action} (hstep : w.step L a = some w') {x : ResultSet}
    (hx : x ∈ w.gives L a w' ++ sets w'.io) : x ∈ sets w.io ∨ x.Shown w'.impl := by
  -- a step that invokes nothing gives nothing
  have hquiet : sets (w.invoked.drop w.invoked.length) = [] := by simp [sets]
  cases a with
  | initiate r =>
    cases hstep
    simp only [gives, step_invoked (L := L) (a := .initiate r) rfl rfl, hquiet,
      List.nil_append] at hx
    exact (initiate_sets L w r hx).imp_right .inl
  | work =>
    obtain ⟨j, js, hw, rfl⟩ := World.step_work hstep
    simp only [gives, hquiet, List.nil_append, sets_append] at hx
    rcases List.mem_append.mp hx with hx | hx
    · exact .inl hx
    · exact .inr (Job.run_shown hF (mem_sets_single.mp hx))
  | deliver =>
    obtain ⟨c, cs, hio, rfl⟩ := World.step_deliver hstep
    simp only [gives, List.drop_left] at hx
    rw [← sets_append] at hx
    exact .inl (hio ▸ hx)
  | cancel => cases hstep; simp only [gives, hquiet, List.nil_append] at hx; exact .inl hx
  | close => cases hstep; simp only [gives, hquiet, List.nil_append] at hx; exact .inl hx
  | call ec op =>
    cases hstep
    rcases List.mem_append.mp hx with hx | hx
    · exact .inr (perform_shown .mysql hF (Option.mem_toList.mp hx))
    · exact .inl hx

end World

end MysqlService

/-! ## `mariadb_service` -/

/-- What a turn from `i` hands out, and that it leaves `last_result` alone where `q` says so. -/
def Turn.Shows (q : Prop) (i : MariadbImplementation M) : Turn M P → Prop
  | .wait j _ _ => q → j.lastResult = i.lastResult
  | .dropped j => q → j.lastResult = i.lastResult
  | .invoke j o => (q → j.lastResult = i.lastResult) ∧
      ∀ x, o.rs = some x → x.Shown j.toImplementation
  | .assertion | .spinning => True

namespace Turn.Shows

variable {q : Prop} {i j : MariadbImplementation M} {t : Turn M P}

theorem after (h : t.Shows q j) (hl : q → j.lastResult = i.lastResult) : t.Shows q i := by
  cases t with
  | wait k p on => exact fun hq => (h hq).trans (hl hq)
  | dropped k => exact fun hq => (h hq).trans (hl hq)
  | invoke k o => exact ⟨fun hq => (h.1 hq).trans (hl hq), h.2⟩
  | assertion => trivial
  | spinning => trivial

theorem mono {q' : Prop} (h : t.Shows q i) (hq : q' → q) : t.Shows q' i := by
  cases t with
  | wait k p on => exact fun h' => h (hq h')
  | dropped k => exact fun h' => h (hq h')
  | invoke k o => exact ⟨fun h' => h.1 (hq h'), h.2⟩
  | assertion => trivial
  | spinning => trivial

theorem map {Q : Type} {f : P → Q} (h : t.Shows q i) : (t.map f).Shows q i := by
  cases t <;> exact h

end Turn.Shows

theorem asyncWaitMysql_shows (L : Library M) (status : UInt32) (i : MariadbImplementation M)
    (q : Prop) (p : P) : (asyncWaitMysql L status i p).Shows q i := by
  obtain ⟨log, ev, heq, -⟩ := waitingFor_eq L status i
  rw [asyncWaitMysql_eq]
  cases WaitFor.of status <;> exact fun _ => by rw [heq]; rfl

namespace MariadbService

variable {i j : MariadbImplementation M} {q : Prop}

theorem Single.turn_shows {R : Type} [ReturnType R] (p : Single R) (i : MariadbImplementation M)
    (a : NbAnswer M R) : (Single.turn L p i a).Shows q i := by
  simp only [Single.turn]
  split_ifs
  · exact ⟨fun _ => rfl, fun x hx => by cases hx⟩
  · exact asyncWaitMysql_shows L _ _ q _

namespace Chain

variable {k : ChainKind M} {p : Chain}

theorem finish_shows (r : Option MysqlRes) (i : MariadbImplementation M)
    (hec : ec.failed = true) : (finish L r i ec).Shows q i := by
  simp only [finish, hec, Bool.not_true, Bool.false_eq_true, if_false]
  exact ⟨fun _ => rfl, fun x hx => .inl (Option.some_inj.mp hx).symm⟩

theorem storeTurn_shows (hF : Fetchable L) {c : Call} {m : M} (a : NbAnswer M (Option MysqlRes))
    (hst : i.mysql.st = a.st)
    (hstores : a.status = 0 → L.Stores c m (a.ret.getD none) a.st)
    (hq : q → a.status = 0 → (errorWrapper (a.ret.getD none) (L.errno a.st) .clear).failed = true) :
    (storeTurn L { p with result := a.ret.getD none } i
      (statusError a.status (a.ret.getD none) (L.errno a.st) .clear) a.status).Shows q i := by
  unfold storeTurn
  by_cases h0 : a.status = 0
  · rw [if_pos (by simp [h0]), h0, statusError_finish]
    cases hec : (errorWrapper (a.ret.getD none) (L.errno a.st) .clear).failed with
    | true => exact finish_shows _ _ hec
    | false =>
      simp only [finish, hec, Bool.not_false, if_true]
      refine ⟨fun h => ?_, fun x hx => ?_⟩
      · rw [hq h h0] at hec
        cases hec
      · rw [← Option.some_inj.mp hx]
        refine assign_shown hF (c := c) (m := m) ?_ (fun _ => hec) ?_
        · simpa [hst] using hstores h0
        · rfl
  · split_ifs with hc
    · refine finish_shows _ _ ?_
      simpa [h0] using hc
    · exact asyncWaitMysql_shows L _ _ q _

/-- The turn from `S_STORE_START` on, which frees the last result. -/
theorem storing_shows (hF : Fetchable L) (hp : p.Blank) (i : MariadbImplementation M)
    (hq : ¬ q) : (storing L k p i).Shows q i := by
  refine Turn.Shows.after (j := k.mark (i.update i.freeResult)) ?_ fun h => absurd h hq
  simp only [storing, mysqlStart, clearError_eq, show p.result = none from hp]
  exact (storeTurn_shows hF (L.storeResultStart (k.mark (i.update i.freeResult)).mysql.st) rfl
    (fun h0 => .start ⟨0, 0, true⟩ _ h0) fun h => absurd h hq).after fun h => absurd h hq

/-- The turn from the answer `a` of the first call on: it goes on to store if the
call is done without an error. -/
theorem firstTurn_shows (hF : Fetchable L) (hp : p.Blank) (i : MariadbImplementation M)
    (a : NbAnswer M Int32) (hq : q → a.status = 0 →
      (errorWrapper (a.ret.getD p.firstResult) (L.errno a.st) .clear).failed = true) :
    (firstTurn L k { p with firstResult := a.ret.getD p.firstResult } i
      (statusError a.status (a.ret.getD p.firstResult) (L.errno a.st) .clear) a.status).Shows q i := by
  unfold firstTurn
  split_ifs with hec h0
  · exact finish_shows _ _ hec
  · refine storing_shows (p := { p with firstResult := a.ret.getD p.firstResult }) hF hp i fun h => ?_
    have h0' : a.status = 0 := h0
    rw [h0', statusError_finish] at hec
    exact hec (hq h h0')
  · exact asyncWaitMysql_shows L _ _ q _

theorem call_fresh_shows (hF : Fetchable L) (hk : k.Tame) (hp : p.Blank) (hstep : p.step = .entry)
    (hc : (checkToken p.token i ec).failed = false) (status : UInt32) :
    (p.call L k i ec status).Shows False i := by
  have he := hk.entry i none
  cases hentry : k.entry i with
  | start j =>
    rw [hentry] at he
    rw [call_start hstep hc hentry he.token]
    exact (firstTurn_shows hF hp _ (k.first.start j.mysql.st) False.elim).after False.elim
  | skip j =>
    rw [call_skip hstep hc hentry]
    exact (storing_shows hF hp j id).after False.elim
  | leave j e =>
    rw [hentry] at he
    rw [call_leave hstep hc hentry]
    exact (finish_shows _ _ he.2).after False.elim

def done {R : Type} [ReturnType R] (L : Library M) (f : NbFn M R) (r : R) (m : M)
    (status : UInt32) : Bool :=
  let a := f.cont status m
  a.status == WaitType.finish && !(errorWrapper (a.ret.getD r) (L.errno a.st) .clear).failed

theorem failed_of_not_done {R : Type} [ReturnType R] {f : NbFn M R} {r : R} {m : M}
    {status : UInt32} (h : done L f r m status = false) (h0 : (f.cont status m).status = 0) :
    (errorWrapper ((f.cont status m).ret.getD r) (L.errno (f.cont status m).st) .clear).failed =
      true := by
  simpa [done, h0] using h

/-- Resumed with `status`, a handler of two calls frees the last result if the
call it continues is done. -/
def frees (L : Library M) (first : NbFn M Int32) (p : Chain) (m : M) (status : UInt32) : Bool :=
  match p.step with
  | .contFirst => done L first p.firstResult m status
  | .contStore => done L L.nbStoreResult p.result m status
  | _ => false

theorem call_resumed_shows (hF : Fetchable L) (hp : p.Blank) {t : Nat} {c : NbCall}
    (hr : p.Rests k.first.name t c) (hc : (checkToken p.token i ec).failed = false)
    (status : UInt32) :
    (p.call L k i ec status).Shows (p.frees L k.first i.mysql.st status = false) i := by
  obtain ⟨rfl, ⟨hstep, rfl⟩ | ⟨hstep, rfl⟩⟩ := hr
  · rw [call_contFirst hstep hc]
    refine Turn.Shows.after (firstTurn_shows hF hp
      (Single.continued L k.first p.firstResult status i) (k.first.cont status i.mysql.st)
      fun hq h0 => ?_) fun _ => rfl
    simp only [frees, hstep] at hq
    exact failed_of_not_done hq h0
  · rw [call_contStore hstep hc]
    simp only [mysqlContinue, clearError_eq, show p.result = none from hp]
    refine Turn.Shows.after (storeTurn_shows hF (L.nbStoreResult.cont status i.mysql.st) rfl
      (fun h0 => .cont status ⟨0, 0, true⟩ _ h0) fun hq h0 => ?_) fun _ => rfl
    simp only [frees, hstep, show p.result = none from hp] at hq
    exact failed_of_not_done hq h0

end Chain

/-- Operations whose first turn frees the last result. -/
def Request.frees : Request → Bool
  | .connect _ => false
  | .query _ | .storeResult | .queryResult _ => true

namespace Handler

/-- Whether a handler resumed with `status` frees the last result. -/
def frees (L : Library M) (m : M) (status : UInt32) : Handler → Bool
  | .connect _ _ | .query _ _ => false
  | .storeResult p => p.frees L L.nbNextResult m status
  | .queryResult stmt p => p.frees L (L.nbQuery stmt) m status

theorem construct_shows (hF : Fetchable L) (r : Request) (hec : ec.failed = false)
    (status : UInt32) :
    ((construct i.cancelationToken r).call L i ec status).Shows (r.frees = false) i := by
  have hc : (checkToken i.cancelationToken i ec).failed = false := by
    rwa [checkToken_of_eq rfl]
  cases r with
  | connect c =>
    refine Turn.Shows.map ?_
    unfold connectHandler
    rw [Single.call_start rfl hc]
    exact (Single.turn_shows _ _ _).after fun _ => rfl
  | query stmt =>
    refine Turn.Shows.map ?_
    unfold queryHandler
    rw [Single.call_start rfl hc]
    exact (Single.turn_shows _ _ _).after fun hq => by cases hq
  | storeResult =>
    have h := Chain.call_fresh_shows (p := ⟨.entry, -1, none, i.cancelationToken⟩) hF
      (storeResultKind_tame L) rfl rfl hc status
    exact (h.mono fun hq => by cases hq).map
  | queryResult stmt =>
    have h := Chain.call_fresh_shows (p := ⟨.entry, -1, none, i.cancelationToken⟩) hF
      (queryResultKind_tame L stmt) rfl rfl hc status
    exact (h.mono fun hq => by cases hq).map

theorem resumed_shows (hF : Fetchable L) {h : Handler} {t : Nat} {c : NbCall} (hr : h.Rests t c)
    (hb : h.Blank) (hc : (checkToken h.token i ec).failed = false) (status : UInt32) :
    (h.call L i ec status).Shows (h.frees L i.mysql.st status = false) i := by
  cases h with
  | connect r p =>
    obtain ⟨hstep, rfl, rfl⟩ := hr
    refine Turn.Shows.map ?_
    unfold connectHandler
    rw [Single.call_cont hstep hc]
    exact (Single.turn_shows _ _ _).after fun _ => rfl
  | query stmt p =>
    obtain ⟨hstep, rfl, rfl⟩ := hr
    refine Turn.Shows.map ?_
    unfold queryHandler
    rw [Single.call_cont hstep hc]
    exact (Single.turn_shows _ _ _).after fun _ => rfl
  | storeResult p =>
    exact (Chain.call_resumed_shows (k := storeResultKind L) hF hb hr hc status).map
  | queryResult stmt p =>
    exact (Chain.call_resumed_shows (k := queryResultKind L stmt) hF hb hr hc status).map

end Handler

/-- What an initiating call hands out: a handler it posts is given no rows. -/
def Started.Shows (q : Prop) (i : MariadbImplementation M) : Started M → Prop
  | .posted j o => j.lastResult = i.lastResult ∧ ∀ x, o.rs = some x → x = .emptySet
  | .ran t => t.Shows q i

theorem launch_shows {q : Prop} (hF : Fetchable L) (hl : j.lastResult = i.lastResult) (r : Request)
    (hec : ec.failed = false) (hq : q → r.frees = false) : (launch L j r ec).Shows q i :=
  ((Handler.construct_shows hF r hec WaitType.finish).after fun _ => hl).mono hq

/-- What an initiating call hands out; it frees if it runs a handler that does. -/
theorem initiate_shows (hF : Fetchable L) (i : MariadbImplementation M) (r : Request) :
    (initiate L i r).Shows ((i.initialized && r.frees) = false) i := by
  let I : MariadbImplementation M → Prop := fun j =>
    j.lastResult = i.lastResult ∧ ((∀ c, r ≠ .connect c) → j = i)
  have hopen : ∀ c, r = .connect c →
      I (i.update (MariadbService.open L i.toImplementation .clear).impl) := by
    rintro c rfl
    exact ⟨Service.open_last L i.toImplementation .clear, fun hr => absurd rfl (hr c)⟩
  have hset : ∀ c, r = .connect c → ∀ j, I j →
      I (j.update (setOption L j.toImplementation nonblockDefault .clear).impl) := by
    rintro c rfl j ⟨hl, -⟩
    refine ⟨?_, fun hr => absurd rfl (hr c)⟩
    unfold setOption
    split_ifs <;> exact hl
  obtain ⟨j, ⟨hl, hsame⟩, ⟨o, hempty, heq⟩ | ⟨hinit, ec, hec, heq⟩⟩ :=
    initiate_cases L (I := I) ⟨rfl, fun _ => rfl⟩ r hopen hset
  · rw [heq]
    exact ⟨hl, hempty⟩
  · rw [heq]
    refine launch_shows hF hl r hec fun hq => ?_
    cases r with
    | connect c => rfl
    | query s => simpa [hsame (fun c hc => by cases hc) ▸ hinit] using hq
    | storeResult => simpa [hsame (fun c hc => by cases hc) ▸ hinit] using hq
    | queryResult s => simpa [hsame (fun c hc => by cases hc) ▸ hinit] using hq

namespace World

variable {w w' : World M} {as : List Action}

def releases (L : Library M) (w : World M) : Action → Bool
  | .initiate r => w.impl.initialized && r.frees
  | .fire k ec => w.waits[k]?.any fun x =>
      !(checkToken x.handler.token w.impl ec).failed &&
        x.handler.frees L w.impl.mysql.st x.on.status
  | .close => w.impl.initialized
  | .call ec op => op.releases w.impl.toImplementation ec
  | .deliver | .cancel => false

def gives (L : Library M) (w : World M) : Action → World M → List ResultSet
  | .call ec op, _ => (perform .mariadb L w.impl.toImplementation ec op).2.rs?.toList
  | _, w' => sets (w'.invoked.drop w.invoked.length)

theorem settle_shows {q : Prop} {u : World M} {n : Nat} {t : Turn M Handler}
    (h : t.Shows q w.impl) (himpl : u.impl = w.impl) (hposted : u.posted = w.posted)
    (hinv : u.invoked = w.invoked) :
    (q → (u.settle n t).impl.lastResult = w.impl.lastResult) ∧
      ∀ x ∈ sets ((u.settle n t).invoked.drop w.invoked.length) ++ sets (u.settle n t).posted,
        x ∈ sets w.posted ∨ x.Shown (u.settle n t).impl.toImplementation := by
  have hquiet : ∀ x ∈ sets (u.invoked.drop w.invoked.length) ++ sets u.posted,
      x ∈ sets w.posted := by
    intro x hx
    simpa [hinv, hposted, sets] using hx
  cases t with
  | wait j p on => exact ⟨h, fun x hx => .inl (hquiet x hx)⟩
  | dropped j => exact ⟨h, fun x hx => .inl (hquiet x hx)⟩
  | invoke j o =>
    refine ⟨h.1, fun x hx => ?_⟩
    simp only [settle, hinv, List.drop_left, hposted] at hx
    rcases List.mem_append.mp hx with hx | hx
    · exact .inr (h.2 x (mem_sets_single.mp hx))
    · exact .inl hx
  | assertion => exact ⟨fun _ => by rw [settle, himpl], fun x hx => .inl (hquiet x hx)⟩
  | spinning => exact ⟨fun _ => by rw [settle, himpl], fun x hx => .inl (hquiet x hx)⟩

/-- What a step hands out, and that it leaves `last_result` alone or gives it up. -/
theorem Marked.shows (h : w.Marked as) (hb : w.Blank) (hF : Fetchable L) {a : Action}
    (hstep : w.step L a = some w') :
    (w.releases L a = false → w'.impl.lastResult = w.impl.lastResult) ∧
      ∀ x ∈ w.gives L a w' ++ sets w'.posted,
        x ∈ sets w.posted ∨ x.Shown w'.impl.toImplementation := by
  have hquiet : sets (w.invoked.drop w.invoked.length) = [] := by simp [sets]
  cases a with
  | initiate r =>
    cases hstep
    have hs := initiate_shows hF w.impl r
    unfold World.initiate
    cases hrun : MariadbService.initiate L w.impl r with
    | posted j o =>
      rw [hrun] at hs
      refine ⟨fun _ => hs.1, fun x hx => ?_⟩
      simp only [gives, hquiet, List.nil_append, sets_append] at hx
      rcases List.mem_append.mp hx with hx | hx
      · exact .inl hx
      · exact .inr (.inl (hs.2 x (mem_sets_single.mp hx)))
    | ran t =>
      rw [hrun] at hs
      exact settle_shows (u := { w with next := w.next + 1 }) hs rfl rfl rfl
  | fire k ec =>
    obtain ⟨x, hx, rfl⟩ := World.step_fire hstep
    have hmem : x ∈ w.waits := List.mem_of_getElem? hx
    cases hck : (checkToken x.handler.token w.impl ec).failed with
    | true =>
      rw [Handler.call_stopped hck]
      refine settle_shows (w := w) (u := { w with waits := w.waits.eraseIdx k }) ?_ rfl rfl rfl
      refine ⟨fun _ => rfl, fun y hy => .inl ?_⟩
      cases hh : x.handler <;> rw [hh] at hy <;> cases hy <;> rfl
    | false =>
      obtain ⟨c, hr⟩ := h.sound.resting x hmem
      refine settle_shows (w := w) (u := { w with waits := w.waits.eraseIdx k })
        ((Handler.resumed_shows hF hr (hb x hmem) hck x.on.status).mono fun hq => ?_) rfl rfl rfl
      simpa [releases, hx, hck] using hq
  | deliver =>
    obtain ⟨c, cs, hp, rfl⟩ := World.step_deliver hstep
    refine ⟨fun _ => rfl, fun x hx => ?_⟩
    simp only [gives, List.drop_left] at hx
    rw [← sets_append] at hx
    exact .inl (hp ▸ hx)
  | cancel =>
    cases hstep
    refine ⟨fun _ => rfl, fun x hx => ?_⟩
    simp only [gives, hquiet, List.nil_append] at hx
    exact .inl hx
  | close =>
    cases hstep
    refine ⟨fun hq => ?_, fun x hx => ?_⟩
    · have hclosed : w.impl.initialized = false := hq
      simp [hclosed]
    · simp only [gives, hquiet, List.nil_append] at hx
      exact .inl hx
  | call ec op =>
    cases hstep
    refine ⟨fun hq => perform_kept .mariadb hq, fun x hx => ?_⟩
    rcases List.mem_append.mp hx with hx | hx
    · exact .inr (perform_shown .mariadb hF (Option.mem_toList.mp hx))
    · exact .inl hx

end World

end MariadbService

end Amy
