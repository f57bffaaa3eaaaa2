import Amy.Effects
import Amy.Cancel

/-!
# What a step does to the connector

In either service a step on a connector is a sequence of effects, a `cancel` or
the `close` of an open connector (`Change`), and `Action.makes` says which calls
it can make. A job or wait whose token has expired makes none. What a handler
holds between its turns is no result: `Blank`.
-/

namespace Amy

open Base

variable {M Q : Type} {L : Library M} {P : Call → Prop}

inductive Change (L : Library M) (P : Call → Prop) (i : Implementation M) :
    Implementation M → Prop where
  | effects {j : Implementation M} : Effects L P i j → Change L P i j
  | cancel : Change L P i i.cancel
  | close : i.initialized = true → Change L P i (i.close L)

theorem Change.refl (i : Implementation M) : Change L P i i := .effects (.refl i)

/-! ## `mysql_service` -/

namespace MysqlService

variable {i : Implementation M}

/-- The calls a handler object can make that may change the handle. -/
def Request.makes : Request → Call → Prop
  | .connect r, c => c = .realConnect r.args
  | .query s, c => c = .realQuery s
  | .storeResult, c => c = .nextResult ∨ c = .storeResult

theorem Job.run_effects {j : Job} (hfresh : j.expired i = false) (hopen : i.initialized = true) :
    Effects L j.request.makes i (j.run L i).impl := by
  have htoken : j.token = i.cancelationToken := by simpa [Job.expired] using hfresh
  rw [Job.run_eq_blocking htoken hopen]
  cases hr : j.request with
  | connect r =>
    simp only [blocking, Connector.connectEc_eq, Service.connect, hopen, Bool.not_true,
      Bool.false_eq_true, if_false]
    exact connectOpen_effects L i _ r rfl
  | query s =>
    simp only [blocking, Connector.queryEc_eq]
    exact query_effects L i _ s fun _ => rfl
  | storeResult =>
    simp only [blocking, Connector.storeResultEc_eq]
    exact storeResult_effects L i _ (.inl rfl) (.inr rfl)

namespace World

variable {w w' : World M} {as : List Action}

/-- The calls an action can make that may change the handle. -/
def makes (w : World M) : Action → Call → Prop
  | .initiate _, c => c = .init
  | .work, c => ∃ j js, w.work = j :: js ∧ j.expired w.impl = false ∧ j.request.makes c
  | .call _ op, c => op.makes w.impl c
  | .deliver, _ | .cancel, _ | .close, _ => False

theorem Marked.open_of_fresh (h : w.Marked as) {j : Job} (hj : j ∈ w.work)
    (hfresh : j.expired w.impl = false) : w.impl.initialized = true := by
  by_contra hclosed
  have hmem : (j.id, j.token) ∈ w.stamps := List.mem_map_of_mem (f := fun j => (j.id, j.token)) hj
  have hlt := h.stamped.stale (Bool.eq_false_iff.mpr hclosed) _ hmem
  have htoken : j.token = w.impl.cancelationToken := by simpa [Job.expired] using hfresh
  have hle := ((h.stamped.stamp _ hmem).2).mp htoken
  omega

theorem initiate_change (L : Library M) (w : World M) (r : Request) :
    Change L (w.makes (.initiate r)) w.impl (w.initiate L r).impl := by
  cases r with
  | connect c =>
    have ho : Effects L (w.makes (.initiate (.connect c))) w.impl
        (Service.open L w.impl .clear).impl := open_effects L w.impl .clear rfl
    simp only [initiate, asyncConnect]
    split_ifs
    · exact .effects ho
    · exact .effects ho
    · exact .refl _
  | query s =>
    simp only [initiate, asyncQuery]
    split_ifs <;> exact .refl _
  | storeResult =>
    simp only [initiate, asyncStoreResult]
    split_ifs <;> exact .refl _

/-- **What a step of `mysql_service` does to the connector.** -/
theorem Marked.change (h : w.Marked as) {a : Action} (hstep : w.step L a = some w') :
    Change L (w.makes a) w.impl w'.impl := by
  cases a with
  | initiate r =>
    cases hstep
    exact initiate_change L w r
  | work =>
    obtain ⟨j, js, hw, rfl⟩ := World.step_work hstep
    cases hfresh : j.expired w.impl with
    | true =>
      simp only [Job.run_expired hfresh]
      exact .refl _
    | false =>
      have he := Job.run_effects (L := L) hfresh (h.open_of_fresh (by simp [hw]) hfresh)
      exact .effects (he.mono fun c hc => ⟨j, js, hw, hfresh, hc⟩)
  | deliver =>
    obtain ⟨c, cs, hio, rfl⟩ := World.step_deliver hstep
    exact .refl _
  | cancel => cases hstep; exact .cancel
  | close =>
    cases hstep
    simp only [MysqlService.close, Service.close]
    split_ifs with hopen
    · exact .close hopen
    · exact .refl _
  | call ec op =>
    cases hstep
    exact .effects (perform_effects .mysql L w.impl ec op)

end World

end MysqlService

/-! ## Turns of the handlers of `mariadb_service` -/

/-- The native call a start or continuation is of. -/
def Call.nb? : Call → Option NbCall
  | .start c _ => some c
  | .cont c _ _ => some c
  | _ => none

theorem Operation.makes_blocking {op : Operation} {i : Implementation M} {c : Call}
    (hc : op.makes i c) : c.nb? = none := by
  cases op with
  | «open» => rw [show c = .init from hc]; rfl
  | connect r => rcases hc with rfl | rfl <;> rfl
  | query s => rw [hc.2]; rfl
  | storeResult => rcases hc with rfl | rfl <;> rfl
  | queryResult s => rcases hc.2 with rfl | rfl | rfl <;> rfl
  | setOption o => rw [show c = .options o.option from hc]; rfl
  | autocommit b => rw [show c = .autocommit b from hc]; rfl
  | commit => rw [hc.2]; rfl
  | rollback => rw [hc.2]; rfl
  | affectedRows => exact hc.elim
  | hasMoreResults => exact hc.elim
  | errorMessage e => exact hc.elim

/-- The effects of a turn from `i`, and what is known of a handler that waits. -/
def Turn.Makes (L : Library M) (P : Call → Prop) (q : Q → Prop) (i : MariadbImplementation M) :
    Turn M Q → Prop
  | .wait j p _ => Effects L P i.toImplementation j.toImplementation ∧ q p
  | .dropped j => Effects L P i.toImplementation j.toImplementation
  | .invoke j _ => Effects L P i.toImplementation j.toImplementation
  | .assertion | .spinning => True

theorem Turn.Makes.after {q : Q → Prop} {i j : MariadbImplementation M} {t : Turn M Q}
    (h : t.Makes L P q j) (he : Effects L P i.toImplementation j.toImplementation) :
    t.Makes L P q i := by
  cases t with
  | wait k p on => exact ⟨he.trans h.1, h.2⟩
  | dropped k => exact he.trans h
  | invoke k o => exact he.trans h
  | assertion => trivial
  | spinning => trivial

theorem Turn.Makes.mono {R : Call → Prop} {q : Q → Prop} {i : MariadbImplementation M}
    {t : Turn M Q} (h : t.Makes L P q i) (hP : ∀ c, P c → R c) : t.Makes L R q i := by
  cases t with
  | wait k p on => exact ⟨h.1.mono hP, h.2⟩
  | dropped k => exact Effects.mono h hP
  | invoke k o => exact Effects.mono h hP
  | assertion => trivial
  | spinning => trivial

theorem Turn.Makes.map {R : Type} {q : Q → Prop} {q' : R → Prop} {f : Q → R}
    (hf : ∀ p, q p → q' (f p)) {i : MariadbImplementation M} {t : Turn M Q}
    (h : t.Makes L P q i) : (t.map f).Makes L P q' i := by
  cases t with
  | wait k p on => exact ⟨h.1, hf p h.2⟩
  | dropped k => exact h
  | invoke k o => exact h
  | assertion => trivial
  | spinning => trivial

theorem waitingFor_effects (L : Library M) (status : UInt32) (i : MariadbImplementation M) :
    Effects L P i.toImplementation (waitingFor L status i).toImplementation := by
  have hassign : Effects L P i.toImplementation (assignSocket L status i).toImplementation := by
    unfold assignSocket
    split_ifs
    · exact .silent (.reads rfl)
    · exact .refl _
  unfold waitingFor
  split_ifs
  · exact hassign.trans (.silent (.reads rfl))
  · exact hassign

theorem asyncWaitMysql_makes (L : Library M) (status : UInt32) (i : MariadbImplementation M)
    {q : Q → Prop} {p : Q} (hp : q p) : (asyncWaitMysql L status i p).Makes L P q i := by
  rw [asyncWaitMysql_eq]
  cases WaitFor.of status with
  | some on => exact ⟨waitingFor_effects L status i, hp⟩
  | none => exact waitingFor_effects L status i

namespace MariadbService

/-- The calls a handler for `r` can make that may change the handle. -/
def Request.makes : Request → Call → Prop
  | .connect r, c => c.nb? = some (.realConnect r.args)
  | .query s, c => c.nb? = some (.realQuery s)
  | .storeResult, c => c.nb? = some .nextResult ∨ c.nb? = some .storeResult
  | .queryResult s, c => c.nb? = some (.realQuery s) ∨ c.nb? = some .storeResult

/-- The calls such a handler can make when it is resumed: a connect is not started again. -/
def Request.resumes : Request → Call → Prop
  | .connect r, c => ∃ w h, c = .cont (.realConnect r.args) w h
  | r, c => r.makes c

variable {i j : MariadbImplementation M} {ec : ErrorCode}

theorem Single.turn_makes {R : Type} [ReturnType R] (p : Single R) (i : MariadbImplementation M)
    (a : NbAnswer M R) : (Single.turn L p i a).Makes L P (fun _ => True) i := by
  simp only [Single.turn]
  split_ifs
  · exact .refl _
  · exact asyncWaitMysql_makes L _ _ trivial

namespace Chain

variable {k : ChainKind M} {p : Chain}

/-- Between its turns a handler holds no result. -/
def Blank (p : Chain) : Prop := p.result = none

theorem finish_makes {q : Chain → Prop} (r : Option MysqlRes) (i : MariadbImplementation M)
    (hec : ec.failed = true) : (finish L r i ec).Makes L P q i := by
  simp only [finish, hec, Bool.not_true, Bool.false_eq_true, if_false]
  exact .refl _

theorem storeTurn_makes {c : Call} (a : NbAnswer M (Option MysqlRes)) (hP : P c)
    (hmakes : a.status ≠ 0 → L.Makes c i.mysql.st a.st)
    (hstores : a.status = 0 → L.Stores c i.mysql.st (a.ret.getD none) a.st) :
    (storeTurn L { p with result := a.ret.getD none } { i with mysql := i.mysql.call c a.st }
      (statusError a.status (a.ret.getD none) (L.errno a.st) .clear) a.status).Makes L P Blank i := by
  unfold storeTurn
  by_cases h0 : a.status = 0
  · rw [if_pos (by simp [h0]), h0, statusError_finish]
    specialize hstores h0
    cases hec : (errorWrapper (a.ret.getD none) (L.errno a.st) .clear).failed with
    | true =>
      have hnone : a.ret.getD none = none := by
        cases hr : a.ret.getD none with
        | none => rfl
        | some r => simp [hr, errorWrapper] at hec
      refine (finish_makes _ _ hec).after (.one (c := c) ?_ hP)
      exact .unstored (hnone ▸ hstores)
    | false =>
      simp only [finish, hec, Bool.not_false, if_true]
      exact (Effects.one (.stored hstores) hP).trans (assign_effects L _ _ .fresh)
  · have hcall : Effects L P i.toImplementation
        ({ i with mysql := i.mysql.call c a.st } : MariadbImplementation M).toImplementation :=
      .one (.called (hmakes h0)) hP
    have hec := statusError_heard L none a h0 .clear
    split_ifs with hc
    · refine (finish_makes _ _ ?_).after hcall
      simpa [h0] using hc
    · refine (asyncWaitMysql_makes L _ _ ?_).after hcall
      -- a calm suspension has stored nothing
      have hcalm : (heard L none a).calm = true := by
        simp only [Bool.or_eq_true, not_or, hec] at hc
        simpa using hc.1
      simp only [Heard.calm, heard, Bool.and_eq_true] at hcalm
      exact Option.isNone_iff_eq_none.mp hcalm.2

end Chain

/-- What tells the handlers apart keeps to the effects allowed. -/
structure ChainKind.Makes (k : ChainKind M) (L : Library M) (P : Call → Prop) : Prop where
  entry : ∀ i : MariadbImplementation M, match k.entry i with
    | .start j => Effects L P i.toImplementation j.toImplementation ∧
        j.cancelationToken = i.cancelationToken
    | .skip j => Effects L P i.toImplementation j.toImplementation
    | .leave j ec => Effects L P i.toImplementation j.toImplementation ∧ ec.failed = true
  mark : ∀ i : MariadbImplementation M, Effects L P i.toImplementation (k.mark i).toImplementation
  start : ∀ (h : Heard) (m : M), L.Makes (.start k.first.name h) m (k.first.start m).st
  next : ∀ (w : UInt32) (h : Heard) (m : M), L.Makes (.cont k.first.name w h) m (k.first.cont w m).st
  allowed : ∀ c : Call, c.nb? = some k.first.name ∨ c.nb? = some .storeResult → P c

namespace Chain

variable {k : ChainKind M} {p : Chain}

theorem storing_makes (hk : k.Makes L P) (hp : p.Blank) (i : MariadbImplementation M) :
    (storing L k p i).Makes L P Blank i := by
  have hmark : Effects L P i.toImplementation (k.mark (i.update i.freeResult)).toImplementation :=
    (Effects.silent .free).trans (hk.mark (i.update i.freeResult))
  refine Turn.Makes.after ?_ hmark
  simp only [storing, mysqlStart, clearError_eq, show p.result = none from hp]
  exact storeTurn_makes _ (hk.allowed _ (.inr rfl)) (fun h0 => .storeStart _ _ h0)
    fun h0 => .start _ _ h0

/-- The turn from the answer `a` of the first call on, `i` the connector after it. -/
theorem firstTurn_makes (hk : k.Makes L P) (hp : p.Blank) (i : MariadbImplementation M)
    (a : NbAnswer M Int32) :
    (firstTurn L k { p with firstResult := a.ret.getD p.firstResult } i
      (statusError a.status (a.ret.getD p.firstResult) (L.errno a.st) .clear)
      a.status).Makes L P Blank i := by
  unfold firstTurn
  split_ifs with hec
  · exact finish_makes _ _ hec
  · exact storing_makes (p := { p with firstResult := a.ret.getD p.firstResult }) hk hp i
  · exact asyncWaitMysql_makes L a.status i hp

theorem call_fresh_makes (hk : k.Makes L P) (hp : p.Blank) (hstep : p.step = .entry)
    (hc : (checkToken p.token i ec).failed = false) (status : UInt32) :
    (p.call L k i ec status).Makes L P Blank i := by
  have he := hk.entry i
  cases hentry : k.entry i with
  | start j =>
    rw [hentry] at he
    rw [call_start hstep hc hentry he.2]
    have hcall : Effects L P j.toImplementation
        (Single.started L k.first p.firstResult j).toImplementation :=
      .one (.called (hk.start _ _)) (hk.allowed _ (.inl rfl))
    exact (firstTurn_makes hk hp _ (k.first.start j.mysql.st)).after (he.1.trans hcall)
  | skip j =>
    rw [hentry] at he
    rw [call_skip hstep hc hentry]
    exact (storing_makes hk hp j).after he
  | leave j ec' =>
    rw [hentry] at he
    rw [call_leave hstep hc hentry]
    exact (finish_makes _ _ he.2).after he.1

theorem call_resumed_makes (hk : k.Makes L P) (hp : p.Blank) {t : Nat} {c : NbCall}
    (hr : p.Rests k.first.name t c) (hc : (checkToken p.token i ec).failed = false)
    (status : UInt32) : (p.call L k i ec status).Makes L P Blank i := by
  obtain ⟨rfl, ⟨hstep, rfl⟩ | ⟨hstep, rfl⟩⟩ := hr
  · rw [call_contFirst hstep hc]
    have hcall : Effects L P i.toImplementation
        (Single.continued L k.first p.firstResult status i).toImplementation :=
      .one (.called (hk.next _ _ _)) (hk.allowed _ (.inl rfl))
    exact (firstTurn_makes hk hp _ (k.first.cont status i.mysql.st)).after hcall
  · rw [call_contStore hstep hc]
    simp only [mysqlContinue, clearError_eq, show p.result = none from hp]
    exact storeTurn_makes _ (hk.allowed _ (.inr rfl)) (fun h0 => .storeCont _ _ _ h0)
      fun h0 => .cont _ _ _ h0

end Chain

theorem storeResultKind_makes (L : Library M) :
    (storeResultKind L).Makes L Request.storeResult.makes where
  entry i := by
    have hmore : Effects L Request.storeResult.makes i.toImplementation
        (Service.hasMoreResults L i.freeResult).2 :=
      (Effects.silent .free).trans (hasMoreResults_effects L i.freeResult)
    simp only [storeResultKind]
    split_ifs
    · exact ⟨hmore, rfl⟩
    · exact ⟨hmore, by simp [Service.hasMoreResults_impl]⟩
    · exact .silent (.mark true)
  mark i := .refl _
  start h m := .nextStart h m
  next w h m := .nextCont w h m
  allowed _ hc := hc

theorem queryResultKind_makes (L : Library M) (s : String) :
    (queryResultKind L s).Makes L (Request.queryResult s).makes where
  entry i := ⟨(Effects.silent .free).trans (.silent (.mark false)), by simp⟩
  mark i := .silent (.mark true)
  start h m := .queryStart s h m
  next w h m := .queryCont s w h m
  allowed _ hc := hc

/-! ### Any handler -/

namespace Handler

def request : Handler → Request
  | .connect r _ => .connect r
  | .query s _ => .query s
  | .storeResult _ => .storeResult
  | .queryResult s _ => .queryResult s

def Blank : Handler → Prop
  | .connect _ _ | .query _ _ => True
  | .storeResult p | .queryResult _ p => p.Blank

theorem construct_makes (r : Request) (hec : ec.failed = false) (status : UInt32) :
    ((construct i.cancelationToken r).call L i ec status).Makes L r.makes Blank i := by
  have hc : (checkToken i.cancelationToken i ec).failed = false := by
    rwa [checkToken_of_eq rfl]
  cases r with
  | connect r =>
    have h : (connectHandler L r ⟨0, none, i.cancelationToken⟩ i ec status).Makes L
        (Request.connect r).makes (fun _ => True) i := by
      unfold connectHandler
      rw [Single.call_start rfl hc]
      exact (Single.turn_makes _ _ _).after (.one (.connects (.start _ _)) rfl)
    exact h.map (f := Handler.connect r) fun _ _ => trivial
  | query s =>
    have h : (queryHandler L s ⟨0, -1, i.cancelationToken⟩ i ec status).Makes L
        (Request.query s).makes (fun _ => True) i := by
      unfold queryHandler
      rw [Single.call_start rfl hc]
      have hfree : Effects L (Request.query s).makes i.toImplementation
          { i.freeResult with firstResultStored := false } :=
        (Effects.silent .free).trans (.silent (.mark false))
      exact (Single.turn_makes _ _ _).after
        (hfree.trans (.one (.called (.queryStart s _ _)) rfl))
    exact h.map (f := Handler.query s) fun _ _ => trivial
  | storeResult =>
    have h : (storeResultHandler L ⟨.entry, -1, none, i.cancelationToken⟩ i ec status).Makes L
        Request.storeResult.makes Chain.Blank i :=
      Chain.call_fresh_makes (p := ⟨.entry, -1, none, i.cancelationToken⟩)
        (storeResultKind_makes L) rfl rfl hc status
    exact h.map (f := Handler.storeResult) fun _ hp => hp
  | queryResult s =>
    have h : (queryResultHandler L s ⟨.entry, -1, none, i.cancelationToken⟩ i ec status).Makes L
        (Request.queryResult s).makes Chain.Blank i :=
      Chain.call_fresh_makes (p := ⟨.entry, -1, none, i.cancelationToken⟩)
        (queryResultKind_makes L s) rfl rfl hc status
    exact h.map (f := Handler.queryResult s) fun _ hp => hp

theorem resumed_makes {h : Handler} {t : Nat} {c : NbCall} (hr : h.Rests t c) (hb : h.Blank)
    (hc : (checkToken h.token i ec).failed = false) (status : UInt32) :
    (h.call L i ec status).Makes L h.request.resumes Blank i := by
  cases h with
  | connect r p =>
    obtain ⟨hstep, rfl, rfl⟩ := hr
    have h : (connectHandler L r p i ec status).Makes L (Request.connect r).resumes
        (fun _ => True) i := by
      unfold connectHandler
      rw [Single.call_cont hstep hc]
      exact (Single.turn_makes _ _ _).after (.one (.connecting _ _) ⟨_, _, rfl⟩)
    exact h.map (f := Handler.connect r) fun _ _ => trivial
  | query s p =>
    obtain ⟨hstep, rfl, rfl⟩ := hr
    have h : (queryHandler L s p i ec status).Makes L (Request.query s).makes
        (fun _ => True) i := by
      unfold queryHandler
      rw [Single.call_cont hstep hc]
      exact (Single.turn_makes _ _ _).after (.one (.called (.queryCont s _ _ _)) rfl)
    exact h.map (f := Handler.query s) fun _ _ => trivial
  | storeResult p =>
    have h : (storeResultHandler L p i ec status).Makes L Request.storeResult.makes Chain.Blank i :=
      Chain.call_resumed_makes (storeResultKind_makes L) hb hr hc status
    exact h.map (f := Handler.storeResult) fun _ hp => hp
  | queryResult s p =>
    have h : (queryResultHandler L s p i ec status).Makes L (Request.queryResult s).makes
        Chain.Blank i :=
      Chain.call_resumed_makes (queryResultKind_makes L s) hb hr hc status
    exact h.map (f := Handler.queryResult s) fun _ hp => hp

end Handler

/-! ### Initiating calls -/

/-- The effects of an initiating call, and that a handler that waits is blank. -/
def Started.Makes (L : Library M) (P : Call → Prop) (i : MariadbImplementation M) :
    Started M → Prop
  | .posted j _ => Effects L P i.toImplementation j.toImplementation
  | .ran t => t.Makes L P Handler.Blank i

theorem launch_makes {r : Request} (hP : ∀ c, r.makes c → P c)
    (he : Effects L P i.toImplementation j.toImplementation) (hec : ec.failed = false) :
    (launch L j r ec).Makes L P i :=
  ((Handler.construct_makes r hec WaitType.finish).mono hP).after he

/-! ### Steps of `mariadb_service` -/

namespace World

variable {w w' : World M} {as : List Action}

/-- The calls an action can make that may change the handle. -/
def makes (w : World M) : Action → Call → Prop
  | .initiate (.connect r), c =>
    c = .init ∨ c = .options nonblock ∨ (Request.connect r).makes c
  | .initiate r, c => w.impl.initialized = true ∧ r.makes c
  | .fire k _, c => ∃ x, w.waits[k]? = some x ∧ x.handler.expired w.impl = false ∧
      x.handler.request.resumes c
  | .call _ op, c => op.makes w.impl.toImplementation c
  | .deliver, _ | .cancel, _ | .close, _ => False

def Blank (w : World M) : Prop := ∀ x ∈ w.waits, x.handler.Blank

theorem start_blank (i : MariadbImplementation M) : (World.start i).Blank := fun x hx => by
  cases hx

theorem Marked.open_of_fresh (h : w.Marked as) {x : Wait} (hx : x ∈ w.waits)
    (hfresh : x.handler.expired w.impl = false) : w.impl.initialized = true := by
  by_contra hclosed
  have hmem : (x.id, x.handler.token) ∈ w.stamps :=
    List.mem_map_of_mem (f := fun x : Wait => (x.id, x.handler.token)) hx
  have hlt := h.stamped.stale (Bool.eq_false_iff.mpr hclosed) _ hmem
  have htoken : x.handler.token = w.impl.cancelationToken := by simpa [Handler.expired] using hfresh
  have hle := ((h.stamped.stamp _ hmem).2).mp htoken
  omega

theorem initiate_makes (L : Library M) (w : World M) (r : Request) :
    (MariadbService.initiate L w.impl r).Makes L (w.makes (.initiate r)) w.impl := by
  -- of the requests only a connect changes the connector before it is launched
  let I : MariadbImplementation M → Prop := fun j =>
    Effects L (w.makes (.initiate r)) w.impl.toImplementation j.toImplementation ∧
      ((∀ c, r ≠ .connect c) → j = w.impl)
  have hopen : ∀ c, r = .connect c →
      I (w.impl.update (MariadbService.open L w.impl.toImplementation .clear).impl) := by
    rintro c rfl
    exact ⟨open_effects L w.impl.toImplementation .clear (.inl rfl), fun hr => absurd rfl (hr c)⟩
  have hset : ∀ c, r = .connect c → ∀ j, I j →
      I (j.update (setOption L j.toImplementation nonblockDefault .clear).impl) := by
    rintro c rfl j ⟨he, -⟩
    refine ⟨he.trans ?_, fun hr => absurd rfl (hr c)⟩
    exact (perform_effects .mariadb L j.toImplementation .clear
      (.setOption nonblockDefault)).mono fun d hd => .inr (.inl hd)
  obtain ⟨j, ⟨he, hsame⟩, ⟨o, -, heq⟩ | ⟨hinit, ec, hec, heq⟩⟩ :=
    initiate_cases L (I := I) ⟨.refl _, fun _ => rfl⟩ r hopen hset
  · rw [heq]
    exact he
  · rw [heq]
    refine launch_makes (fun d hd => ?_) he hec
    cases r with
    | connect c => exact .inr (.inr hd)
    | query s => exact ⟨hsame (fun c hc => by cases hc) ▸ hinit, hd⟩
    | storeResult => exact ⟨hsame (fun c hc => by cases hc) ▸ hinit, hd⟩
    | queryResult s => exact ⟨hsame (fun c hc => by cases hc) ▸ hinit, hd⟩

theorem settle_makes {n : Nat} {i : MariadbImplementation M} {t : Turn M Handler}
    (h : t.Makes L P Handler.Blank i) (hw : w.impl = i) (hb : w.Blank) :
    Effects L P i.toImplementation (w.settle n t).impl.toImplementation ∧
      (w.settle n t).Blank := by
  subst hw
  cases t with
  | wait j p on =>
    refine ⟨h.1, fun x hx => ?_⟩
    rcases List.mem_append.mp hx with hx | hx
    · exact hb x hx
    · obtain rfl := List.mem_singleton.mp hx
      exact h.2
  | dropped j => exact ⟨h, hb⟩
  | invoke j o => exact ⟨h, hb⟩
  | assertion => exact ⟨.refl _, hb⟩
  | spinning => exact ⟨.refl _, hb⟩

/-- **What a step of `mariadb_service` does to the connector.** -/
theorem Marked.change (h : w.Marked as) (hb : w.Blank) {a : Action}
    (hstep : w.step L a = some w') :
    Change L (w.makes a) w.impl.toImplementation w'.impl.toImplementation ∧ w'.Blank := by
  cases a with
  | initiate r =>
    cases hstep
    have hm := initiate_makes L w r
    unfold World.initiate
    cases hs : MariadbService.initiate L w.impl r with
    | posted j o =>
      rw [hs] at hm
      exact ⟨.effects hm, hb⟩
    | ran t =>
      rw [hs] at hm
      obtain ⟨he, hb'⟩ := settle_makes (w := { w with next := w.next + 1 }) (n := w.next) hm rfl hb
      exact ⟨.effects he, hb'⟩
  | fire k ec =>
    obtain ⟨x, hx, rfl⟩ := World.step_fire hstep
    have hmem : x ∈ w.waits := List.mem_of_getElem? hx
    have hb1 : World.Blank { w with waits := w.waits.eraseIdx k } :=
      fun y hy => hb y (List.mem_of_mem_eraseIdx hy)
    cases hck : (checkToken x.handler.token w.impl ec).failed with
    | true =>
      rw [Handler.call_stopped hck]
      exact ⟨.refl _, hb1⟩
    | false =>
      obtain ⟨c, hr⟩ := h.sound.resting x hmem
      have hfresh : x.handler.expired w.impl = false := by
        simpa [Handler.expired] using (token_of_checkToken hck).1
      have hm := (Handler.resumed_makes (L := L) hr (hb x hmem) hck x.on.status).mono
        (R := w.makes (.fire k ec)) fun c hc => ⟨x, hx, hfresh, hc⟩
      obtain ⟨he, hb'⟩ := settle_makes (w := { w with waits := w.waits.eraseIdx k })
        (n := x.id) hm rfl hb1
      exact ⟨.effects he, hb'⟩
  | deliver =>
    obtain ⟨c, cs, hp, rfl⟩ := World.step_deliver hstep
    exact ⟨.refl _, hb⟩
  | cancel => cases hstep; exact ⟨.cancel, hb⟩
  | close =>
    cases hstep
    refine ⟨?_, hb⟩
    split_ifs with hopen
    · exact .close hopen
    · exact .refl _
  | call ec op =>
    cases hstep
    exact ⟨.effects (perform_effects .mariadb L w.impl.toImplementation ec op), hb⟩

end World

end MariadbService

end Amy
