import Amy.Changes

/-!
# The stored flags and the live session

`connect` stores the flags it was asked for whether or not the library made a
session with them. `Sessions L est pending`: `est m` are the flags of the session of
handle `m` and `pending m` those of a connect that is suspended on it. The
stored flags are those of the session in every run whose connects ask for the
flags of the session they find (`Fitting`), and there a connect on a live
session changes nothing that `has_more_results` answers.
-/

namespace Amy

open Base

variable {M : Type} {L : Library M} {P : Call → Prop} {est pending : M → Option UInt64}
  {asked : Option UInt64} {i j : Implementation M}

/-- The session stays or is lost. -/
def Weaker (f' f : Option UInt64) : Prop := f' = f ∨ f' = none

structure Sessions (L : Library M) (est pending : M → Option UInt64) : Prop where
  init : ∀ {m m'}, L.init m = some m' → est m' = none ∧ pending m' = none
  makes : ∀ {c m m'}, L.Makes c m m' → Weaker (est m') (est m) ∧ Weaker (pending m') (pending m)
  stores : ∀ {c m r m'}, L.Stores c m r m' →
    Weaker (est m') (est m) ∧ Weaker (pending m') (pending m)
  fetchNull : ∀ r m, Weaker (est (L.fetchNull r m)) (est m) ∧
    Weaker (pending (L.fetchNull r m)) (pending m)
  /-- A connect leaves the session, loses it, or makes one with its flags, now or later. -/
  connects : ∀ {args c m m'}, L.Connects args c m m' →
    (Weaker (est m') (est m) ∨ est m' = some args.clientFlag) ∧
      (Weaker (pending m') (pending m) ∨ pending m' = some args.clientFlag)
  connectCont : ∀ w m, (Weaker (est (L.connectCont w m).st) (est m) ∨
      est (L.connectCont w m).st = pending m) ∧
    Weaker (pending (L.connectCont w m).st) (pending m)

/-! ## Effects -/

/-- The flags a call that connects asks for. -/
def Call.connectFlags? : Call → Option UInt64
  | .realConnect a => some a.clientFlag
  | .start (.realConnect a) _ => some a.clientFlag
  | _ => none

theorem Library.Connects.flags {args : ConnectArgs} {c : Call} {m m' : M}
    (h : L.Connects args c m m') : c.connectFlags? = some args.clientFlag := by
  cases h <;> rfl

/-- `f` are the flags of the session of `m`, and of one that is pending. -/
def Agrees (est pending : M → Option UInt64) (m : M) (f : UInt64) : Prop :=
  ∀ g, est m = some g ∨ pending m = some g → f = g

theorem Agrees.weaker {m m' : M} {f : UInt64} (h : Agrees est pending m f)
    (he : Weaker (est m') (est m)) (hp : Weaker (pending m') (pending m)) :
    Agrees est pending m' f := by
  rintro g (hg | hg)
  · rcases he with he | he
    · exact h g (.inl (he ▸ hg))
    · rw [he] at hg
      cases hg
  · rcases hp with hp | hp
    · exact h g (.inr (hp ▸ hg))
    · rw [hp] at hg
      cases hg

theorem agrees_of_none {m : M} (he : est m = none) (hp : pending m = none) (f : UInt64) :
    Agrees est pending m f := by
  rintro g (hg | hg)
  · rw [he] at hg
    cases hg
  · rw [hp] at hg
    cases hg

/-- The flags stored, and those that are asked for, are the session's. -/
structure Fits (est pending : M → Option UInt64) (asked : Option UInt64) (i : Implementation M) :
    Prop where
  stored : i.initialized = true → Agrees est pending i.mysql.st i.flags
  asked : ∀ f ∈ asked, i.initialized = true → Agrees est pending i.mysql.st f

namespace Fits

theorem closed (h : i.initialized = false) : Fits est pending asked i := by
  have hno : ¬ i.initialized = true := by simp [h]
  exact ⟨fun ho => absurd ho hno, fun _ _ ho => absurd ho hno⟩

theorem weaker (h : Fits est pending asked i) (ho : j.initialized = true → i.initialized = true)
    (hf : j.flags = i.flags) (he : Weaker (est j.mysql.st) (est i.mysql.st))
    (hp : Weaker (pending j.mysql.st) (pending i.mysql.st)) : Fits est pending asked j :=
  ⟨fun hj => hf ▸ (h.stored (ho hj)).weaker he hp,
    fun f hf hj => (h.asked f hf (ho hj)).weaker he hp⟩

/-- A connect for flags that agree with the session keeps the flags in step with it. -/
theorem connects (h : Fits est pending asked i) {f : UInt64} (hf : asked = some f) {m' : M}
    (he : Weaker (est m') (est i.mysql.st) ∨ est m' = some f)
    (hp : Weaker (pending m') (pending i.mysql.st) ∨ pending m' = some f)
    (ho : j.initialized = i.initialized) (hst : j.mysql.st = m') (hj : j.flags = f) :
    Fits est pending asked j := by
  have hagrees : j.initialized = true → Agrees est pending j.mysql.st f := by
    intro hopen g hg
    have hold := h.asked f hf (ho ▸ hopen) g
    rw [hst] at hg
    rcases hg with hg | hg
    · rcases he with (he | he) | he
      · exact hold (.inl (he ▸ hg))
      · rw [he] at hg; cases hg
      · exact Option.some_inj.mp (he.symm.trans hg)
    · rcases hp with (hp | hp) | hp
      · exact hold (.inr (hp ▸ hg))
      · rw [hp] at hg; cases hg
      · exact Option.some_inj.mp (hp.symm.trans hg)
  refine ⟨fun hopen => hj ▸ hagrees hopen, fun f' hf' hopen => ?_⟩
  obtain rfl : f = f' := Option.some_inj.mp (hf.symm.trans hf')
  exact hagrees hopen

theorem effect (h : Fits est pending asked i) (hS : Sessions L est pending) {c : Option Call}
    (he : Effect L i c j)
    (hasks : ∀ d f, c = some d → d.connectFlags? = some f → asked = some f) :
    Fits est pending asked j := by
  cases he with
  | reads _ => exact h.weaker id rfl (.inl rfl) (.inl rfl)
  | called hm => exact h.weaker id rfl (hS.makes hm).1 (hS.makes hm).2
  | init _ hm =>
    obtain ⟨he, hp⟩ := hS.init hm
    exact ⟨fun _ => agrees_of_none he hp _, fun _ _ _ => agrees_of_none he hp _⟩
  | initFailed _ _ => exact h.weaker id rfl (.inl rfl) (.inl rfl)
  | connects hm =>
    obtain ⟨he, hp⟩ := hS.connects hm
    exact h.connects (hasks _ _ rfl hm.flags) he hp rfl rfl rfl
  | connecting w hd =>
    obtain ⟨he, hp⟩ := hS.connectCont w i.mysql.st
    have hagrees : ∀ f, Agrees est pending i.mysql.st f →
        Agrees est pending (L.connectCont w i.mysql.st).st f := by
      intro f hf g hg
      rcases hg with hg | hg
      · rcases he with he | he
        · exact hf.weaker he hp g (.inl hg)
        · exact hf g (.inr (he ▸ hg))
      · rcases hp with hp | hp
        · exact hf g (.inr (hp ▸ hg))
        · rw [hp] at hg
          cases hg
    exact ⟨fun ho => hagrees _ (h.stored ho), fun f hf ho => hagrees f (h.asked f hf ho)⟩
  | stored hs =>
    exact h.weaker (by simp) (by simp) (by simpa using (hS.stores hs).1)
      (by simpa using (hS.stores hs).2)
  | unstored hs => exact h.weaker id rfl (hS.stores hs).1 (hS.stores hs).2
  | free => exact h.weaker (by simp) (by simp) (.inl (by simp)) (.inl (by simp))
  | @fetched r _ => exact h.weaker id rfl (hS.fetchNull r _).1 (hS.fetchNull r _).2
  | mark b => exact h.weaker id rfl (.inl rfl) (.inl rfl)

end Fits

/-- **What a step does to the flags**, where its connects ask for the session's. -/
theorem Change.fits (h : Change L P i j) (hS : Sessions L est pending)
    (hasks : ∀ c f, P c → c.connectFlags? = some f → asked = some f)
    (hi : Fits est pending asked i) : Fits est pending asked j := by
  cases h with
  | effects he =>
    exact he.invariant hi fun _ c _ hk hkl hc => hk.effect hS hkl fun d f hd => hasks d f (hc d hd)
  | cancel => exact ⟨hi.stored, hi.asked⟩
  | close _ => exact .closed (i.close_initialized L)

/-! ## Connects on a live session -/

/-- Documented of `mysql_real_connect` on a handle that is connected: it fails
and leaves the session and its results as they were, as setting an option does. -/
structure Exclusive (L : Library M) (est : M → Option UInt64) : Prop where
  connects : ∀ {args c m m' g}, L.Connects args c m m' → est m = some g →
    est m' = some g ∧ L.fieldCount m' = L.fieldCount m ∧ L.moreResults m' = L.moreResults m
  options : ∀ o m, est (L.options o m).2 = est m ∧
    L.fieldCount (L.options o m).2 = L.fieldCount m ∧
    L.moreResults (L.options o m).2 = L.moreResults m

/-- What `has_more_results` looks at is the same. -/
structure SameAnswer (L : Library M) (i j : Implementation M) : Prop where
  initialized : j.initialized = i.initialized
  first : j.firstResultStored = i.firstResultStored
  fieldCount : L.fieldCount j.mysql.st = L.fieldCount i.mysql.st
  moreResults : L.moreResults j.mysql.st = L.moreResults i.mysql.st

theorem SameAnswer.hasMoreResults (h : SameAnswer L i j) (hf : j.flags = i.flags) :
    (Service.hasMoreResults L j).1 = (Service.hasMoreResults L i).1 :=
  Service.hasMoreResults_congr h.initialized (by rw [hf]) h.first h.fieldCount h.moreResults

theorem connectOpen_live (hE : Exclusive L est) {g : UInt64} (hg : est i.mysql.st = some g)
    (r : ConnectRequest) (ec : ErrorCode) :
    SameAnswer L i (Service.connectOpen L i r ec).impl ∧
      est (Service.connectOpen L i r ec).impl.mysql.st = some g := by
  obtain ⟨he, hf, hm⟩ := hE.connects (@Library.Connects.blocking _ L r.args i.mysql.st) hg
  exact ⟨⟨rfl, rfl, hf, hm⟩, he⟩

/-! ## What an action asks for -/

def Operation.asks : Operation → Option UInt64
  | .connect r => some r.flags
  | _ => none

theorem Operation.asks_of_makes {op : Operation} {c : Call} {f : UInt64} (hc : op.makes i c)
    (hf : c.connectFlags? = some f) : op.asks = some f := by
  cases op with
  | connect r =>
    rcases hc with rfl | rfl
    · cases hf
    · exact hf
  | «open» => rw [show c = .init from hc] at hf; cases hf
  | query s => rw [hc.2] at hf; cases hf
  | storeResult => rcases hc with rfl | rfl <;> cases hf
  | queryResult s => rcases hc.2 with rfl | rfl | rfl <;> cases hf
  | setOption o => rw [show c = .options o.option from hc] at hf; cases hf
  | autocommit b => rw [show c = .autocommit b from hc] at hf; cases hf
  | commit => rw [hc.2] at hf; cases hf
  | rollback => rw [hc.2] at hf; cases hf
  | affectedRows => exact hc.elim
  | hasMoreResults => exact hc.elim
  | errorMessage e => exact hc.elim

namespace MysqlService

def Request.asks : Request → Option UInt64
  | .connect r => some r.flags
  | _ => none

theorem Request.asks_of_makes {r : Request} {c : Call} {f : UInt64} (hc : r.makes c)
    (hf : c.connectFlags? = some f) : r.asks = some f := by
  cases r with
  | connect r => rw [show c = .realConnect r.args from hc] at hf; exact hf
  | query s => rw [show c = .realQuery s from hc] at hf; cases hf
  | storeResult => rcases hc with rfl | rfl <;> cases hf

namespace World

variable {w w' : World M} {as : List Action}

/-- The flags a connect that an action makes asks for. -/
def asks (w : World M) : Action → Option UInt64
  | .work => match w.work with
    | [] => none
    | j :: _ => if j.expired w.impl then none else j.request.asks
  | .call _ op => op.asks
  | _ => none

theorem asks_of_makes {a : Action} {c : Call} {f : UInt64} (hc : w.makes a c)
    (hf : c.connectFlags? = some f) : w.asks a = some f := by
  cases a with
  | initiate r => rw [show c = .init from hc] at hf; cases hf
  | work =>
    obtain ⟨j, js, hw, hfresh, hj⟩ := hc
    simpa [asks, hw, hfresh] using Request.asks_of_makes hj hf
  | call ec op => exact op.asks_of_makes hc hf
  | deliver => exact hc.elim
  | cancel => exact hc.elim
  | close => exact hc.elim

/-- A connect asks for the flags of the session it finds. -/
def Fitting (est pending : M → Option UInt64) (w : World M) (a : Action) : Prop :=
  ∀ f ∈ w.asks a, w.impl.initialized = true → Agrees est pending w.impl.mysql.st f

theorem fits_of_run (hS : Sessions L est pending) {st : M}
    (hrun : Run (World.step L) (Fitting est pending) (.start (.construct st)) as w) :
    w.Marked as ∧ Fits est pending none w.impl := by
  refine hrun.invariantAlong (I := fun as w => w.Marked as ∧ Fits est pending none w.impl)
    ⟨start_marked _, .closed rfl⟩ fun bs u a v ⟨hm, hf⟩ hok hstep => ⟨hm.step hstep, ?_⟩
  have hfit : Fits est pending (u.asks a) u.impl := ⟨hf.stored, hok⟩
  exact ⟨((hm.change hstep).fits hS (fun c f => asks_of_makes) hfit).stored, fun _ hf => by cases hf⟩

theorem connect_live (hE : Exclusive L est) {g : UInt64}
    (hopen : w.impl.initialized = true) (hg : est w.impl.mysql.st = some g) {a : Action}
    (hasks : w.asks a ≠ none) (hstep : w.step L a = some w') :
    SameAnswer L w.impl w'.impl ∧ est w'.impl.mysql.st = some g := by
  have hconnect : ∀ (r : ConnectRequest) (ec : ErrorCode),
      Service.connect L w.impl r ec = Service.connectOpen L w.impl r ec := fun r ec => by
    simp [Service.connect, hopen]
  cases a with
  | work =>
    obtain ⟨j, js, hw, rfl⟩ := World.step_work hstep
    cases hfresh : j.expired w.impl with
    | true => simp [asks, hw, hfresh] at hasks
    | false =>
      have htoken : j.token = w.impl.cancelationToken := by simpa [Job.expired] using hfresh
      simp only [Job.run_eq_blocking htoken hopen]
      cases hr : j.request with
      | connect r =>
        simp only [blocking, Connector.connectEc_eq, hconnect]
        exact connectOpen_live hE hg r _
      | query s => simp [asks, hw, hfresh, hr, Request.asks] at hasks
      | storeResult => simp [asks, hw, hfresh, hr, Request.asks] at hasks
  | call ec op =>
    cases hstep
    cases op with
    | connect r =>
      rw [perform_connect, hconnect]
      exact connectOpen_live hE hg r ec
    | _ => exact absurd rfl hasks
  | _ => exact absurd rfl hasks

end World

end MysqlService

/-! ## Runs of `mariadb_service` -/

/-- A non-blocking call that asks for flags starts a connect for them. -/
theorem Call.connectFlags_nb {c : Call} {d : NbCall} {f : UInt64} (hc : c.nb? = some d)
    (hf : c.connectFlags? = some f) : ∃ a h, d = .realConnect a ∧ c = .start (.realConnect a) h ∧
      a.clientFlag = f := by
  cases c with
  | start d' h =>
    cases d' with
    | realConnect a =>
      cases hc
      exact ⟨a, h, rfl, rfl, Option.some_inj.mp hf⟩
    | _ => cases hf
  | cont d' w h => cases hf
  | _ => cases hc

/-- A turn from `i` leaves its session as it was. -/
def Turn.Keeps {Q : Type} (L : Library M) (est : M → Option UInt64) (g : UInt64)
    (i : Implementation M) : Turn M Q → Prop
  | .wait j _ _ | .dropped j | .invoke j _ =>
    SameAnswer L i j.toImplementation ∧ est j.mysql.st = some g
  | .assertion | .spinning => True

theorem Turn.Keeps.map {Q R : Type} {g : UInt64} {t : Turn M Q} (h : t.Keeps L est g i)
    (f : Q → R) : (t.map f).Keeps L est g i := by
  cases t <;> exact h

namespace MariadbService

theorem Single.turn_keeps {R : Type} [ReturnType R] {p : Single R} {j : MariadbImplementation M}
    {a : NbAnswer M R} {g : UInt64} (h : SameAnswer L i j.toImplementation)
    (hg : est j.mysql.st = some g) : (Single.turn L p j a).Keeps L est g i := by
  unfold turn
  simp only [asyncWaitMysql_eq]
  split_ifs
  · exact ⟨h, hg⟩
  · obtain ⟨log, ev, hw, -⟩ := waitingFor_eq L a.status j
    rw [hw]
    cases WaitFor.of a.status <;>
      exact ⟨⟨h.initialized, h.first, h.fieldCount, h.moreResults⟩, hg⟩

theorem launch_connect_live {j : MariadbImplementation M} (hE : Exclusive L est)
    (h : SameAnswer L i j.toImplementation) {g : UInt64} (hg : est j.mysql.st = some g)
    (r : ConnectRequest) {ec : ErrorCode} (hec : ec.failed = false) :
    ∃ t, launch L j (.connect r) ec = .ran t ∧ t.Keeps L est g i := by
  have hc : (checkToken j.cancelationToken j ec).failed = false := by rwa [checkToken_of_eq rfl]
  obtain ⟨he, hf, hm⟩ := hE.connects (@Library.Connects.start _ L r.args
    (heard L none (L.connectStart r.args j.mysql.st)) j.mysql.st) hg
  refine ⟨_, rfl, Turn.Keeps.map ?_ _⟩
  unfold connectHandler
  rw [Single.call_start rfl hc]
  exact Single.turn_keeps ⟨h.initialized, h.first, hf.trans h.fieldCount, hm.trans h.moreResults⟩ he

theorem initiate_connect_live {i : MariadbImplementation M} (hE : Exclusive L est) {g : UInt64}
    (hopen : i.initialized = true) (hg : est i.mysql.st = some g) (r : ConnectRequest) :
    (∃ j o, initiate L i (.connect r) = .posted j o ∧
      SameAnswer L i.toImplementation j.toImplementation ∧ est j.mysql.st = some g) ∨
    ∃ t, initiate L i (.connect r) = .ran t ∧ t.Keeps L est g i.toImplementation := by
  obtain ⟨he, hf, hm⟩ := hE.options nonblockDefault i.mysql.st
  set k := i.update (Service.applyOption L i.toImplementation nonblockDefault .clear).impl with hk
  have hsame : SameAnswer L i.toImplementation k.toImplementation := ⟨rfl, rfl, hf, hm⟩
  have hgk : est k.mysql.st = some g := he.trans hg
  simp only [initiate, asyncConnect, hopen, asyncConnectOpen, setOption, Bool.not_true,
    Bool.false_eq_true, if_false, ← hk]
  split_ifs with hec
  · exact .inl ⟨k, _, rfl, hsame, hgk⟩
  · exact .inr (launch_connect_live hE hsame hgk r (Bool.eq_false_iff.mpr hec))

namespace World

variable {w w' : World M} {as : List Action}

def asks : Action → Option UInt64
  | .initiate (.connect r) => some r.flags
  | .call _ op => op.asks
  | _ => none

theorem asks_of_makes {a : Action} {c : Call} {f : UInt64} (hc : w.makes a c)
    (hf : c.connectFlags? = some f) : asks a = some f := by
  -- no other handler starts a connect
  have hother : ∀ {r : Request}, (∀ c, r ≠ .connect c) → r.makes c → asks a = some f := by
    intro r hr hm
    cases r with
    | connect c => exact absurd rfl (hr c)
    | query s =>
      obtain ⟨_, _, hd, -⟩ := Call.connectFlags_nb hm hf
      cases hd
    | storeResult =>
      rcases hm with hm | hm <;>
      · obtain ⟨_, _, hd, -⟩ := Call.connectFlags_nb hm hf
        cases hd
    | queryResult s =>
      rcases hm with hm | hm <;>
      · obtain ⟨_, _, hd, -⟩ := Call.connectFlags_nb hm hf
        cases hd
  cases a with
  | initiate r =>
    cases r with
    | connect r =>
      rcases hc with rfl | rfl | hc
      · cases hf
      · cases hf
      · obtain ⟨_, _, hd, -, hflags⟩ := Call.connectFlags_nb hc hf
        cases hd
        exact congrArg some hflags
    | query s => exact hother (by simp) hc.2
    | storeResult => exact hother (by simp) hc.2
    | queryResult s => exact hother (by simp) hc.2
  | fire k ec =>
    obtain ⟨x, -, -, hx⟩ := hc
    cases hr : x.handler.request with
    | connect r =>
      rw [hr] at hx
      obtain ⟨_, _, rfl⟩ := hx
      cases hf
    | query s => rw [hr] at hx; exact hother (r := .query s) (by simp) hx
    | storeResult => rw [hr] at hx; exact hother (r := .storeResult) (by simp) hx
    | queryResult s => rw [hr] at hx; exact hother (r := .queryResult s) (by simp) hx
  | call ec op => exact op.asks_of_makes hc hf
  | deliver => exact hc.elim
  | cancel => exact hc.elim
  | close => exact hc.elim

def Fitting (est pending : M → Option UInt64) (w : World M) (a : Action) : Prop :=
  ∀ f ∈ asks a, w.impl.initialized = true → Agrees est pending w.impl.mysql.st f

theorem fits_of_run (hS : Sessions L est pending) {st : M}
    (hrun : Run (World.step L) (Fitting est pending)
      (.start (MariadbImplementation.construct st)) as w) :
    Fits est pending none w.impl.toImplementation := by
  refine (hrun.invariantAlong (I := fun as w => w.Marked as ∧ w.Blank ∧
    Fits est pending none w.impl.toImplementation)
    ⟨start_marked st, start_blank _, .closed rfl⟩
    fun bs u a v ⟨hm, hb, hf⟩ hok hstep => ?_).2.2
  have hfit : Fits est pending (asks a) u.impl.toImplementation := ⟨hf.stored, hok⟩
  obtain ⟨hchange, hb'⟩ := hm.change hb hstep
  exact ⟨hm.step hstep, hb',
    (hchange.fits hS (fun c f => asks_of_makes) hfit).stored, fun _ hf => by cases hf⟩

theorem connect_live (hE : Exclusive L est) {g : UInt64}
    (hopen : w.impl.initialized = true) (hg : est w.impl.mysql.st = some g) {a : Action}
    (hasks : asks a ≠ none) (hstep : w.step L a = some w') :
    SameAnswer L w.impl.toImplementation w'.impl.toImplementation ∧
      est w'.impl.mysql.st = some g := by
  cases a with
  | initiate r =>
    cases r with
    | connect r =>
      cases hstep
      unfold World.initiate
      rcases initiate_connect_live hE hopen hg r with ⟨j, o, hj, hs⟩ | ⟨t, ht, hs⟩
      · rw [hj]
        exact hs
      · rw [ht]
        -- a turn that does not come back leaves the connector alone
        cases t with
        | wait j h on => exact hs
        | dropped j => exact hs
        | invoke j o => exact hs
        | assertion => exact ⟨⟨rfl, rfl, rfl, rfl⟩, hg⟩
        | spinning => exact ⟨⟨rfl, rfl, rfl, rfl⟩, hg⟩
    | _ => exact absurd rfl hasks
  | call ec op =>
    cases hstep
    cases op with
    | connect r =>
      have hconnect : Service.connect L w.impl.toImplementation r ec =
          Service.connectOpen L w.impl.toImplementation r ec := by
        simp [Service.connect, hopen]
      rw [perform_connect, hconnect]
      exact connectOpen_live hE hg r ec
    | _ => exact absurd rfl hasks
  | _ => exact absurd rfl hasks

end World

end MariadbService

/-! ## Both services -/

theorem Fits.flags (h : Fits est pending none i) (hopen : i.initialized = true) {f : UInt64}
    (hf : est i.mysql.st = some f) : i.flags = f := h.stored hopen f (.inl hf)

/-- **The stored flags are those of the live session**, in every state of every
run of either service whose connects ask for the flags of the session they
find; and no such connect changes what `has_more_results` answers on it. -/
theorem flags_of_session (hS : Sessions L est pending) (hE : Exclusive L est) {st : M} :
    (∀ as w, Run (MysqlService.World.step L) (MysqlService.World.Fitting est pending)
        (.start (.construct st)) as w → w.impl.initialized = true →
      ∀ f, est w.impl.mysql.st = some f → w.impl.flags = f ∧
        ∀ a w', w.asks a ≠ none → w.Fitting est pending a → w.step L a = some w' →
          (Service.hasMoreResults L w'.impl).1 = (Service.hasMoreResults L w.impl).1) ∧
    (∀ as w, Run (MariadbService.World.step L) (MariadbService.World.Fitting est pending)
        (.start (MariadbImplementation.construct st)) as w → w.impl.initialized = true →
      ∀ f, est w.impl.mysql.st = some f → w.impl.flags = f ∧
        ∀ a w', MariadbService.World.asks a ≠ none → w.Fitting est pending a →
          w.step L a = some w' →
          (Service.hasMoreResults L w'.impl.toImplementation).1 =
            (Service.hasMoreResults L w.impl.toImplementation).1) := by
  constructor
  · intro as w hrun hopen f hf
    have hflags := (MysqlService.World.fits_of_run hS hrun).2.flags hopen hf
    refine ⟨hflags, fun a w' hasks hok hstep => ?_⟩
    obtain ⟨hsame, hf'⟩ := MysqlService.World.connect_live hE hopen hf hasks hstep
    refine hsame.hasMoreResults ?_
    rw [hflags]
    exact (MysqlService.World.fits_of_run hS (hrun.snoc hok hstep)).2.flags
      (hsame.initialized.trans hopen) hf'
  · intro as w hrun hopen f hf
    have hflags := (MariadbService.World.fits_of_run hS hrun).flags hopen hf
    refine ⟨hflags, fun a w' hasks hok hstep => ?_⟩
    obtain ⟨hsame, hf'⟩ := MariadbService.World.connect_live hE hopen hf hasks hstep
    refine hsame.hasMoreResults ?_
    rw [show w.impl.toImplementation.flags = f from hflags]
    exact (MariadbService.World.fits_of_run hS (hrun.snoc hok hstep)).flags
      (hsame.initialized.trans hopen) hf'

/-! ## A library that connects a handle once -/

namespace Script

/-- A connect on a connected handle fails and leaves everything as it is. -/
def exclusiveConnect (a : ConnectArgs) (m : Script) : Option Unit × Script :=
  if m.held.session.isSome then (none, { m with errno := 2058 })
  else realConnect { m with connecting := a.clientFlag }

/-- The scripted library, connecting a handle once and without suspensions. -/
def exclusive : Library Script :=
  { library with
    realConnect := exclusiveConnect
    connectStart := fun a m =>
      let r := exclusiveConnect a m
      ⟨0, some r.1, r.2⟩
    connectCont := fun _ m => ⟨0, some none, { m with errno := 2013 }⟩ }

def session (m : Script) : Option UInt64 := m.held.session

theorem exclusiveConnect_session (a : ConnectArgs) (m : Script) :
    Weaker (exclusiveConnect a m).2.session m.session ∨
      (exclusiveConnect a m).2.session = some a.clientFlag := by
  unfold exclusiveConnect realConnect
  split_ifs
  · exact .inl (.inl rfl)
  · exact .inl (.inl rfl)
  · exact .inr rfl

theorem realQuery_session (m : Script) : (realQuery m).2.session = m.session := by
  unfold realQuery
  split <;> rfl

theorem storeResult_session (m : Script) : (storeResult m).2.session = m.session := by
  unfold storeResult
  split <;> rfl

theorem nextResult_session (m : Script) : (nextResult m).2.session = m.session := by
  unfold nextResult
  split <;> rfl

theorem suspendable_session {R : Type} {f : Script → R × Script}
    (hf : ∀ m, (f m).2.session = m.session) (m : Script) :
    (suspendable f m).st.session = m.session := by
  unfold suspendable
  split
  · rfl
  · exact hf m

theorem exclusive_sessions : Sessions exclusive session fun _ => none where
  init h := by
    cases h
    exact ⟨rfl, rfl⟩
  makes h := by
    refine ⟨.inl ?_, .inl rfl⟩
    cases h with
    | realQuery => exact realQuery_session _
    | nextResult => exact nextResult_session _
    | queryStart => exact suspendable_session realQuery_session _
    | queryCont => exact suspendable_session realQuery_session _
    | nextStart => exact suspendable_session nextResult_session _
    | nextCont => exact suspendable_session nextResult_session _
    | storeStart => exact suspendable_session storeResult_session _
    | storeCont => exact suspendable_session storeResult_session _
    | _ => rfl
  stores h := by
    refine ⟨.inl ?_, .inl rfl⟩
    cases h with
    | blocking => exact storeResult_session _
    | start => exact suspendable_session storeResult_session _
    | cont => exact suspendable_session storeResult_session _
  fetchNull _ _ := ⟨.inl rfl, .inl rfl⟩
  connects h := by
    cases h with
    | blocking => exact ⟨exclusiveConnect_session _ _, .inl (.inl rfl)⟩
    | start => exact ⟨exclusiveConnect_session _ _, .inl (.inl rfl)⟩
  connectCont _ _ := ⟨.inl (.inl rfl), .inl rfl⟩

theorem exclusive_exclusive : Exclusive exclusive session where
  connects {_ _ m _ g} h hg := by
    have hsome : m.held.session.isSome = true := by
      rw [show m.held.session = some g from hg]
      rfl
    cases h with
    | blocking => simpa [exclusive, exclusiveConnect, hsome, library, session] using hg
    | start => simpa [exclusive, exclusiveConnect, hsome, library, session] using hg
  options _ _ := ⟨rfl, rfl, rfl⟩

/-- A session that asked for several results, and a query with two of them. -/
def multiSession : List MysqlService.Action :=
  [.call .clear (.connect (login clientMultiResults)), .call .clear (.query "select 1; select 2"),
    .call .clear .storeResult]

def twoResults : Script := { verdicts := [.batch (some oneRow) [.rows oneRow] 0] }

end Script

theorem flags_of_session_multi :
    ∃ w : MysqlService.World Script,
      exec (MysqlService.World.step Script.exclusive) (.start (.construct Script.twoResults))
        Script.multiSession = some w ∧ w.impl.flags = clientMultiResults := by
  obtain ⟨w1, w, h1, hrest, hopen, hf⟩ : ∃ w1 w : MysqlService.World Script,
      MysqlService.World.step Script.exclusive (.start (.construct Script.twoResults))
        (.call .clear (.connect (Script.login clientMultiResults))) = some w1 ∧
      exec (MysqlService.World.step Script.exclusive) w1
        [.call .clear (.query "select 1; select 2"), .call .clear .storeResult] = some w ∧
      w.impl.initialized = true ∧ Script.session w.impl.mysql.st = some clientMultiResults :=
    ⟨_, _, rfl, rfl, rfl, rfl⟩
  have hfirst : Run (MysqlService.World.step Script.exclusive)
      (MysqlService.World.Fitting Script.session fun _ => none) _ _ w1 :=
    .single (fun _ _ ho => absurd ho (by decide)) h1
  -- neither a query nor `store_result` asks for flags
  have hrun := hfirst.trans (run_of_exec (fun a ha u f hf => by
    simp only [List.mem_cons, List.not_mem_nil, or_false] at ha
    rcases ha with rfl | rfl <;> cases hf) hrest)
  refine ⟨w, ?_, ((flags_of_session Script.exclusive_sessions Script.exclusive_exclusive).1 _ w
    hrun hopen _ hf).1⟩
  rw [Script.multiSession, exec, h1]
  exact hrest

/-- A connect that fails on the live session takes its flags away, and with them
the second result that `has_more_results` had announced. -/
theorem failed_connect_takes_flags :
    Sessions Script.exclusive Script.session (fun _ => none) ∧
    Exclusive Script.exclusive Script.session ∧
    ∃ w w' : MysqlService.World Script,
      Run (MysqlService.World.step Script.exclusive) anyStep (.start (.construct Script.twoResults))
        Script.multiSession w ∧
      w.step Script.exclusive (.call .clear (.connect (Script.login defaultFlags))) = some w' ∧
      Script.session w'.impl.mysql.st = some clientMultiResults ∧
      w'.impl.flags = defaultFlags ∧
      (Service.hasMoreResults Script.exclusive w.impl).1 = true ∧
      (Service.hasMoreResults Script.exclusive w'.impl).1 = false := by
  obtain ⟨w, w', hw, hw', h⟩ : ∃ w w' : MysqlService.World Script,
      exec (MysqlService.World.step Script.exclusive) (.start (.construct Script.twoResults))
        Script.multiSession = some w ∧
      w.step Script.exclusive (.call .clear (.connect (Script.login defaultFlags))) = some w' ∧
      Script.session w'.impl.mysql.st = some clientMultiResults ∧
      w'.impl.flags = defaultFlags ∧
      (Service.hasMoreResults Script.exclusive w.impl).1 = true ∧
      (Service.hasMoreResults Script.exclusive w'.impl).1 = false :=
    ⟨_, _, rfl, rfl, rfl, rfl, rfl, rfl⟩
  exact ⟨Script.exclusive_sessions, Script.exclusive_exclusive, w, w',
    run_of_exec (fun _ _ _ => trivial) hw, hw', h⟩

end Amy
