import Amy.Changes

/-!
# Handles prepared for non-blocking calls

A `_start` call needs the context that `MYSQL_OPT_NONBLOCK` allocates, and
`mysql_init` forgets it. `Context L prepared crashed`: `prepared` says whether
the handle has it and `crashed` whether a `_start` was ever made without.
`async_connect` sets the option and goes on unless the library leaves an errno;
the other operations test only whether the connector is open. A run is safe if
whoever initiates them has seen to the option (`starts_prepared`).
-/

namespace Amy

open Base

variable {M Q : Type} {L : Library M} {P : Call → Prop} {prepared crashed : M → Bool}

def Call.starts : Call → Bool
  | .start _ _ => true
  | _ => false

structure Context (L : Library M) (prepared crashed : M → Bool) : Prop where
  init : ∀ {m m'}, L.init m = some m' → prepared m' = false ∧ crashed m' = crashed m
  close : ∀ m, crashed (L.close m) = crashed m
  option_set : ∀ m, (L.options MariadbService.nonblockDefault m).1 = 0 →
    prepared (L.options MariadbService.nonblockDefault m).2 = true
  steps : ∀ {c m m'}, L.Steps c m m' →
    crashed m' = (crashed m || c.starts && !prepared m) ∧
      (prepared m = true → prepared m' = true)
  fetchNull : ∀ r m, prepared (L.fetchNull r m) = prepared m ∧ crashed (L.fetchNull r m) = crashed m

/-! ## Effects on a handle -/

section Effects

variable {i j : Implementation M}

/-- What can be said of a handle on which calls may start. -/
def Safe (prepared crashed : M → Bool) (m : M) : Prop := prepared m = true ∧ crashed m = false

theorem Safe.effect (hctx : Context L prepared crashed) {c : Option Call} (he : Effect L i c j)
    (hopen : i.initialized = true) (h : Safe prepared crashed i.mysql.st) :
    Safe prepared crashed j.mysql.st := by
  cases c with
  | none =>
    rcases he.rests with hst | ⟨r, hst⟩
    · rw [hst]
      exact h
    · obtain ⟨hp, hc⟩ := hctx.fetchNull r i.mysql.st
      rw [hst]
      exact ⟨hp.trans h.1, hc.trans h.2⟩
  | some c =>
    rcases he.steps with ⟨-, hi, -⟩ | hs
    · rw [hopen] at hi
      cases hi
    · obtain ⟨hc, hp⟩ := hctx.steps hs
      exact ⟨hp h.1, by rw [hc, h.1, h.2]; simp⟩

/-- **A prepared handle stays so** while the connector is not closed. -/
theorem Safe.effects (hctx : Context L prepared crashed) (he : Effects L P i j)
    (hopen : i.initialized = true) (h : Safe prepared crashed i.mysql.st) :
    Safe prepared crashed j.mysql.st :=
  (he.invariant (I := fun k => Safe prepared crashed k.mysql.st ∧ k.initialized = true)
    ⟨h, hopen⟩ fun _ _ _ ⟨hk, ho⟩ hkl _ => ⟨hk.effect hctx hkl ho, hkl.opened ho⟩).1

theorem Effects.uncrashed (he : Effects L P i j) (hctx : Context L prepared crashed)
    (hP : ∀ c, P c → c.starts = false) (h : crashed i.mysql.st = false) :
    crashed j.mysql.st = false := by
  refine he.invariant (I := fun k => crashed k.mysql.st = false) h fun k c l hk hkl hc => ?_
  cases c with
  | none =>
    rcases hkl.rests with hst | ⟨r, hst⟩
    · rw [hst]
      exact hk
    · rw [hst, (hctx.fetchNull r _).2]
      exact hk
  | some c =>
    rcases hkl.steps with ⟨-, -, hm | hst⟩ | hs
    · rw [(hctx.init hm).2]
      exact hk
    · rw [hst]
      exact hk
    · rw [(hctx.steps hs).1, hk, hP c (hc c rfl)]
      rfl

end Effects

/-! ## Turns and initiating calls -/

section Turns

variable {i j : MariadbImplementation M}

/-- From `i` to `j` nothing crashed and a prepared handle is so still. -/
structure Harmless (prepared crashed : M → Bool) (i j : MariadbImplementation M) : Prop where
  crashed : crashed j.mysql.st = false
  prepared : i.initialized = true → prepared i.mysql.st = true → prepared j.mysql.st = true
  token : j.cancelationToken = i.cancelationToken

def Turn.Safe (prepared crashed : M → Bool) (i : MariadbImplementation M) : Turn M Q → Prop
  | .wait j _ _ => Harmless prepared crashed i j ∧ prepared j.mysql.st = true
  | .dropped j | .invoke j _ => Harmless prepared crashed i j
  | .assertion | .spinning => True

theorem Harmless.trans {k : MariadbImplementation M} (h1 : Harmless prepared crashed i j)
    (hopen : i.initialized = true → j.initialized = true) (h2 : Harmless prepared crashed j k) :
    Harmless prepared crashed i k :=
  ⟨h2.crashed, fun hi hp => h2.prepared (hopen hi) (h1.prepared hi hp), h2.token.trans h1.token⟩

theorem Turn.Safe.after {t : Turn M Q} (h1 : Harmless prepared crashed i j)
    (hopen : i.initialized = true → j.initialized = true) (h2 : t.Safe prepared crashed j) :
    t.Safe prepared crashed i := by
  cases t with
  | wait k p on => exact ⟨h1.trans hopen h2.1, h2.2⟩
  | dropped k => exact h1.trans hopen h2
  | invoke k o => exact h1.trans hopen h2
  | assertion => trivial
  | spinning => trivial

/-- **On a prepared handle every turn is safe.** -/
theorem Turn.Makes.safe {q : Q → Prop} {t : Turn M Q} (h : t.Makes L P q i)
    (hctx : Context L prepared crashed) (hopen : i.initialized = true)
    (hs : Amy.Safe prepared crashed i.mysql.st) : t.Safe prepared crashed i := by
  have hharmless : ∀ j : MariadbImplementation M,
      Effects L P i.toImplementation j.toImplementation →
      Harmless prepared crashed i j ∧ prepared j.mysql.st = true := fun j he =>
    have hj := hs.effects hctx he hopen
    ⟨⟨hj.2, fun _ _ => hj.1, he.token⟩, hj.1⟩
  cases t with
  | wait j p on => exact hharmless j h.1
  | dropped j => exact (hharmless j h).1
  | invoke j o => exact (hharmless j h).1
  | assertion => trivial
  | spinning => trivial

end Turns

namespace MariadbService

variable {i j : MariadbImplementation M}

/-- The first turn of an operation on an open connector makes a `_start` call:
all do but a `store_result` that finds no more results. -/
def Request.starts (L : Library M) (i : Implementation M) : Request → Bool
  | .storeResult => !i.firstResultStored || (Service.hasMoreResults L i).1
  | _ => true

/-- `async_connect`'s `set_option` on the handle sets the option or leaves an errno,
or the option is there already. -/
def Prepares (L : Library M) (prepared : M → Bool) (m : M) : Prop :=
  (L.options nonblockDefault m).1 = 0 ∨ L.errno (L.options nonblockDefault m).2 ≠ 0 ∨
    prepared m = true

/-- What a caller sees to before `r` is initiated. -/
def Request.Armed (L : Library M) (prepared : M → Bool) (i : Implementation M) : Request → Prop
  | .connect _ => (Service.open L i .clear).ec.failed = false →
      Prepares L prepared (Service.open L i .clear).impl.mysql.st
  | r => i.initialized = true → r.starts L i = true → prepared i.mysql.st = true

def Started.Safe (prepared crashed : M → Bool) (i : MariadbImplementation M) : Started M → Prop
  | .posted j _ => Harmless prepared crashed i j
  | .ran t => t.Safe prepared crashed i

theorem launch_safe (hctx : Context L prepared crashed) (h1 : Harmless prepared crashed i j)
    (hopen : j.initialized = true) (hp : prepared j.mysql.st = true) (r : Request) {ec : ErrorCode}
    (hec : ec.failed = false) : (launch L j r ec).Safe prepared crashed i :=
  ((Handler.construct_makes r hec WaitType.finish).safe hctx hopen ⟨hp, h1.crashed⟩).after h1
    fun _ => hopen

/-- `async_connect` goes on only where the option is set, now or before. -/
theorem asyncConnectOpen_safe (hctx : Context L prepared crashed)
    (h1 : Harmless prepared crashed i j) (hopen : j.initialized = true)
    (hset : Prepares L prepared j.mysql.st) (c : ConnectRequest) :
    (asyncConnectOpen L j c).Safe prepared crashed i := by
  obtain ⟨hc, hp⟩ := hctx.steps (.makes (.options nonblockDefault j.mysql.st))
  have hupdated : Harmless prepared crashed i
      (j.update (Service.applyOption L j.toImplementation nonblockDefault .clear).impl) :=
    h1.trans (fun _ => hopen) ⟨hc.trans (by rw [h1.crashed]; rfl), fun _ => hp, rfl⟩
  simp only [asyncConnectOpen, setOption, hopen, Bool.not_true, Bool.false_eq_true, if_false]
  split_ifs with hec
  · exact hupdated
  · refine launch_safe hctx hupdated hopen ?_ _ (Bool.eq_false_iff.mpr hec)
    rcases hset with h0 | herrno | hbefore
    · exact hctx.option_set j.mysql.st h0
    · by_cases h0 : (L.options nonblockDefault j.mysql.st).1 = 0
      · exact hctx.option_set j.mysql.st h0
      · exact absurd (by simp [Service.applyOption, mysqlOptions, wrapped, errorWrapper, h0, herrno]) hec
    · exact hp hbefore

theorem launch_idle (h : Request.storeResult.starts L i.toImplementation = false) :
    ∃ j o, launch L i .storeResult .clear = .ran (.invoke j o) ∧ j.mysql.st = i.mysql.st ∧
      j.cancelationToken = i.cancelationToken := by
  have hc : (checkToken i.cancelationToken i .clear).failed = false := by
    rw [checkToken_of_eq rfl]
    rfl
  simp only [Request.starts, Bool.or_eq_false_iff, Bool.not_eq_false'] at h
  have hmore : (Service.hasMoreResults L i.freeResult).1 = false := by
    rw [Service.hasMoreResults_freeResult]
    exact h.2
  refine ⟨i.update (Service.hasMoreResults L i.freeResult).2, ⟨.noMoreResults, some .emptySet⟩, ?_,
    by simp [Service.hasMoreResults_impl], by simp [Service.hasMoreResults_impl]⟩
  simp only [launch, Handler.construct, Handler.call, storeResultHandler]
  rw [Chain.call_leave rfl hc (j := i.update (Service.hasMoreResults L i.freeResult).2)
    (e := .noMoreResults) (by simp [storeResultKind, h.1, hmore])]
  rfl

/-- **An initiating call is safe** if the caller has seen to the option. -/
theorem initiate_safe (hctx : Context L prepared crashed) (h0 : crashed i.mysql.st = false)
    (r : Request) (hok : r.Armed L prepared i.toImplementation) :
    (initiate L i r).Safe prepared crashed i := by
  have hrefl : Harmless prepared crashed i i := ⟨h0, fun _ hp => hp, rfl⟩
  have hopen (h : ¬ (!i.initialized) = true) : i.initialized = true := by simpa using h
  cases r with
  | connect c =>
    have hm := open_effects (P := fun c => c = .init) L i.toImplementation .clear rfl
    have ho : Harmless prepared crashed i
        (i.update (Service.open L i.toImplementation .clear).impl) := by
      refine ⟨hm.uncrashed hctx (fun c hc => by rw [hc]; rfl) h0, fun hi hp => ?_, hm.token⟩
      rw [Service.open_initialized hi]
      exact hp
    simp only [initiate, asyncConnect]
    split_ifs with hc hec
    · exact ho
    · have hec' := Bool.eq_false_iff.mpr hec
      exact asyncConnectOpen_safe hctx ho (open_initialized hec') (hok hec') c
    · have hset := hok (by rw [Service.open_initialized (hopen hc)]; rfl)
      rw [Service.open_initialized (hopen hc)] at hset
      exact asyncConnectOpen_safe hctx hrefl (hopen hc) hset c
  | query s =>
    simp only [initiate, asyncQuery]
    split_ifs with hc
    · exact hrefl
    · exact launch_safe hctx hrefl (hopen hc) (hok (hopen hc) rfl) _ rfl
  | queryResult s =>
    simp only [initiate, asyncQueryResult]
    split_ifs with hc
    · exact hrefl
    · exact launch_safe hctx hrefl (hopen hc) (hok (hopen hc) rfl) _ rfl
  | storeResult =>
    simp only [initiate, asyncStoreResult]
    split_ifs with hc
    · exact hrefl
    · cases hs : Request.storeResult.starts L i.toImplementation with
      | true => exact launch_safe hctx hrefl (hopen hc) (hok (hopen hc) hs) _ rfl
      | false =>
        obtain ⟨j, o, hj, hst, htoken⟩ := launch_idle hs
        rw [hj]
        exact ⟨by rw [hst]; exact h0, fun _ hp => by rw [hst]; exact hp, htoken⟩

/-! ## Runs -/

namespace World

variable {w w' : World M} {as : List Action}

/-- The caller initiates an operation that will start a call only once the handle is
prepared, or will be. -/
def Armed (L : Library M) (prepared : M → Bool) (w : World M) (a : Action) : Prop :=
  ∀ r, a = .initiate r → r.Armed L prepared w.impl.toImplementation

/-- Nothing crashed, and a wait that may go on waits on a prepared handle. -/
structure Sane (prepared crashed : M → Bool) (w : World M) : Prop where
  crashed : crashed w.impl.mysql.st = false
  fresh : ∀ x ∈ w.waits, x.handler.expired w.impl = false → prepared w.impl.mysql.st = true

theorem Sane.harmless (h : w.Sane prepared crashed) (hm : w.Marked as)
    {j : MariadbImplementation M} (hj : Harmless prepared crashed w.impl j) {ws : List Wait}
    (hsub : ws ⊆ w.waits) {w' : World M} (hi : w'.impl = j) (hw : w'.waits = ws) :
    w'.Sane prepared crashed := by
  subst hi hw
  refine ⟨hj.crashed, fun x hx hfresh => ?_⟩
  have hfresh' : x.handler.expired w.impl = false := by
    simpa [Handler.expired, hj.token] using hfresh
  exact hj.prepared (hm.open_of_fresh (hsub hx) hfresh') (h.fresh x (hsub hx) hfresh')

theorem Sane.settle (h : w.Sane prepared crashed) (hm : w.Marked as) {u : World M} {id : Nat}
    {t : Turn M Handler} (ht : t.Safe prepared crashed w.impl) (hi : u.impl = w.impl)
    (hsub : u.waits ⊆ w.waits) : (u.settle id t).Sane prepared crashed := by
  cases t with
  | wait j p on => exact ⟨ht.1.crashed, fun _ _ _ => ht.2⟩
  | dropped j => exact h.harmless hm ht hsub rfl rfl
  | invoke j o => exact h.harmless hm ht hsub rfl rfl
  | assertion => exact h.harmless hm ⟨h.crashed, fun _ hp => hp, rfl⟩ hsub hi rfl
  | spinning => exact h.harmless hm ⟨h.crashed, fun _ hp => hp, rfl⟩ hsub hi rfl

theorem Sane.cut (hm : w.Marked as) {j : MariadbImplementation M}
    (hc : crashed j.mysql.st = false) (ht : j.cancelationToken = w.impl.cancelationToken + 1) :
    Sane prepared crashed { w with impl := j } := by
  refine ⟨hc, fun x hx hfresh => ?_⟩
  have hle := (hm.stamped.stamp (x.id, x.handler.token)
    (List.mem_map_of_mem (f := fun x : Wait => (x.id, x.handler.token)) hx)).1
  have heq : x.handler.token = j.cancelationToken := by simpa [Handler.expired] using hfresh
  simp only at hle
  omega

theorem Sane.step (h : w.Sane prepared crashed) (hctx : Context L prepared crashed)
    (hm : w.Marked as) (hb : w.Blank) {a : Action} (hok : w.Armed L prepared a)
    (hstep : w.step L a = some w') : w'.Sane prepared crashed := by
  cases a with
  | initiate r =>
    cases hstep
    have hs := initiate_safe hctx h.crashed r (hok r rfl)
    unfold World.initiate
    cases hr : MariadbService.initiate L w.impl r with
    | posted j o =>
      rw [hr] at hs
      exact h.harmless hm hs (fun _ hx => hx) rfl rfl
    | ran t =>
      rw [hr] at hs
      exact h.settle hm (u := { w with next := w.next + 1 }) hs rfl fun _ hx => hx
  | fire k ec =>
    obtain ⟨x, hx, rfl⟩ := World.step_fire hstep
    have hmem : x ∈ w.waits := List.mem_of_getElem? hx
    have hsub : w.waits.eraseIdx k ⊆ w.waits := fun _ hy => List.mem_of_mem_eraseIdx hy
    refine h.settle hm (u := { w with waits := w.waits.eraseIdx k }) ?_ rfl hsub
    cases hck : (checkToken x.handler.token w.impl ec).failed with
    | true =>
      rw [Handler.call_stopped hck]
      exact ⟨h.crashed, fun _ hp => hp, rfl⟩
    | false =>
      obtain ⟨c, hr⟩ := hm.sound.resting x hmem
      have hfresh : x.handler.expired w.impl = false := by
        simpa [Handler.expired] using (token_of_checkToken hck).1
      exact (Handler.resumed_makes (L := L) hr (hb x hmem) hck x.on.status).safe hctx
        (hm.open_of_fresh hmem hfresh) ⟨h.fresh x hmem hfresh, h.crashed⟩
  | deliver =>
    obtain ⟨c, cs, hp, rfl⟩ := World.step_deliver hstep
    exact ⟨h.crashed, h.fresh⟩
  | cancel =>
    cases hstep
    exact Sane.cut hm (j := w.impl.update w.impl.cancel) h.crashed rfl
  | close =>
    cases hstep
    split_ifs with hopen
    · refine Sane.cut hm (j := w.impl.close L) ?_ (Implementation.close_token _ L)
      have hst : (w.impl.close L).mysql.st = L.close w.impl.mysql.st := by
        simp [MariadbImplementation.close, Implementation.close, Implementation.cancel, hopen,
          mysqlClose]
      rw [hst, hctx.close]
      exact h.crashed
    · exact ⟨h.crashed, h.fresh⟩
  | call ec op =>
    cases hstep
    have he := perform_effects .mariadb L w.impl.toImplementation ec op
    have hstarts : ∀ c, op.makes w.impl.toImplementation c → c.starts = false := by
      intro c hc
      have hb := op.makes_blocking hc
      cases c <;> first | rfl | cases hb
    refine h.harmless hm (j := w.impl.update (perform .mariadb L w.impl.toImplementation ec op).1)
      ⟨he.uncrashed hctx hstarts h.crashed, fun hi hp => ?_, he.token⟩ (fun _ hx => hx) rfl rfl
    exact (Safe.effects hctx he hi ⟨hp, h.crashed⟩).1

end World

/-- **Every `_start` call is made on a prepared handle**, in every run in which
the caller sees to the option. -/
theorem starts_prepared (hctx : Context L prepared crashed) {st : M} (h0 : crashed st = false)
    {as : List Action} {w : World M}
    (hrun : Run (World.step L) (World.Armed L prepared)
      (.start (MariadbImplementation.construct st)) as w) :
    crashed w.impl.mysql.st = false := by
  have h := hrun.invariantAlong (I := fun as w => w.Marked as ∧ w.Blank ∧ w.Sane prepared crashed)
    ⟨World.start_marked st, World.start_blank _, h0, fun x hx => by cases hx⟩
    fun bs u a v ⟨hm, hb, hs⟩ hok hstep =>
      ⟨hm.step hstep, (hm.change hb hstep).2, hs.step hctx hm hb hok hstep⟩
  exact h.2.2.crashed

/-! ## A library that keeps the context -/

/-- Whether the handle has the context, and whether a `_start` was made without. -/
structure Kit where
  prepared : Bool := false
  crashed : Bool := false
  deriving DecidableEq

def Kit.start (k : Kit) : Kit := { k with crashed := k.crashed || !k.prepared }

/-- `L`, with the context of each handle kept beside it. -/
def withContext (L : Library M) : Library (M × Kit) :=
  { L.beside Kit with
    init := fun m => (L.init m.1).map (·, { m.2 with prepared := false })
    options := fun o m =>
      let r := L.options o m.1
      (r.1, r.2, { m.2 with prepared := m.2.prepared || r.1 == 0 && o.option == nonblock })
    connectStart := fun a m => started (L.connectStart a m.1) m.2
    queryStart := fun s m => started (L.queryStart s m.1) m.2
    storeResultStart := fun m => started (L.storeResultStart m.1) m.2
    nextResultStart := fun m => started (L.nextResultStart m.1) m.2 }
where
  started {R : Type} (a : NbAnswer M R) (k : Kit) : NbAnswer (M × Kit) R :=
    ⟨a.status, a.ret, (a.st, k.start)⟩

theorem withContext_context (L : Library M) :
    Context (withContext L) (fun m => m.2.prepared) (fun m => m.2.crashed) where
  init h := by
    obtain ⟨_, -, hm⟩ := Option.map_eq_some_iff.mp h
    rw [← hm]
    exact ⟨rfl, rfl⟩
  close _ := rfl
  option_set m h := by
    have h' : (L.options nonblockDefault m.1).1 = 0 := h
    show (m.2.prepared || (L.options nonblockDefault m.1).1 == 0 && nonblock == nonblock) = true
    rw [h']
    simp
  steps h := by
    cases h with
    | makes hm =>
      cases hm with
      | options o m =>
        exact ⟨by simp [withContext, Call.starts], fun hp => by simp [withContext, hp]⟩
      | _ => simp [withContext, Library.beside, Library.beside.blocking,
          Library.beside.suspendable, withContext.started, Kit.start, Call.starts]
    | stores hs => cases hs <;> simp [withContext, Library.beside, Library.beside.blocking,
        Library.beside.suspendable, withContext.started, Kit.start, Call.starts]
    | connects hc => cases hc <;> simp [withContext, Library.beside, Library.beside.blocking,
        Library.beside.suspendable, withContext.started, Kit.start, Call.starts]
    | connecting => simp [withContext, Library.beside, Library.beside.suspendable, Call.starts]
  fetchNull _ _ := ⟨rfl, rfl⟩

theorem starts_prepared_connected :
    ∃ w : World (Script × Kit), w.invoked = [⟨0, .clear, none⟩, ⟨1, .clear, none⟩] ∧
      w.impl.mysql.st.2.crashed = false := by
  obtain ⟨w1, w, h1, hp, h2, hinv⟩ : ∃ w1 w : World (Script × Kit),
      World.step (withContext Script.library) (.start (MariadbImplementation.construct ({}, {})))
        (.initiate (.connect (Script.login defaultFlags))) = some w1 ∧
      w1.impl.mysql.st.2.prepared = true ∧
      World.step (withContext Script.library) w1 (.initiate (.query "do 1")) = some w ∧
      w.invoked = [⟨0, .clear, none⟩, ⟨1, .clear, none⟩] := ⟨_, _, rfl, rfl, rfl, by decide⟩
  have hfirst : Run (World.step (withContext Script.library))
      (World.Armed (withContext Script.library) fun m => m.2.prepared) _ _ w1 :=
    .single (fun r hr => by cases hr; exact fun _ => .inl rfl) h1
  exact ⟨w, hinv, starts_prepared (withContext_context Script.library) rfl
    (hfirst.snoc (fun r hr => by cases hr; exact fun _ _ => hp) h2)⟩

/-- Connected by `connect`, a connector starts a query on a handle that was never
prepared. -/
theorem query_starts_unprepared :
    Context (withContext Script.library) (fun m => m.2.prepared) (fun m => m.2.crashed) ∧
    ∃ w : World (Script × Kit),
      Run (World.step (withContext Script.library)) anyStep
        (.start (MariadbImplementation.construct ({}, {})))
        [.call .clear (.connect (Script.login defaultFlags)), .initiate (.query "do 1")] w ∧
      w.impl.mysql.st.2.crashed = true := by
  refine ⟨withContext_context Script.library, ?_⟩
  obtain ⟨w, hw, h⟩ : ∃ w : World (Script × Kit),
      exec (World.step (withContext Script.library))
        (.start (MariadbImplementation.construct ({}, {})))
        [.call .clear (.connect (Script.login defaultFlags)), .initiate (.query "do 1")] = some w ∧
      w.impl.mysql.st.2.crashed = true := ⟨_, rfl, rfl⟩
  exact ⟨w, run_of_exec (fun _ _ _ => trivial) hw, h⟩

end MariadbService

end Amy
