import Amy.Ownership
import Amy.Base.Brackets

/-!
# Sessions on the native handle

A connector initialises its native handle, uses it and closes it, and may
initialise it again: `InSession free opened i`. Its calls are `Base.Bracketed`,
and of the handles that `mysql_init` returned (`opened`) each is closed once,
but for the one that is open. The destructor closes that.

A handle is used in a session only, but for what the four blocking operations
that do not ask whether the connector is open make of it (`Operation.unguarded`).
A result is freed outside one too, which takes no handle (`UsedLive`).
-/

namespace Amy

open Base

variable {M : Type} {L : Library M} {P free : Call → Prop} {opened : M → Nat}
  {i j : Implementation M}

/-- `opened m` counts the handles `mysql_init` has returned. -/
structure CountsOpened (L : Library M) (opened : M → Nat) : Prop where
  init : ∀ {m m'}, L.init m = some m' → opened m' = opened m + 1
  close : ∀ m, opened (L.close m) = opened m
  steps : ∀ {c m m'}, L.Steps c m m' → opened m' = opened m
  fetchNull : ∀ r m, opened (L.fetchNull r m) = opened m

def Call.frees (c : Call) : Prop := ∃ p, c = .freeResult p

/-- Calls that neither initialise a handle nor close one. -/
def Call.plain (c : Call) : Prop := c ≠ .init ∧ c ≠ .close

theorem Call.plain_reads {c : Call} (h : c.reads = true) : c.plain := by
  constructor <;> rintro rfl <;> cases h

theorem Library.Steps.plain {c : Call} {m m' : M} (h : L.Steps c m m') : c.plain := by
  constructor <;> rintro rfl <;> rcases h with (⟨⟨⟩⟩ | ⟨⟨⟩⟩ | ⟨⟨⟩⟩)

structure InSession (free : Call → Prop) (opened : M → Nat) (i : Implementation M) : Prop where
  trace : Bracketed (· = Call.init) (· = Call.close) free i.mysql.calls i.initialized
  count : opened i.mysql.st = i.mysql.calls.count .close + i.initialized.toNat

/-- What may be done on `i`: anything once it is open, and what is free. -/
def Allows (free : Call → Prop) (i : Implementation M) : Prop :=
  i.initialized = true ∨ ∀ c : Call, c.plain → free c

namespace InSession

theorem construct (st : M) (h0 : opened st = 0) : InSession free opened (.construct st) :=
  ⟨.nil, h0⟩

theorem congr (h : InSession free opened i) (hc : j.mysql.calls = i.mysql.calls)
    (hst : opened j.mysql.st = opened i.mysql.st) (ho : j.initialized = i.initialized) :
    InSession free opened j := by
  refine ⟨?_, ?_⟩
  · rw [hc, ho]
    exact h.trace
  · rw [hc, ho, hst]
    exact h.count

theorem call (h : InSession free opened i) {c : Call} (hc : c.plain)
    (hok : i.initialized = true ∨ free c) (hcalls : j.mysql.calls = i.mysql.calls ++ [c])
    (hst : opened j.mysql.st = opened i.mysql.st) (ho : j.initialized = i.initialized) :
    InSession free opened j := by
  refine ⟨?_, ?_⟩
  · rw [hcalls, ho]
    rcases hok with hopen | hfree
    · have htrace := h.trace
      rw [hopen] at htrace ⊢
      exact .used htrace hc.2
    · exact .free h.trace hfree hc.2
  · rw [hcalls, ho, hst, List.count_append, List.count_singleton, h.count]
    simp [hc.2]

theorem resetResult (h : InSession free opened i) (hfree : ∀ c : Call, c.frees → free c)
    (p : Option MysqlRes) : InSession free opened (i.resetResult p) := by
  unfold Implementation.resetResult
  cases i.lastResult with
  | none => exact h.congr rfl rfl rfl
  | some r =>
    have hfrees : Call.frees (.freeResult r.ptr) := ⟨r.ptr, rfl⟩
    refine h.call (c := .freeResult r.ptr) ⟨?_, ?_⟩ (.inr (hfree _ hfrees)) rfl rfl rfl
    · exact Call.noConfusion
    · exact Call.noConfusion

theorem init (h : InSession free opened i) (hC : CountsOpened L opened) {st : M}
    (hi : i.initialized = false) (hm : L.init i.mysql.st = some st) :
    InSession free opened { i with mysql := i.mysql.call .init st, initialized := true } := by
  obtain ⟨htrace, hcount⟩ := h
  rw [hi] at htrace hcount
  refine ⟨.opened true htrace rfl, ?_⟩
  show opened st = (i.mysql.calls ++ [Call.init]).count .close + 1
  rw [hC.init hm, hcount]
  simp [List.count_append]

theorem initFailed (h : InSession free opened i) (hi : i.initialized = false) :
    InSession free opened { i with mysql := i.mysql.read .init } := by
  obtain ⟨htrace, hcount⟩ := h
  refine ⟨?_, ?_⟩
  · show Bracketed _ _ _ (i.mysql.calls ++ [Call.init]) i.initialized
    rw [hi] at htrace ⊢
    exact .opened false htrace rfl
  · show opened i.mysql.st = (i.mysql.calls ++ [Call.init]).count .close + i.initialized.toNat
    rw [hcount]
    simp [List.count_append]

/-- **An effect keeps to the session.** -/
theorem effect (h : InSession free opened i) (hC : CountsOpened L opened)
    (hfree : ∀ c : Call, c.frees → free c) (hok : Allows free i) {c : Option Call}
    (he : Effect L i c j) : InSession free opened j := by
  have hallow : ∀ d : Call, d.plain → i.initialized = true ∨ free d :=
    fun d hd => hok.imp_right fun hfree => hfree d hd
  cases he with
  | reads hc => exact h.call (Call.plain_reads hc) (hallow _ (Call.plain_reads hc)) rfl rfl rfl
  | called hm =>
    have hs := Library.Steps.makes hm
    exact h.call hs.plain (hallow _ hs.plain) rfl (hC.steps hs) rfl
  | init hi hm => exact h.init hC hi hm
  | initFailed hi _ => exact h.initFailed hi
  | connects hm =>
    have hs := Library.Steps.connects hm
    exact h.call hs.plain (hallow _ hs.plain) rfl (hC.steps hs) rfl
  | @connecting args w hd =>
    have hs : L.Steps _ i.mysql.st _ := .connecting args w hd i.mysql.st
    exact h.call hs.plain (hallow _ hs.plain) rfl (hC.steps hs) rfl
  | @stored c r st hm =>
    have hs := Library.Steps.stores hm
    have hcalled : InSession free opened { i with mysql := i.mysql.call c st } :=
      h.call hs.plain (hallow _ hs.plain) rfl (hC.steps hs) rfl
    exact hcalled.resetResult hfree r
  | unstored hm =>
    have hs := Library.Steps.stores hm
    exact h.call hs.plain (hallow _ hs.plain) rfl (hC.steps hs) rfl
  | free => exact h.resetResult hfree none
  | fetched _ => exact h.congr rfl (hC.fetchNull _ _) rfl
  | mark b => exact h.congr rfl rfl rfl

theorem effects (h : InSession free opened i) (hC : CountsOpened L opened)
    (hfree : ∀ c : Call, c.frees → free c) (hok : Allows free i) (he : Effects L P i j) :
    InSession free opened j :=
  (he.invariant (I := fun k => InSession free opened k ∧ Allows free k) ⟨h, hok⟩
    fun _ _ _ ⟨hk, hkok⟩ hkl _ =>
      ⟨hk.effect hC hfree hkok hkl, hkok.imp_left hkl.opened⟩).1

theorem close (h : InSession free opened i) (hC : CountsOpened L opened)
    (hfree : ∀ c : Call, c.frees → free c) : InSession free opened (i.close L) := by
  have hclosed : InSession free opened ({ (if i.initialized then
      { i with mysql := mysqlClose L i.mysql, initialized := false } else i) with
      firstResultStored := false } : Implementation M) := by
    split_ifs with hi
    · obtain ⟨htrace, hcount⟩ := h
      rw [hi] at htrace hcount
      refine ⟨.closed htrace rfl, ?_⟩
      show opened (L.close i.mysql.st) = (i.mysql.calls ++ [Call.close]).count .close + 0
      rw [hC.close, hcount]
      simp [List.count_append]
    · exact h.congr rfl rfl rfl
  exact (hclosed.resetResult hfree none).congr rfl rfl rfl

theorem destroy (h : InSession free opened i) (hC : CountsOpened L opened)
    (hfree : ∀ c : Call, c.frees → free c) : InSession free opened (i.destroy L) := by
  unfold Implementation.destroy Service.close
  split_ifs
  · exact (h.close hC hfree).close hC hfree
  · exact h.close hC hfree

end InSession

/-! ## What a step makes of a connector that is not open -/

/-- The connector is opened at most, and goes on only where it is open. -/
def Opens (L : Library M) (i j : Implementation M) : Prop :=
  ∃ k, (k = i ∨ ∃ ec, k = (Service.open L i ec).impl) ∧
    (j = k ∨ k.initialized = true ∧ Effects L (fun _ => True) k j)

namespace Opens

theorem refl (i : Implementation M) : Opens L i i := ⟨i, .inl rfl, .inl rfl⟩

theorem once (i : Implementation M) (ec : ErrorCode) : Opens L i (Service.open L i ec).impl :=
  ⟨_, .inr ⟨ec, rfl⟩, .inl rfl⟩

theorem effects (hi : i.initialized = true) (he : Effects L P i j) : Opens L i j :=
  ⟨i, .inl rfl, .inr ⟨hi, he.mono fun _ _ => trivial⟩⟩

theorem andThen {k : Implementation M} (h : Opens L i j) (hj : j.initialized = true)
    (he : Effects L P j k) : Opens L i k := by
  have he' : Effects L (fun _ => True) j k := he.mono fun _ _ => trivial
  obtain ⟨l, hl, rfl | ⟨hopen, hlj⟩⟩ := h
  · exact ⟨j, hl, .inr ⟨hj, he'⟩⟩
  · exact ⟨l, hl, .inr ⟨hopen, hlj.trans he'⟩⟩

theorem session (h : Opens L i j) (hC : CountsOpened L opened)
    (hfree : ∀ c : Call, c.frees → free c) (hi : InSession free opened i) :
    InSession free opened j := by
  obtain ⟨k, hk, hj⟩ := h
  have hsession : InSession free opened k := by
    rcases hk with rfl | ⟨ec, rfl⟩
    · exact hi
    · unfold Service.open
      cases hinit : i.initialized with
      | true => exact hi
      | false =>
        unfold mysqlInit
        cases hm : L.init i.mysql.st with
        | none => exact (hi.initFailed hinit).congr rfl rfl hinit.symm
        | some st => exact hi.init hC hinit hm
  rcases hj with rfl | ⟨hopen, he⟩
  · exact hsession
  · exact hsession.effects hC hfree (.inl hopen) he

end Opens

/-- Blocking operations that make their call on a connector that is not open, too. -/
def Operation.unguarded (svc : MySQLService) : Operation → Bool
  | .storeResult | .autocommit _ | .affectedRows | .errorMessage _ => true
  | .setOption _ => svc == .mysql
  | _ => false

theorem perform_opens (svc : MySQLService) (L : Library M) (i : Implementation M) (ec : ErrorCode)
    (op : Operation) (hok : op.unguarded svc = true → i.initialized = true) :
    Opens L i (perform svc L i ec op).1 := by
  cases hi : i.initialized with
  | true => exact .effects hi (perform_effects svc L i ec op)
  | false =>
    have hno (h : op.unguarded svc = true) : False := by simp [hok h] at hi
    cases op with
    | «open» =>
      rw [perform_open, Done.reply_fst]
      exact .once i ec
    | connect r =>
      rw [perform_connect, Done.reply_fst]
      simp only [Service.connect, hi, Bool.not_false, if_true]
      split_ifs with hec
      · exact .once i ec
      · have hopen := Service.open_failed (L := L) hi ec
        rw [Bool.eq_false_iff.mpr hec] at hopen
        exact ⟨_, .inr ⟨ec, rfl⟩, .inr ⟨hopen, connectOpen_effects L _ _ r trivial⟩⟩
    | query s =>
      simp only [perform_query, Done.reply_fst, Service.query, hi]
      exact .refl i
    | queryResult s =>
      simp only [perform_queryResult, Service.query, hi]
      exact .refl i
    | commit =>
      simp only [perform_commit, Done.reply_fst, Service.commit, hi]
      exact .refl i
    | rollback =>
      simp only [perform_rollback, Done.reply_fst, Service.rollback, hi]
      exact .refl i
    | hasMoreResults =>
      simp only [perform_hasMoreResults, Service.hasMoreResults, hi]
      exact .refl i
    | setOption o =>
      cases svc with
      | mysql => exact (hno rfl).elim
      | mariadb =>
        simp only [perform, Connector.setOptionEc, MariadbService.setOption, hi]
        exact .refl i
    | storeResult => exact (hno rfl).elim
    | autocommit b => exact (hno rfl).elim
    | affectedRows => exact (hno rfl).elim
    | errorMessage e => exact (hno rfl).elim

theorem Change.session (h : Change L P i j) (hC : CountsOpened L opened)
    (hfree : ∀ c : Call, c.frees → free c) (hplain : ∀ c : Call, c.plain → free c)
    (hi : InSession free opened i) : InSession free opened j := by
  cases h with
  | effects he => exact hi.effects hC hfree (.inr hplain) he
  | cancel => exact hi.congr rfl rfl rfl
  | close _ => exact hi.close hC hfree

namespace MysqlService.World

variable {w w' : World M} {as : List Action}

/-- The operations that do not ask are called while the connector is open. -/
def UsedOpen (w : World M) (a : Action) : Prop :=
  ∀ ec op, a = .call ec op → op.unguarded .mysql = true → w.impl.initialized = true

theorem Marked.opens (h : w.Marked as) {a : Action} (hok : w.UsedOpen a) (ha : a.cuts = false)
    (hstep : w.step L a = some w') : Opens L w.impl w'.impl := by
  cases a with
  | initiate r =>
    cases hstep
    cases r with
    | connect c =>
      simp only [World.initiate, asyncConnect]
      split_ifs
      · exact .once w.impl .clear
      · exact .once w.impl .clear
      · exact .refl w.impl
    | query s =>
      simp only [World.initiate, asyncQuery]
      split_ifs <;> exact .refl w.impl
    | storeResult =>
      simp only [World.initiate, asyncStoreResult]
      split_ifs <;> exact .refl w.impl
  | work =>
    obtain ⟨j, js, hw, rfl⟩ := World.step_work hstep
    cases hfresh : j.expired w.impl with
    | true =>
      simp only [Job.run_expired hfresh]
      exact .refl w.impl
    | false =>
      have hopen := h.open_of_fresh (by simp [hw]) hfresh
      exact .effects hopen (Job.run_effects hfresh hopen)
  | deliver =>
    obtain ⟨c, cs, hio, rfl⟩ := World.step_deliver hstep
    exact .refl w.impl
  | cancel => cases ha
  | close => cases ha
  | call ec op =>
    cases hstep
    exact perform_opens .mysql L w.impl ec op (hok ec op rfl)

theorem Marked.session (h : w.Marked as) (hC : CountsOpened L opened)
    (hfree : ∀ c : Call, c.frees → free c) {a : Action}
    (hok : (∀ c : Call, c.plain → free c) ∨ w.UsedOpen a) (hstep : w.step L a = some w')
    (hs : InSession free opened w.impl) : InSession free opened w'.impl := by
  rcases hok with hplain | hused
  · exact (h.change hstep).session hC hfree hplain hs
  · cases a with
    | cancel => cases hstep; exact hs.congr rfl rfl rfl
    | close =>
      cases hstep
      show InSession free opened (Service.close L w.impl)
      unfold Service.close
      split_ifs
      · exact hs.close hC hfree
      · exact hs
    | _ => exact (h.opens hused rfl hstep).session hC hfree hs

end MysqlService.World

namespace MariadbService.World

variable {w w' : World M} {as : List Action}

def UsedOpen (w : World M) (a : Action) : Prop :=
  ∀ ec op, a = .call ec op → op.unguarded .mariadb = true → w.impl.initialized = true

theorem settle_opens {n : Nat} {i j : MariadbImplementation M} {t : Turn M Handler}
    (hj : Opens L i.toImplementation j.toImplementation) (hopen : j.initialized = true)
    (h : t.Makes L P Handler.Blank j) (hw : w.impl = i) :
    Opens L i.toImplementation (w.settle n t).impl.toImplementation := by
  subst hw
  cases t with
  | wait k p on => exact hj.andThen hopen h.1
  | dropped k => exact hj.andThen hopen h
  | invoke k o => exact hj.andThen hopen h
  | assertion => exact .refl _
  | spinning => exact .refl _

theorem initiate_opens (L : Library M) (w : World M) (r : Request) :
    Opens L w.impl.toImplementation (w.initiate L r).impl.toImplementation := by
  let I : MariadbImplementation M → Prop := fun j =>
    Opens L w.impl.toImplementation j.toImplementation
  have hset : ∀ j, I j →
      I (j.update (setOption L j.toImplementation nonblockDefault .clear).impl) := by
    intro j hj
    cases hopen : j.initialized with
    | true =>
      exact hj.andThen hopen (perform_effects .mariadb L j.toImplementation .clear
        (.setOption nonblockDefault))
    | false =>
      simp only [MariadbService.setOption, hopen]
      exact hj
  obtain ⟨j, hj, ⟨o, -, heq⟩ | ⟨hopen, ec, hec, heq⟩⟩ :=
    initiate_cases L (I := I) (.refl w.impl.toImplementation) r (fun _ _ => .once _ .clear)
      fun _ _ => hset
  · simp only [World.initiate, heq]
    exact hj
  · simp only [World.initiate, heq, launch]
    exact settle_opens (w := { w with next := w.next + 1 }) hj hopen
      (Handler.construct_makes r hec WaitType.finish) rfl

theorem Marked.opens (h : w.Marked as) (hb : w.Blank) {a : Action} (hok : w.UsedOpen a)
    (ha : a.cuts = false) (hstep : w.step L a = some w') :
    Opens L w.impl.toImplementation w'.impl.toImplementation := by
  cases a with
  | initiate r =>
    cases hstep
    exact initiate_opens L w r
  | fire k ec =>
    obtain ⟨x, hx, rfl⟩ := World.step_fire hstep
    have hmem : x ∈ w.waits := List.mem_of_getElem? hx
    cases hck : (checkToken x.handler.token w.impl ec).failed with
    | true =>
      rw [Handler.call_stopped hck]
      exact .refl _
    | false =>
      obtain ⟨c, hr⟩ := h.sound.resting x hmem
      have hfresh : x.handler.expired w.impl = false := by
        simpa [Handler.expired] using (token_of_checkToken hck).1
      exact settle_opens (w := { w with waits := w.waits.eraseIdx k }) (.refl _)
        (h.open_of_fresh hmem hfresh)
        (Handler.resumed_makes hr (hb x hmem) hck x.on.status) rfl
  | deliver =>
    obtain ⟨c, cs, hp, rfl⟩ := World.step_deliver hstep
    exact .refl _
  | cancel => cases ha
  | close => cases ha
  | call ec op =>
    cases hstep
    exact perform_opens .mariadb L w.impl.toImplementation ec op (hok ec op rfl)

theorem Marked.session (h : w.Marked as) (hb : w.Blank) (hC : CountsOpened L opened)
    (hfree : ∀ c : Call, c.frees → free c) {a : Action}
    (hok : (∀ c : Call, c.plain → free c) ∨ w.UsedOpen a) (hstep : w.step L a = some w')
    (hs : InSession free opened w.impl.toImplementation) :
    InSession free opened w'.impl.toImplementation := by
  rcases hok with hplain | hused
  · exact (h.change hb hstep).1.session hC hfree hplain hs
  · cases a with
    | cancel => cases hstep; exact hs.congr rfl rfl rfl
    | close =>
      cases hstep
      split_ifs
      · exact hs.close hC hfree
      · exact hs
    | _ => exact (h.opens hb hused rfl hstep).session hC hfree hs

end MariadbService.World

/-! ## Runs -/

/-- After these calls the handle was last initialised, not closed. -/
def LiveAfter (x : List Call) : Prop := ∃ u v, x = u ++ .init :: v ∧ Call.close ∉ v

theorem live_of_covered {x : List Call}
    (h : Bracketed.Covered (· = Call.init) (· = Call.close) x) : LiveAfter x := by
  obtain ⟨u, o, v, rfl, rfl, hv⟩ := h
  exact ⟨u, v, rfl, fun hmem => hv _ hmem rfl⟩

/-- The handles closed are those initialised but for the one that is open, and
what is closed was initialised since. -/
structure ClosedOnce (opened : M → Nat) (i : Implementation M) : Prop where
  count : opened i.mysql.st = i.mysql.calls.count .close + i.initialized.toNat
  live : ∀ x y, i.mysql.calls = x ++ .close :: y → LiveAfter x

/-- Every call but `mysql_init` and `mysql_free_result` is of a handle that is live. -/
def UsedLive (i : Implementation M) : Prop :=
  ∀ x c y, i.mysql.calls = x ++ c :: y → c ≠ .init → ¬ c.frees → LiveAfter x

theorem InSession.once (h : InSession Call.plain opened i) : ClosedOnce opened i :=
  ⟨h.count, fun _ _ hc => live_of_covered (h.trace.covers hc Call.noConfusion fun hp => hp.2 rfl)⟩

theorem InSession.used (h : InSession Call.frees opened i) : UsedLive i :=
  fun _ _ _ hc hinit hfree => live_of_covered (h.trace.covers hc hinit hfree)

end Amy
