import Amy.Mariadb.Completion
import Amy.Mariadb.Refine

/-!
# What a turn makes of the answers it hears

A turn ends the way the last answer it heard says: it waits for the first event
named by a calm suspension, with the descriptor on the library's socket where
the event is one of the socket's, and it invokes the user's handler when the
call is done or has failed. `Turn.Heeds` says so for all four handlers.
-/

namespace Amy

open Base

variable {M P : Type} {L : Library M}

/-- The last answer of some native calls. -/
def lastHeard (calls : List Call) : Option Heard := (calls.filterMap Call.heard?).getLast?

theorem lastHeard_append (a b : List Call) :
    lastHeard (a ++ b) = (lastHeard b).or (lastHeard a) := by
  simp [lastHeard, List.getLast?_append]

theorem lastHeard_unheard {log : List Call} (h : ∀ c ∈ log, c.heard? = none) :
    lastHeard log = none := by
  have hnil : log.filterMap Call.heard? = [] := List.filterMap_eq_nil_iff.mpr h
  rw [lastHeard, hnil, List.getLast?_nil]

/-- Native calls lead from `i` to `j`; `o` was the last answer heard before them,
`o'` is the last one after. -/
def Hears (i j : Implementation M) (o o' : Option Heard) : Prop :=
  ∃ log, j.mysql.calls = i.mysql.calls ++ log ∧ (lastHeard log).or o = o'

namespace Hears

variable {i j k : Implementation M} {o o' o'' : Option Heard}

theorem trans (h1 : Hears i j o o') (h2 : Hears j k o' o'') : Hears i k o o'' := by
  obtain ⟨a, ha, rfl⟩ := h1
  obtain ⟨b, hb, rfl⟩ := h2
  refine ⟨a ++ b, by rw [hb, ha, List.append_assoc], ?_⟩
  rw [lastHeard_append, Option.or_assoc]

theorem unheard {l : List Call} (hlog : j.mysql.calls = i.mysql.calls ++ l)
    (hu : ∀ c ∈ l, c.heard? = none) (o : Option Heard) : Hears i j o o :=
  ⟨l, hlog, by rw [lastHeard_unheard hu, Option.none_or]⟩

theorem same (h : j.mysql.calls = i.mysql.calls) (o : Option Heard) : Hears i j o o :=
  unheard (l := []) (by simpa using h) (by simp) o

theorem one {c : Call} {h : Heard} (hc : j.mysql.calls = i.mysql.calls ++ [c])
    (hh : c.heard? = some h) (o : Option Heard) : Hears i j o (some h) :=
  ⟨[c], hc, by simp [lastHeard, hh]⟩

theorem resetResult (i : Implementation M) (r : Option MysqlRes) (o : Option Heard) :
    Hears i (i.resetResult r) o o := by
  obtain ⟨log, hlog, hq⟩ := resetResult_calls i r
  exact unheard hlog (fun c hc => Call.heard_quiet (hq c hc)) o

end Hears

/-- From `i` to `j` nothing is heard and the descriptor stays as it is. -/
structure Unheard (i j : MariadbImplementation M) : Prop where
  hears : ∀ o, Hears i.toImplementation j.toImplementation o o
  ev : j.ev = i.ev

namespace Unheard

variable {i j k : MariadbImplementation M}

theorem trans (h1 : Unheard i j) (h2 : Unheard j k) : Unheard i k :=
  ⟨fun o => (h1.hears o).trans (h2.hears o), h2.ev.trans h1.ev⟩

theorem same (hc : j.mysql.calls = i.mysql.calls) (he : j.ev = i.ev) : Unheard i j :=
  ⟨fun o => .same hc o, he⟩

theorem freeResult (i : MariadbImplementation M) : Unheard i (i.update i.freeResult) :=
  ⟨fun o => .resetResult i.toImplementation none o, rfl⟩

end Unheard

/-- How a turn from `i` ends, `o` the last answer heard before it. -/
def Turn.Heeds (L : Library M) (i : MariadbImplementation M) (o : Option Heard) : Turn M P → Prop
  | .wait j _ on => ∃ h, Hears i.toImplementation j.toImplementation o (some h) ∧ h.status ≠ 0 ∧
      h.calm = true ∧ WaitFor.of h.status = some on ∧
      j.ev = if on = .timeout then i.ev else L.getSocket j.mysql.st
  | .dropped j => ∃ h, Hears i.toImplementation j.toImplementation o (some h) ∧ h.status ≠ 0 ∧
      h.calm = true ∧ WaitFor.of h.status = none ∧ j.ev = i.ev
  | .invoke j _ => ∃ o', Hears i.toImplementation j.toImplementation o o' ∧
      (∀ h, o' = some h → h.status = 0 ∨ h.calm = false) ∧ j.ev = i.ev
  | .assertion => False
  | .spinning => False

namespace Turn.Heeds

variable {i j : MariadbImplementation M} {o o' : Option Heard} {t : Turn M P}

theorem after (h : t.Heeds L j o') (hears : Hears i.toImplementation j.toImplementation o o')
    (hev : j.ev = i.ev) : t.Heeds L i o := by
  cases t with
  | wait k p on =>
    obtain ⟨hd, hh, hne, hcalm, hon, he⟩ := h
    exact ⟨hd, hears.trans hh, hne, hcalm, hon, hev ▸ he⟩
  | dropped k =>
    obtain ⟨hd, hh, hne, hcalm, hon, he⟩ := h
    exact ⟨hd, hears.trans hh, hne, hcalm, hon, he.trans hev⟩
  | invoke k out =>
    obtain ⟨p, hh, hend, he⟩ := h
    exact ⟨p, hears.trans hh, hend, he.trans hev⟩
  | assertion => exact h
  | spinning => exact h

theorem unheard (h : t.Heeds L j o) (hu : Unheard i j) : t.Heeds L i o := h.after (hu.hears o) hu.ev

theorem map {Q : Type} {f : P → Q} (h : t.Heeds L i o) : (t.map f).Heeds L i o := by
  cases t <;> exact h

end Turn.Heeds

/-! ## Registering a wait -/

theorem assignSocket_ev (L : Library M) (status : UInt32) (i : MariadbImplementation M) :
    (assignSocket L status i).ev =
      if status &&& WaitType.readOrWrite ≠ 0 then L.getSocket i.mysql.st else i.ev := by
  unfold assignSocket
  split_ifs
  · by_cases hev : i.ev = L.getSocket i.mysql.st
    · simp [hev]
    · simp [hev]
  · rfl

theorem waitingFor_ev (L : Library M) (status : UInt32) (i : MariadbImplementation M) :
    (waitingFor L status i).ev = (assignSocket L status i).ev := by
  unfold waitingFor
  split_ifs <;> rfl

/-- A wait is for the socket just when the status names one of its events. -/
theorem WaitFor.of_socket {status : UInt32} (h : WaitFor.of status = some .timeout ∨
    WaitFor.of status = none) : status &&& WaitType.readOrWrite = 0 := by
  unfold WaitFor.of at h
  split_ifs at h with h1 h2 h3
  · simp at h
  · simp at h
  all_goals
    simp only [not_not] at h1 h2
    exact and_or_eq_zero h1 h2

theorem and_eq_zero_of_readOrWrite {status x : UInt32} (h : status &&& WaitType.readOrWrite = 0)
    (hx : WaitType.readOrWrite &&& x = x) : status &&& x = 0 := by
  rw [← hx, ← UInt32.and_assoc, h, UInt32.zero_and]

theorem WaitFor.readOrWrite_ne {status : UInt32} {on : WaitFor} (h : WaitFor.of status = some on)
    (hon : on ≠ .timeout) : status &&& WaitType.readOrWrite ≠ 0 := by
  intro h0
  unfold WaitFor.of at h
  rw [if_neg (by simpa using and_eq_zero_of_readOrWrite h0 rfl),
    if_neg (by simpa using and_eq_zero_of_readOrWrite h0 rfl)] at h
  split_ifs at h
  exact hon (Option.some_inj.mp h).symm

theorem asyncWaitMysql_heeds (L : Library M) {i : MariadbImplementation M} {h : Heard}
    (hne : h.status ≠ 0) (hcalm : h.calm = true) (p : P) :
    (asyncWaitMysql L h.status i p).Heeds L i (some h) := by
  obtain ⟨log, ev, heq, hlog⟩ := waitingFor_eq L h.status i
  have hears : Hears i.toImplementation (waitingFor L h.status i).toImplementation (some h)
      (some h) := by
    refine .unheard (l := log) (by rw [heq]; rfl) (fun c hc => ?_) _
    rcases hlog c hc with rfl | rfl <;> rfl
  have hst : (waitingFor L h.status i).mysql.st = i.mysql.st := by rw [heq]; rfl
  rw [asyncWaitMysql_eq]
  cases hw : WaitFor.of h.status with
  | none =>
    refine ⟨h, hears, hne, hcalm, hw, ?_⟩
    rw [waitingFor_ev, assignSocket_ev, if_neg (by simpa using WaitFor.of_socket (.inr hw))]
  | some on =>
    refine ⟨h, hears, hne, hcalm, hw, ?_⟩
    rw [waitingFor_ev, assignSocket_ev, hst]
    by_cases hon : on = .timeout
    · subst hon
      rw [if_neg (by simpa using WaitFor.of_socket (.inl hw)), if_pos rfl]
    · rw [if_pos (WaitFor.readOrWrite_ne hw hon), if_neg hon]

namespace MariadbService

variable {i j : MariadbImplementation M} {ec : ErrorCode} {o : Option Heard}

/-! ## The turns of the handlers -/

theorem hasMoreResults_hears (L : Library M) (i : Implementation M) (o : Option Heard) :
    Hears i (Service.hasMoreResults L i).2 o o := by
  rw [Service.hasMoreResults_impl]
  refine .unheard (l := Service.moreLog L i) rfl (fun c hc => ?_) o
  unfold Service.moreLog at hc
  split_ifs at hc <;> simp at hc <;> subst hc <;> rfl

theorem open_hears (L : Library M) (i : Implementation M) (ec : ErrorCode) (o : Option Heard) :
    Hears i (Service.open L i ec).impl o o := by
  simp only [Service.open, mysqlInit]
  split_ifs
  · cases L.init i.mysql.st with
    | none => exact .unheard (l := [.init]) rfl (by simp [Call.heard?]) o
    | some m => exact .unheard (l := [.init]) rfl (by simp [Call.heard?]) o
  · exact .same rfl o

theorem Single.turn_heeds {R : Type} [ReturnType R] (p : Single R) (i : MariadbImplementation M)
    (a : NbAnswer M R) : (Single.turn L p i a).Heeds L i (some (heard L p.result a)) := by
  unfold Single.turn
  by_cases h0 : a.status = 0
  · simp only [h0, WaitType.finish, decide_true, Bool.true_or, if_true]
    exact ⟨_, .same rfl _, fun h hh => .inl (by cases hh; exact h0), rfl⟩
  · have hec := statusError_heard L p.result a h0 .clear
    cases hcalm : (heard L p.result a).calm with
    | false =>
      rw [if_pos (by simp [hec, hcalm])]
      exact ⟨_, .same rfl _, fun h hh => .inr (by cases hh; exact hcalm), rfl⟩
    | true =>
      rw [if_neg (by simp [hec, hcalm, h0])]
      exact asyncWaitMysql_heeds (h := heard L p.result a) L h0 hcalm _

/-- A handler of two calls does nothing between them that is heard. -/
structure ChainKind.Discreet (k : ChainKind M) : Prop where
  entry : ∀ i : MariadbImplementation M, match k.entry i with
    | .start j => Unheard i j ∧ j.cancelationToken = i.cancelationToken
    | .skip j => Unheard i j
    | .leave j _ => Unheard i j
  mark : ∀ i : MariadbImplementation M, Unheard i (k.mark i)

namespace Chain

variable {k : ChainKind M} {p : Chain}

theorem finish_heeds (r : Option MysqlRes) (i : MariadbImplementation M) (ec : ErrorCode)
    (ho : ∀ h, o = some h → h.status = 0 ∨ h.calm = false) : (finish L r i ec).Heeds L i o := by
  unfold finish
  split_ifs
  · have hreset : Unheard i (i.update (i.resetResult r)) :=
      ⟨fun o => .resetResult i.toImplementation r o, rfl⟩
    exact ⟨o, (hreset.hears o).trans (.same (by simp) o), ho, rfl⟩
  · exact ⟨o, .same rfl o, ho, rfl⟩

theorem storeTurn_heeds {h : Heard} {status : UInt32} (hst : h.status = status)
    (hec : status ≠ 0 → ec.failed = !h.calm) :
    (storeTurn L p i ec status).Heeds L i (some h) := by
  subst hst
  unfold storeTurn
  by_cases h0 : h.status = 0
  · rw [if_pos (by simp [h0])]
    exact finish_heeds _ _ _ fun h' hh => .inl (by cases hh; exact h0)
  · cases hcalm : h.calm with
    | false =>
      rw [if_pos (by simp [hec h0, hcalm])]
      exact finish_heeds _ _ _ fun h' hh => .inr (by cases hh; exact hcalm)
    | true =>
      rw [if_neg (by simp [hec h0, hcalm, h0])]
      exact asyncWaitMysql_heeds L h0 hcalm _

theorem storing_heeds (hk : k.Discreet) (p : Chain) (i : MariadbImplementation M)
    (o : Option Heard) : (storing L k p i).Heeds L i o := by
  refine Turn.Heeds.unheard ?_ ((Unheard.freeResult i).trans (hk.mark _))
  unfold storing
  refine Turn.Heeds.after (storeTurn_heeds (h := heard L p.result _) rfl fun h0 =>
    statusError_heard L p.result _ h0 .clear) (.one rfl rfl _) rfl

theorem firstTurn_heeds (hk : k.Discreet) {h : Heard} {status : UInt32} (hst : h.status = status)
    (hec : status ≠ 0 → ec.failed = !h.calm) :
    (firstTurn L k p i ec status).Heeds L i (some h) := by
  subst hst
  unfold firstTurn
  by_cases h0 : h.status = 0
  · split_ifs
    · exact finish_heeds _ _ _ fun h' hh => .inl (by cases hh; exact h0)
    · exact storing_heeds hk p i (some h)
  · cases hcalm : h.calm with
    | false =>
      rw [if_pos (by simp [hec h0, hcalm])]
      exact finish_heeds _ _ _ fun h' hh => .inr (by cases hh; exact hcalm)
    | true =>
      rw [if_neg (by simp [hec h0, hcalm]), if_neg h0]
      exact asyncWaitMysql_heeds L h0 hcalm _

theorem call_fresh_heeds (hk : k.Discreet) (hstep : p.step = .entry)
    (hc : (checkToken p.token i ec).failed = false) (status : UInt32) :
    (p.call L k i ec status).Heeds L i none := by
  have he := hk.entry i
  cases hentry : k.entry i with
  | start j =>
    rw [hentry] at he
    rw [call_start hstep hc hentry he.2]
    refine Turn.Heeds.unheard ?_ he.1
    exact (firstTurn_heeds hk (h := heard L p.firstResult (k.first.start j.mysql.st)) rfl fun h0 =>
      statusError_heard L p.firstResult _ h0 .clear).after (.one rfl rfl _) rfl
  | skip j =>
    rw [hentry] at he
    rw [call_skip hstep hc hentry]
    exact (storing_heeds hk p j none).unheard he
  | leave j e =>
    rw [hentry] at he
    rw [call_leave hstep hc hentry]
    exact (finish_heeds _ _ _ fun h hh => by cases hh).unheard he

end Chain

/-- A turn that begins by continuing `c` with `status`. -/
def Continues (L : Library M) (i : MariadbImplementation M) (c : NbCall) (status : UInt32)
    (t : Turn M P) : Prop :=
  ∃ (j : MariadbImplementation M) (h : Heard),
    j.mysql.calls = i.mysql.calls ++ [.cont c status h] ∧ j.ev = i.ev ∧ t.Heeds L j (some h)

variable {c : NbCall} {status : UInt32}

theorem Continues.map {Q : Type} {f : P → Q} {t : Turn M P} (h : Continues L i c status t) :
    Continues L i c status (t.map f) := by
  obtain ⟨j, hd, hc, hev, ht⟩ := h
  exact ⟨j, hd, hc, hev, ht.map⟩

theorem Continues.heeds {t : Turn M P} (h : Continues L i c status t) (o : Option Heard) :
    t.Heeds L i o := by
  obtain ⟨j, hd, hc, hev, ht⟩ := h
  exact ht.after (.one hc rfl o) hev

theorem Chain.call_resumed_continues {k : ChainKind M} {p : Chain} (hk : k.Discreet) {t : Nat}
    (hr : p.Rests k.first.name t c) (hc : (checkToken p.token i ec).failed = false)
    (status : UInt32) : Continues L i c status (p.call L k i ec status) := by
  obtain ⟨rfl, ⟨hstep, rfl⟩ | ⟨hstep, rfl⟩⟩ := hr
  · rw [call_contFirst hstep hc]
    exact ⟨Single.continued L k.first p.firstResult status i, _, rfl, rfl,
      firstTurn_heeds hk rfl fun h0 => statusError_heard L p.firstResult _ h0 .clear⟩
  · rw [call_contStore hstep hc]
    exact ⟨Single.continued L L.nbStoreResult p.result status i, _, rfl, rfl,
      storeTurn_heeds rfl fun h0 => statusError_heard L p.result _ h0 .clear⟩

theorem storeResultKind_discreet (L : Library M) : (storeResultKind L).Discreet where
  entry i := by
    have hmore : Unheard i (i.update (Service.hasMoreResults L i.freeResult).2) :=
      (Unheard.freeResult i).trans ⟨hasMoreResults_hears L i.freeResult, rfl⟩
    simp only [storeResultKind]
    split_ifs
    · exact hmore
    · exact ⟨hmore, by simp [Service.hasMoreResults_impl]⟩
    · exact .same rfl rfl
  mark i := .same rfl rfl

theorem queryResultKind_discreet (L : Library M) (stmt : String) :
    (queryResultKind L stmt).Discreet where
  entry i := ⟨(Unheard.freeResult i).trans (.same rfl rfl), by simp⟩
  mark i := .same rfl rfl

namespace Handler

theorem construct_heeds (r : Request) (hec : ec.failed = false) (status : UInt32) :
    ((construct i.cancelationToken r).call L i ec status).Heeds L i none := by
  have hc : (checkToken i.cancelationToken i ec).failed = false := by
    rwa [checkToken_of_eq rfl]
  cases r with
  | connect c =>
    refine Turn.Heeds.map ?_
    unfold connectHandler
    rw [Single.call_start rfl hc]
    exact (Single.turn_heeds _ _ _).after (.one rfl rfl _) rfl
  | query stmt =>
    refine Turn.Heeds.map ?_
    unfold queryHandler
    rw [Single.call_start rfl hc]
    refine Turn.Heeds.unheard ?_ ((Unheard.freeResult i).trans (.same rfl rfl))
    exact (Single.turn_heeds _ _ _).after (.one rfl rfl _) rfl
  | storeResult =>
    exact (Chain.call_fresh_heeds (storeResultKind_discreet L) rfl hc status).map
  | queryResult stmt =>
    exact (Chain.call_fresh_heeds (queryResultKind_discreet L stmt) rfl hc status).map

/-- **A later turn of a handler** continues its call with the status of its wait. -/
theorem resumed_continues {h : Handler} {t : Nat} (hr : h.Rests t c)
    (hc : (checkToken h.token i ec).failed = false) (status : UInt32) :
    Continues L i c status (h.call L i ec status) := by
  cases h with
  | connect r p =>
    obtain ⟨hstep, rfl, rfl⟩ := hr
    refine Continues.map ?_
    unfold connectHandler
    rw [Single.call_cont hstep hc]
    exact ⟨Single.continued L (L.nbConnect r.args) p.result status i, _, rfl, rfl,
      Single.turn_heeds _ _ _⟩
  | query stmt p =>
    obtain ⟨hstep, rfl, rfl⟩ := hr
    refine Continues.map ?_
    unfold queryHandler
    rw [Single.call_cont hstep hc]
    exact ⟨Single.continued L (L.nbQuery stmt) p.result status i, _, rfl, rfl,
      Single.turn_heeds _ _ _⟩
  | storeResult p =>
    exact (Chain.call_resumed_continues (storeResultKind_discreet L) hr hc status).map
  | queryResult stmt p =>
    exact (Chain.call_resumed_continues (queryResultKind_discreet L stmt) hr hc status).map

end Handler

/-! ## The steps of a connector -/

/-- What an initiating call hears. -/
def Started.Heeds (L : Library M) (i : MariadbImplementation M) : Started M → Prop
  | .posted j _ => Unheard i j
  | .ran t => t.Heeds L i none

theorem launch_heeds (hu : Unheard i j) (r : Request) (hec : ec.failed = false) :
    (launch L j r ec).Heeds L i :=
  (Handler.construct_heeds r hec WaitType.finish).unheard hu

/-- An initiating call hears nothing up to where it posts its handler or launches it. -/
theorem initiate_unheard (L : Library M) (i : MariadbImplementation M) (r : Request) :
    ∃ j, Unheard i j ∧ ((∃ o, initiate L i r = .posted j o) ∨
      ∃ ec : ErrorCode, ec.failed = false ∧ initiate L i r = launch L j r ec) := by
  have hopen : Unheard i (i.update (MariadbService.open L i.toImplementation .clear).impl) :=
    ⟨open_hears L i.toImplementation .clear, rfl⟩
  have hset : ∀ j, Unheard i j →
      Unheard i (j.update (setOption L j.toImplementation nonblockDefault .clear).impl) := by
    intro j hj
    refine hj.trans ?_
    unfold setOption
    split_ifs
    · exact .same rfl rfl
    · exact ⟨fun o => .unheard (l := [.options nonblock]) rfl (by simp [Call.heard?]) o, rfl⟩
  obtain ⟨j, hj, ⟨o, -, heq⟩ | ⟨-, ec, hec, heq⟩⟩ :=
    initiate_cases L (I := Unheard i) (.same rfl rfl) r (fun _ _ => hopen) fun _ _ => hset
  · exact ⟨j, hj, .inl ⟨o, heq⟩⟩
  · exact ⟨j, hj, .inr ⟨ec, hec, heq⟩⟩

theorem initiate_heeds (L : Library M) (i : MariadbImplementation M) (r : Request) :
    (initiate L i r).Heeds L i := by
  obtain ⟨j, hj, ⟨o, heq⟩ | ⟨ec, hec, heq⟩⟩ := initiate_unheard L i r
  · rw [heq]
    exact hj
  · rw [heq]
    exact launch_heeds hj r hec

end MariadbService

end Amy
