import Amy.Mariadb.Events

/-!
# What a suspended answer is taken for

A native call that answers a status other than 0 is suspended, and by the
`EXCEPT` bit of the status it is exceptional. `mysql_start` and
`mysql_continue` translate every such answer alike, and whether that leaves an
error is a matter of the result variable and the handle's errno: of the
answer's calmness. `Turn.Tells` says, for every turn of every handler, which
answers it heard, how it ended, and what it hands out of a result that was
stored.
-/

namespace Amy

open Base

variable {M P : Type} {L : Library M}

/-! ## The wrappers -/

/-- A status of a suspended call that says it is healthy. -/
abbrev Healthy (status : UInt32) : Prop := status ≠ 0 ∧ status &&& WaitType.except = 0

/-- A status that says its call is exceptional. -/
abbrev Exceptional (status : UInt32) : Prop := status &&& WaitType.except ≠ 0

/-- What a non-blocking wrapper should leave in the caller's code. -/
structure NbOut.ToldApart [ReturnType R] (L : Library M) (o : NbOut M R) : Prop where
  finished : o.status = 0 → o.ec = errorWrapper o.ret (L.errno o.mysql.st) .clear
  healthy : Healthy o.status → o.ec.failed = false
  exceptional : Exceptional o.status → o.ec.failed = true

/-- The condition: the handle has no errno and the result variable says failure,
exactly while the call is healthy. -/
def CalmIfHealthy (status errno : UInt32) (retFailed : Bool) : Prop :=
  status = 0 ∨ ((errno = 0 ∧ retFailed = true) ↔ status &&& WaitType.except = 0)

theorem toldApart_iff {R : Type} [ReturnType R] {o : NbOut M R}
    (ho : o.ec = statusError o.status o.ret (L.errno o.mysql.st) .clear) :
    o.ToldApart L ↔ CalmIfHealthy o.status (L.errno o.mysql.st) (ReturnType.failed o.ret) := by
  by_cases h0 : o.status = 0
  · refine ⟨fun _ => .inl h0, fun _ => ⟨fun _ => ?_, fun h => absurd h0 h.1, fun h => ?_⟩⟩
    · rw [ho, h0, statusError_finish]
    · exact absurd (by rw [h0]; rfl) h
  · have hec := failed_statusError_suspended h0 o.ret (L.errno o.mysql.st) .clear
    rw [← ho] at hec
    simp only [CalmIfHealthy, h0, false_or]
    constructor
    · rintro ⟨-, hhealthy, hexc⟩
      constructor
      · rintro ⟨he, hr⟩
        by_contra hx
        have := hexc hx
        simp [hec, he, hr] at this
      · intro hx
        have := hhealthy ⟨h0, hx⟩
        rw [hec] at this
        simpa [and_comm] using this
    · intro hiff
      refine ⟨fun h => absurd h h0, fun h => ?_, fun h => ?_⟩
      · obtain ⟨he, hr⟩ := hiff.mpr h.2
        simp [hec, he, hr]
      · by_contra hx
        rw [hec] at hx
        refine h (hiff.mp ?_)
        simpa [and_comm] using hx

/-! ## Turns -/

/-- The answers heard in some native calls. -/
def answers (calls : List Call) : List Heard := calls.filterMap Call.heard?

def Call.stored : Call → Bool
  | .start .storeResult h | .cont .storeResult _ h => h.status == 0 && !h.retFailed
  | _ => false

/-- No call of these is suspended. -/
def AllDone (calls : List Call) : Prop := ∀ h ∈ answers calls, h.status = 0

/-- The last call of these that was answered is suspended, and answered `h`; none stored. -/
structure SuspendedBy (calls : List Call) (h : Heard) : Prop where
  status : h.status ≠ 0
  last : ∃ pre, answers calls = pre ++ [h] ∧ ∀ x ∈ pre, x.status = 0
  unstored : ∀ c ∈ calls, c.stored = false

/-- What is handed out is what `assign` makes of the result the connector holds. -/
def Outcome.Reads (L : Library M) (o : Outcome) (j : Implementation M) : Prop :=
  ∃ r h ec, j.lastResult = some r ∧
    j.mysql.st = (ResultSet.assign L .fresh h (some r) ec).mysql.st ∧
    o = ⟨(ResultSet.assign L .fresh h (some r) ec).ec,
      some (ResultSet.assign L .fresh h (some r) ec).rs⟩

/-- How a turn from `i` ends, told by the answers it heard. -/
def Turn.Tells (L : Library M) (i : MariadbImplementation M) : Turn M P → Prop
  | .wait j _ _ | .dropped j => ∃ log h, j.mysql.calls = i.mysql.calls ++ log ∧
      SuspendedBy log h ∧ h.calm = true
  | .invoke j o => ∃ log, j.mysql.calls = i.mysql.calls ++ log ∧
      ((∃ h, SuspendedBy log h ∧ h.calm = false ∧ o.code.failed = true) ∨
        AllDone log ∧ ((∃ c ∈ log, c.stored = true) → o.Reads L j.toImplementation))
  | .assertion | .spinning => False

/-- From `i` to `j` no call is suspended and none stores. -/
def Prelude (i j : MariadbImplementation M) : Prop :=
  ∃ log, j.mysql.calls = i.mysql.calls ++ log ∧ AllDone log ∧ ∀ c ∈ log, c.stored = false

theorem answers_append (a b : List Call) : answers (a ++ b) = answers a ++ answers b :=
  List.filterMap_append

theorem Call.stored_unheard {c : Call} (h : c.heard? = none) : c.stored = false := by
  cases c <;> first | rfl | cases h

theorem Call.stored_heard {c : Call} {h : Heard} (hh : c.heard? = some h)
    (hs : c.stored = true) : h.status = 0 ∧ h.retFailed = false := by
  cases c with
  | start b hd =>
    obtain rfl := Option.some_inj.mp hh
    cases b with
    | storeResult => simpa [stored] using hs
    | _ => cases hs
  | cont b w hd =>
    obtain rfl := Option.some_inj.mp hh
    cases b with
    | storeResult => simpa [stored] using hs
    | _ => cases hs
  | _ => cases hs

theorem AllDone.append {a b : List Call} (ha : AllDone a) (hb : AllDone b) :
    AllDone (a ++ b) := by
  intro h hh
  rw [answers_append] at hh
  rcases List.mem_append.mp hh with hh | hh
  · exact ha h hh
  · exact hb h hh

theorem AllDone.suspendedBy {a b : List Call} {h : Heard} (ha : AllDone a)
    (hs : ∀ c ∈ a, c.stored = false) (hb : SuspendedBy b h) : SuspendedBy (a ++ b) h := by
  obtain ⟨hne, ⟨pre, hpre, hz⟩, hb⟩ := hb
  refine ⟨hne, ⟨answers a ++ pre, by rw [answers_append, hpre, List.append_assoc], ?_⟩, ?_⟩
  · intro x hx
    rcases List.mem_append.mp hx with hx | hx
    · exact ha x hx
    · exact hz x hx
  · intro c hc
    rcases List.mem_append.mp hc with hc | hc
    · exact hs c hc
    · exact hb c hc

theorem answers_unheard {log : List Call} (h : ∀ c ∈ log, c.heard? = none) : answers log = [] :=
  List.filterMap_eq_nil_iff.mpr h

namespace Prelude

variable {i j : MariadbImplementation M}

theorem unheard {l : List Call} (hl : j.mysql.calls = i.mysql.calls ++ l)
    (h : ∀ c ∈ l, c.heard? = none) : Prelude i j :=
  ⟨l, hl, fun x hx => (by rw [answers_unheard h] at hx; cases hx),
    fun c hc => Call.stored_unheard (h c hc)⟩

theorem same (h : j.mysql.calls = i.mysql.calls) : Prelude i j :=
  unheard (l := []) (by simpa using h) (by simp)

theorem of_unheard (hu : Unheard i j) : Prelude i j := by
  obtain ⟨log, hlog, ho⟩ := hu.hears none
  refine unheard hlog fun c hc => ?_
  -- calls without a last answer have none
  rw [Option.or_none, lastHeard, List.getLast?_eq_none_iff, List.filterMap_eq_nil_iff] at ho
  exact ho c hc

theorem done {c : Call} {h : Heard} (hc : j.mysql.calls = i.mysql.calls ++ [c])
    (hh : c.heard? = some h) (h0 : h.status = 0) (hs : c.stored = false) : Prelude i j := by
  refine ⟨[c], hc, ?_, ?_⟩
  · simp [AllDone, answers, hh, h0]
  · simpa using hs

end Prelude

namespace Turn.Tells

variable {i j : MariadbImplementation M} {t : Turn M P}

theorem after (h : t.Tells L j) (hp : Prelude i j) : t.Tells L i := by
  obtain ⟨pre, hpre, hdone, hstored⟩ := hp
  have hcalls {k : MariadbImplementation M} {log : List Call}
      (hk : k.mysql.calls = j.mysql.calls ++ log) :
      k.mysql.calls = i.mysql.calls ++ (pre ++ log) := by
    rw [hk, hpre, List.append_assoc]
  cases t with
  | wait k p on =>
    obtain ⟨log, hd, hk, hs, hcalm⟩ := h
    exact ⟨pre ++ log, hd, hcalls hk, hdone.suspendedBy hstored hs, hcalm⟩
  | dropped k =>
    obtain ⟨log, hd, hk, hs, hcalm⟩ := h
    exact ⟨pre ++ log, hd, hcalls hk, hdone.suspendedBy hstored hs, hcalm⟩
  | invoke k o =>
    obtain ⟨log, hk, hend⟩ := h
    refine ⟨pre ++ log, hcalls hk, hend.imp ?_ ?_⟩
    · rintro ⟨hd, hs, hcalm, hcode⟩
      exact ⟨hd, hdone.suspendedBy hstored hs, hcalm, hcode⟩
    · rintro ⟨hs, hreads⟩
      refine ⟨hdone.append hs, fun ⟨c, hc, hcs⟩ => ?_⟩
      rcases List.mem_append.mp hc with hc | hc
      · rw [hstored c hc] at hcs
        cases hcs
      · exact hreads ⟨c, hc, hcs⟩
  | assertion => exact h
  | spinning => exact h

theorem map {Q : Type} {f : P → Q} (h : t.Tells L i) : (t.map f).Tells L i := by
  cases t <;> exact h

/-- The user's handler is invoked after calls of which none stores or is suspended. -/
theorem quiet (hp : Prelude i j) (o : Outcome) : (Turn.invoke j o : Turn M P).Tells L i := by
  obtain ⟨log, hlog, hdone, hstored⟩ := hp
  refine ⟨log, hlog, .inr ⟨hdone, fun ⟨c, hc, hcs⟩ => ?_⟩⟩
  rw [hstored c hc] at hcs
  cases hcs

end Turn.Tells

structure Told (i j : MariadbImplementation M) (c : Call) (h : Heard) : Prop where
  calls : j.mysql.calls = i.mysql.calls ++ [c]
  heard : c.heard? = some h

namespace Told

variable {i j k : MariadbImplementation M} {c : Call} {h : Heard}

theorem suspendedBy {l : List Call} (ht : Told i j c h) (h0 : h.status ≠ 0)
    (hl : k.mysql.calls = j.mysql.calls ++ l) (hu : ∀ c ∈ l, c.heard? = none) :
    k.mysql.calls = i.mysql.calls ++ c :: l ∧ SuspendedBy (c :: l) h := by
  have hnil := answers_unheard hu
  refine ⟨by rw [hl, ht.calls, List.append_assoc]; rfl, h0,
    ⟨[], by simpa [answers, ht.heard] using hnil, by simp⟩, fun d hd => ?_⟩
  rcases List.mem_cons.mp hd with rfl | hd
  · by_contra hstored
    exact h0 (Call.stored_heard ht.heard (by simpa using hstored)).1
  · exact Call.stored_unheard (hu d hd)

/-- A calm suspension: the handler waits, or is dropped if no event is named. -/
theorem wait (ht : Told i j c h) (h0 : h.status ≠ 0) (hcalm : h.calm = true) (p : P) :
    (asyncWaitMysql L h.status j p).Tells L i := by
  obtain ⟨log, ev, heq, hlog⟩ := waitingFor_eq L h.status j
  obtain ⟨hcalls, hs⟩ := ht.suspendedBy (k := waitingFor L h.status j) (l := log) h0
    (by rw [heq]; rfl) fun c hc => by rcases hlog c hc with rfl | rfl <;> rfl
  rw [asyncWaitMysql_eq]
  cases WaitFor.of h.status <;> exact ⟨_, h, hcalls, hs, hcalm⟩

/-- A suspension that is not calm: the handler is invoked with an error. -/
theorem invoke (ht : Told i j c h) (h0 : h.status ≠ 0) (hcalm : h.calm = false) {o : Outcome}
    (ho : o.code.failed = true) : (Turn.invoke j o : Turn M P).Tells L i := by
  obtain ⟨hcalls, hs⟩ := ht.suspendedBy (k := j) (l := []) h0 (by simp) (by simp)
  exact ⟨[c], hcalls, .inl ⟨h, hs, hcalm, ho⟩⟩

end Told

namespace MariadbService

variable {i j i0 : MariadbImplementation M} {ec : ErrorCode}

theorem Single.turn_tells {R : Type} [ReturnType R] {p : Single R} {a : NbAnswer M R} {c : Call}
    (ht : Told i j c (heard L p.result a)) (hc : c.stored = false) :
    (Single.turn L p j a).Tells L i := by
  unfold Single.turn
  by_cases h0 : a.status = 0
  · simp only [h0, WaitType.finish, decide_true, Bool.true_or, if_true]
    exact .quiet (.done ht.calls ht.heard h0 hc) _
  · have hec := statusError_heard L p.result a h0 .clear
    cases hcalm : (heard L p.result a).calm with
    | false =>
      rw [if_pos (by simp [hec, hcalm])]
      exact ht.invoke h0 hcalm (by simp [hec, hcalm])
    | true =>
      rw [if_neg (by simp [hec, hcalm, h0])]
      exact ht.wait (h := heard L p.result a) h0 hcalm _

namespace Chain

variable {k : ChainKind M} {p : Chain}

theorem finish_calls (r : Option MysqlRes) (i : MariadbImplementation M) (ec : ErrorCode) :
    ∃ j o, finish L r i ec = .invoke j o ∧ Prelude i j ∧
      (ec.failed = true → j = i ∧ o = ⟨ec, some .emptySet⟩) ∧
      (ec.failed = false → r.isSome → o.Reads L j.toImplementation) := by
  unfold finish
  cases hec : ec.failed with
  | true => exact ⟨i, _, rfl, .same rfl, fun _ => ⟨rfl, rfl⟩, fun h => by cases h⟩
  | false =>
    have hreset : Unheard i (i.update (i.resetResult r)) :=
      ⟨fun o => .resetResult i.toImplementation r o, rfl⟩
    refine ⟨_, _, rfl, .of_unheard (hreset.trans (.same (by simp) rfl)),
      fun h => (by cases h), fun _ hr => ?_⟩
    obtain ⟨r, rfl⟩ := Option.isSome_iff_exists.mp hr
    exact ⟨r, (i.resetResult (some r)).mysql, ec, by simp, by simp, by simp⟩

theorem storeTurn_tells {a : NbAnswer M (Option MysqlRes)} {c : Call}
    (ht : Told i0 i c (heard L p.result a)) :
    (storeTurn L { p with result := a.ret.getD p.result } i
      (statusError a.status (a.ret.getD p.result) (L.errno a.st) .clear) a.status).Tells L i0 := by
  unfold storeTurn
  by_cases h0 : a.status = 0
  · obtain ⟨j, o, hj, ⟨log, hlog, hdone, hstored⟩, -, hreads⟩ := finish_calls (L := L)
      (a.ret.getD p.result) i (statusError a.status (a.ret.getD p.result) (L.errno a.st) .clear)
    rw [if_pos (by simp [h0]), hj]
    have hh : (heard L p.result a).status = 0 := h0
    have hc : AllDone [c] := by simp [AllDone, answers, ht.heard, hh]
    refine ⟨[c] ++ log, by rw [hlog, ht.calls, List.append_assoc], .inr ⟨hc.append hdone, ?_⟩⟩
    rintro ⟨d, hd, hds⟩
    rcases List.mem_append.mp hd with hd | hd
    · -- the call returned a result, so the code is clear and the result is read
      obtain rfl := List.mem_singleton.mp hd
      have hret : ReturnType.failed (a.ret.getD p.result) = false :=
        (Call.stored_heard ht.heard hds).2
      refine hreads ?_ (by simpa [ReturnType.failed] using hret)
      rw [h0, statusError_finish, errorWrapper, hret]
      rfl
    · rw [hstored d hd] at hds
      cases hds
  · have hec := statusError_heard L p.result a h0 .clear
    cases hcalm : (heard L p.result a).calm with
    | false =>
      obtain ⟨j, o, hj, -, hfailed, -⟩ := finish_calls (L := L) (a.ret.getD p.result) i
        (statusError a.status (a.ret.getD p.result) (L.errno a.st) .clear)
      obtain ⟨rfl, rfl⟩ := hfailed (by simp [hec, hcalm])
      rw [if_pos (by simp [hec, hcalm]), hj]
      exact ht.invoke h0 hcalm (by simp [hec, hcalm])
    | true =>
      rw [if_neg (by simp [hec, hcalm, h0])]
      exact ht.wait (h := heard L p.result a) h0 hcalm _

theorem storing_tells (hk : k.Discreet) (p : Chain) (i : MariadbImplementation M) :
    (storing L k p i).Tells L i := by
  refine Turn.Tells.after ?_ (.of_unheard ((Unheard.freeResult i).trans (hk.mark _)))
  unfold storing
  exact storeTurn_tells (p := p) ⟨rfl, rfl⟩

theorem firstTurn_tells (hk : k.Discreet) {a : NbAnswer M Int32} {c : Call}
    (ht : Told i0 i c (heard L p.firstResult a)) (hc : c.stored = false) :
    (firstTurn L k { p with firstResult := a.ret.getD p.firstResult } i
      (statusError a.status (a.ret.getD p.firstResult) (L.errno a.st) .clear)
      a.status).Tells L i0 := by
  unfold firstTurn
  have hfinish : ∀ e : ErrorCode, e.failed = true →
      (finish L p.result i e : Turn M Chain) = .invoke i ⟨e, some .emptySet⟩ := by
    intro e he
    simp [finish, he]
  by_cases h0 : a.status = 0
  · have hp : Prelude i0 i := .done ht.calls ht.heard h0 hc
    split_ifs with hf
    · rw [hfinish _ hf]
      exact .quiet hp _
    · exact (storing_tells hk _ i).after hp
  · have hec := statusError_heard L p.firstResult a h0 .clear
    cases hcalm : (heard L p.firstResult a).calm with
    | false =>
      rw [if_pos (by simp [hec, hcalm]), hfinish _ (by simp [hec, hcalm])]
      exact ht.invoke h0 hcalm (by simp [hec, hcalm])
    | true =>
      rw [if_neg (by simp [hec, hcalm]), if_neg h0]
      exact ht.wait (h := heard L p.firstResult a) h0 hcalm _

theorem call_fresh_tells (hk : k.Discreet) (hf : k.first.name ≠ .storeResult)
    (hstep : p.step = .entry) (hc : (checkToken p.token i ec).failed = false) (status : UInt32) :
    (p.call L k i ec status).Tells L i := by
  have he := hk.entry i
  cases hentry : k.entry i with
  | start j =>
    rw [hentry] at he
    rw [call_start hstep hc hentry he.2]
    refine Turn.Tells.after ?_ (.of_unheard he.1)
    exact firstTurn_tells (p := p) hk ⟨rfl, rfl⟩ (by simp [Call.stored, hf])
  | skip j =>
    rw [hentry] at he
    rw [call_skip hstep hc hentry]
    exact (storing_tells hk p j).after (.of_unheard he)
  | leave j e =>
    rw [hentry] at he
    obtain ⟨j', o, hj, hp, -⟩ := finish_calls (L := L) p.result j e
    rw [call_leave hstep hc hentry, hj]
    exact (Turn.Tells.quiet hp o).after (.of_unheard he)

theorem call_resumed_tells (hk : k.Discreet) (hf : k.first.name ≠ .storeResult) {t : Nat}
    {c : NbCall} (hr : p.Rests k.first.name t c)
    (hc : (checkToken p.token i ec).failed = false) (status : UInt32) :
    (p.call L k i ec status).Tells L i := by
  obtain ⟨rfl, ⟨hstep, rfl⟩ | ⟨hstep, rfl⟩⟩ := hr
  · rw [call_contFirst hstep hc]
    exact firstTurn_tells (p := p) hk ⟨rfl, rfl⟩ (by simp [Call.stored, hf])
  · rw [call_contStore hstep hc]
    exact storeTurn_tells (p := p) ⟨rfl, rfl⟩

end Chain

namespace Handler

theorem construct_tells (r : Request) (hec : ec.failed = false) (status : UInt32) :
    ((construct i.cancelationToken r).call L i ec status).Tells L i := by
  have hc : (checkToken i.cancelationToken i ec).failed = false := by
    rwa [checkToken_of_eq rfl]
  cases r with
  | connect c =>
    refine Turn.Tells.map ?_
    unfold connectHandler
    rw [Single.call_start rfl hc]
    exact Single.turn_tells ⟨rfl, rfl⟩ rfl
  | query stmt =>
    refine Turn.Tells.map ?_
    unfold queryHandler
    rw [Single.call_start rfl hc]
    refine Turn.Tells.after ?_ (.of_unheard ((Unheard.freeResult i).trans (.same rfl rfl)))
    exact Single.turn_tells ⟨rfl, rfl⟩ rfl
  | storeResult =>
    refine (Chain.call_fresh_tells (storeResultKind_discreet L) ?_ rfl hc status).map
    exact fun h => by cases h
  | queryResult stmt =>
    refine (Chain.call_fresh_tells (queryResultKind_discreet L stmt) ?_ rfl hc status).map
    exact fun h => by cases h

theorem resumed_tells {h : Handler} {t : Nat} {c : NbCall} (hr : h.Rests t c)
    (hc : (checkToken h.token i ec).failed = false) (status : UInt32) :
    (h.call L i ec status).Tells L i := by
  cases h with
  | connect r p =>
    obtain ⟨hstep, rfl, rfl⟩ := hr
    refine Turn.Tells.map ?_
    unfold connectHandler
    rw [Single.call_cont hstep hc]
    exact Single.turn_tells ⟨rfl, rfl⟩ rfl
  | query stmt p =>
    obtain ⟨hstep, rfl, rfl⟩ := hr
    refine Turn.Tells.map ?_
    unfold queryHandler
    rw [Single.call_cont hstep hc]
    exact Single.turn_tells ⟨rfl, rfl⟩ rfl
  | storeResult p =>
    refine (Chain.call_resumed_tells (storeResultKind_discreet L) ?_ hr hc status).map
    exact fun h => by cases h
  | queryResult stmt p =>
    refine (Chain.call_resumed_tells (queryResultKind_discreet L stmt) ?_ hr hc status).map
    exact fun h => by cases h

end Handler

/-! ## The steps of a connector -/

/-- What an initiating call tells. -/
def Started.Tells (L : Library M) (i : MariadbImplementation M) : Started M → Prop
  | .posted j _ => Prelude i j
  | .ran t => t.Tells L i

theorem initiate_tells (L : Library M) (i : MariadbImplementation M) (r : Request) :
    (initiate L i r).Tells L i := by
  obtain ⟨j, hj, ⟨o, heq⟩ | ⟨ec, hec, heq⟩⟩ := initiate_unheard L i r
  · rw [heq]
    exact .of_unheard hj
  · rw [heq]
    exact (Handler.construct_tells r hec WaitType.finish).after (.of_unheard hj)

namespace World

variable {w w' : World M} {id : Nat}

/-- The answers of the native calls made between `w` and `w'`. -/
def heardSince (w w' : World M) : List Heard :=
  answers (w'.impl.mysql.calls.drop w.impl.mysql.calls.length)

/-- A healthy answer does not fail the operation, and an exceptional one fails
it at once: nothing is heard after it. -/
structure HeedsStatus (w w' : World M) (id : Nat) (h : Heard) : Prop where
  healthy : Healthy h.status →
    ∀ c ∈ w'.invoked.drop w.invoked.length, c.outcome.code.failed = false
  exceptional : Exceptional h.status → (∃ pre, w.heardSince w' = pre ++ [h]) ∧
    ∃ o : Outcome, w'.invoked = w.invoked ++ [⟨id, o⟩] ∧ o.code.failed = true

theorem Sound.tells (hs : w.Sound) {a : Action} (hstep : w.step L a = some w')
    (hid : w.running a = some id) :
    (∃ (w1 : World M) (t : Turn M Handler), w' = w1.settle id t ∧ w1.invoked = w.invoked ∧
      t.Tells L w.impl) ∨ (Prelude w.impl w'.impl ∧ w'.invoked = w.invoked) := by
  cases a with
  | initiate r =>
    cases hstep
    obtain rfl : w.next = id := Option.some_inj.mp hid
    have ht := initiate_tells L w.impl r
    unfold World.initiate
    cases hi : MariadbService.initiate L w.impl r with
    | posted j o =>
      rw [hi] at ht
      exact .inr ⟨ht, rfl⟩
    | ran t =>
      rw [hi] at ht
      exact .inl ⟨{ w with next := w.next + 1 }, t, rfl, rfl, ht⟩
  | fire k ec =>
    obtain ⟨x, hx, rfl⟩ := World.step_fire hstep
    obtain rfl : x.id = id := by simpa [running, hx] using hid
    refine .inl ⟨{ w with waits := w.waits.eraseIdx k }, _, rfl, rfl, ?_⟩
    cases hck : (checkToken x.handler.token w.impl ec).failed with
    | true =>
      rw [Handler.call_stopped hck]
      exact .quiet (.same rfl) _
    | false =>
      obtain ⟨c, hr⟩ := hs.resting x (List.mem_of_getElem? hx)
      exact Handler.resumed_tells hr hck _
  | deliver => cases hid
  | cancel => cases hid
  | close => cases hid
  | call ec op => cases hid

theorem heardSince_eq {log : List Call} (h : w'.impl.mysql.calls = w.impl.mysql.calls ++ log) :
    w.heardSince w' = answers log := by
  rw [heardSince, h, List.drop_left]

theorem heedsStatus_done {h : Heard} (h0 : h.status = 0) :
    HeedsStatus w w' id h ↔ CalmIfHealthy h.status h.errno h.retFailed :=
  ⟨fun _ => .inl h0, fun _ => ⟨fun hh => absurd h0 hh.1, fun he => absurd (by rw [h0]; rfl) he⟩⟩

theorem heedsStatus_calm {h : Heard} (h0 : h.status ≠ 0) (hcalm : h.calm = true)
    (hinv : w'.invoked = w.invoked) :
    HeedsStatus w w' id h ↔ CalmIfHealthy h.status h.errno h.retFailed := by
  have hc : h.errno = 0 ∧ h.retFailed = true := by simpa [Heard.calm] using hcalm
  constructor
  · intro hs
    refine .inr ⟨fun _ => ?_, fun _ => hc⟩
    by_contra hx
    obtain ⟨-, o, ho, -⟩ := hs.exceptional hx
    rw [hinv] at ho
    exact absurd (congrArg List.length ho) (by simp)
  · intro hif
    refine ⟨fun _ c hcm => ?_, fun hx => absurd ((hif.resolve_left h0).mp hc) hx⟩
    simp [hinv] at hcm

theorem heedsStatus_failed {h : Heard} (h0 : h.status ≠ 0) (hcalm : h.calm = false)
    {pre : List Heard} (hpre : w.heardSince w' = pre ++ [h]) {o : Outcome}
    (hinv : w'.invoked = w.invoked ++ [⟨id, o⟩]) (ho : o.code.failed = true) :
    HeedsStatus w w' id h ↔ CalmIfHealthy h.status h.errno h.retFailed := by
  have hc : ¬ (h.errno = 0 ∧ h.retFailed = true) := by
    intro hc
    simp [Heard.calm, hc.1, hc.2] at hcalm
  constructor
  · intro hs
    refine .inr ⟨fun h => absurd h hc, fun hx => ?_⟩
    have hok := hs.healthy ⟨h0, hx⟩ ⟨id, o⟩ (by simp [hinv])
    rw [ho] at hok
    cases hok
  · intro hif
    exact ⟨fun hh => absurd ((hif.resolve_left h0).mpr hh.2) hc, fun _ => ⟨⟨pre, hpre⟩, o, hinv, ho⟩⟩

/-- **Each answer of a step is heeded** exactly if it is calm while it is healthy. -/
theorem Sound.heedsStatus_iff (hs : w.Sound) {a : Action} (hstep : w.step L a = some w')
    (hid : w.running a = some id) {h : Heard} (hh : h ∈ w.heardSince w') :
    HeedsStatus w w' id h ↔ CalmIfHealthy h.status h.errno h.retFailed := by
  -- the answers before the last are done
  have hlast : ∀ {log : List Call} {x : Heard}, w'.impl.mysql.calls = w.impl.mysql.calls ++ log →
      SuspendedBy log x → h.status = 0 ∨ h = x := by
    intro log x hlog ⟨_, ⟨pre, hpre, hz⟩, _⟩
    rw [heardSince_eq hlog, hpre] at hh
    rcases List.mem_append.mp hh with hh | hh
    · exact .inl (hz h hh)
    · exact .inr (List.mem_singleton.mp hh)
  rcases hs.tells hstep hid with ⟨w1, t, rfl, hinv, ht⟩ | ⟨⟨log, hlog, hdone, -⟩, -⟩
  · cases t with
    | wait j p on =>
      obtain ⟨log, x, hlog, hsus, hcalm⟩ := ht
      rcases hlast hlog hsus with h0 | rfl
      · exact heedsStatus_done h0
      · exact heedsStatus_calm hsus.status hcalm hinv
    | dropped j =>
      obtain ⟨log, x, hlog, hsus, hcalm⟩ := ht
      rcases hlast hlog hsus with h0 | rfl
      · exact heedsStatus_done h0
      · exact heedsStatus_calm hsus.status hcalm hinv
    | invoke j o =>
      obtain ⟨log, hlog, ⟨x, hsus, hcalm, hcode⟩ | ⟨hdone, -⟩⟩ := ht
      · rcases hlast hlog hsus with h0 | rfl
        · exact heedsStatus_done h0
        · obtain ⟨h0, ⟨pre, hpre, -⟩, -⟩ := hsus
          exact heedsStatus_failed h0 hcalm (by rw [heardSince_eq hlog, hpre])
            (by simp [settle, hinv]) hcode
      · rw [heardSince_eq hlog] at hh
        exact heedsStatus_done (hdone h hh)
    | assertion => exact ht.elim
    | spinning => exact ht.elim
  · rw [heardSince_eq hlog] at hh
    exact heedsStatus_done (hdone h hh)

end World

/-- **Suspended and exceptional calls are told apart** exactly while the handle has
no errno and the result variable says failure just as long as the call is healthy:
by the wrappers, and by every step of a connector that runs a handler. -/
theorem suspended_told_apart_iff (L : Library M) :
    (∀ (R : Type) [ReturnType R] (f : NbFn M R) (r : R) (h : Mysql M) (ec : ErrorCode),
      (mysqlStart L f r h ec).ToldApart L ↔
        CalmIfHealthy (f.start h.st).status (L.errno (f.start h.st).st)
          (ReturnType.failed ((f.start h.st).ret.getD r))) ∧
    (∀ (R : Type) [ReturnType R] (f : NbFn M R) (r : R) (h : Mysql M) (ec : ErrorCode)
        (status : UInt32),
      (mysqlContinue L f r h ec status).ToldApart L ↔
        CalmIfHealthy (f.cont status h.st).status (L.errno (f.cont status h.st).st)
          (ReturnType.failed ((f.cont status h.st).ret.getD r))) ∧
    ∀ (st : M) (as : List Action) (w w' : World M) (a : Action) (id : Nat) (h : Heard),
      Run (World.step L) anyStep (.start (MariadbImplementation.construct st)) as w →
      w.step L a = some w' → w.running a = some id → h ∈ w.heardSince w' →
        (World.HeedsStatus w w' id h ↔ CalmIfHealthy h.status h.errno h.retFailed) := by
  refine ⟨fun R _ f r h ec => toldApart_iff rfl, fun R _ f r h ec status => toldApart_iff rfl, ?_⟩
  intro st as w w' a id h hrun hstep hid hh
  have hs : w.Sound := hrun.invariant (World.start_sound st) fun _ _ _ h _ hstep => h.step hstep
  exact hs.heedsStatus_iff hstep hid hh

theorem suspended_told_apart_writable :
    ∃ (w : World Script) (h : Heard),
      (World.start (MariadbImplementation.construct { waits := [[⟨false, true, false⟩]] })).step
        Script.library (.initiate (.connect (Script.login defaultFlags))) = some w ∧
      Healthy h.status ∧ World.HeedsStatus
        (.start (MariadbImplementation.construct { waits := [[⟨false, true, false⟩]] })) w 0 h := by
  obtain ⟨w, h, hw, hh, hst, he, hr⟩ : ∃ (w : World Script) (h : Heard),
      (World.start (MariadbImplementation.construct { waits := [[⟨false, true, false⟩]] })).step
        Script.library (.initiate (.connect (Script.login defaultFlags))) = some w ∧
      h ∈ World.heardSince
        (.start (MariadbImplementation.construct { waits := [[⟨false, true, false⟩]] })) w ∧
      h.status = WaitType.write ∧ h.errno = 0 ∧ h.retFailed = true :=
    ⟨_, _, rfl, List.mem_singleton.mpr rfl, rfl, rfl, rfl⟩
  refine ⟨w, h, hw, by rw [hst]; decide, ((suspended_told_apart_iff Script.library).2.2 _ [] _ w
    (.initiate (.connect (Script.login defaultFlags))) 0 h .start hw rfl hh).mpr (.inr ?_)⟩
  rw [hst, he, hr]
  decide

/-- A connect that is suspended for reading when it is started, and exceptional when
it is continued. -/
def exceptionalConnect : NbFn Script (Option Unit) where
  name := .realConnect (Script.login defaultFlags).args
  start m := ⟨WaitType.read, none, m⟩
  cont _ m := ⟨WaitType.except, none, m⟩

/-- A healthy call fails by the errno an earlier one left, and an exceptional call
leaves no error on a handle that has none. -/
theorem suspended_mixed_up :
    let healthy := mysqlStart Script.library exceptionalConnect none ⟨{ errno := 2003 }, []⟩ .clear
    let exceptional := mysqlContinue Script.library exceptionalConnect none ⟨{}, []⟩ .clear
      WaitType.read
    (Healthy healthy.status ∧ healthy.ec = .client 2003 ∧ ¬ healthy.ToldApart Script.library) ∧
      Exceptional exceptional.status ∧ exceptional.ec = .client 0 ∧
        ¬ exceptional.ToldApart Script.library := by
  refine ⟨⟨by decide, rfl, fun h => ?_⟩, by decide, rfl, fun h => ?_⟩
  · exact absurd (h.healthy (by decide)) (by decide)
  · exact absurd (h.exceptional (by decide)) (by decide)

end MariadbService

end Amy
