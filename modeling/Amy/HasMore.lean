import Amy.Results
import Amy.Script
import Amy.Base.Runs

/-!
# When `has_more_results` is exact

Runs of `open`, `connect`, `query`, `store_result` and `close` on one
connector. `Books` ties `flags` and `first_result_stored` to what the handle
holds; every step keeps it (`Books.step`) but two kinds, which `StepOk` leaves
out: `store_result` given a failed code before the first result is stored, and
a connect that fails on a live session and takes its multi-result flags away.

The branch for several results answers true whenever the first result is not
stored, whether there is one or not; the other branch asks the library.
-/

namespace Amy

open Base

variable {M : Type}

/-- An operation on the results of a connector; `ec` is what the caller's variable holds. -/
inductive SessionOp where
  | «open» (ec : ErrorCode)
  | connect (c : ConnectRequest) (ec : ErrorCode)
  | query (stmt : String) (ec : ErrorCode)
  | storeResult (ec : ErrorCode)
  | close
  deriving DecidableEq, Repr

/-- A connector and whether, since it was opened or connected, it has been
queried and its last query succeeded. -/
structure Session (M : Type) where
  impl : Implementation M
  answered : Bool

namespace Session

variable (svc : MySQLService) (L : Library M)

def construct (st : M) : Session M := ⟨.construct st, false⟩

def step (s : Session M) : SessionOp → Option (Session M)
  | .open ec => some ⟨(Connector.openEc svc L s.impl ec).impl, s.impl.initialized && s.answered⟩
  | .connect c ec =>
    let o := Connector.connectEc svc L s.impl c ec
    some ⟨o.impl, s.impl.initialized && o.ec.failed && s.answered⟩
  | .query stmt ec =>
    let o := Connector.queryEc svc L s.impl stmt ec
    some ⟨o.impl, s.impl.initialized && !o.ec.failed⟩
  | .storeResult ec => some ⟨(Connector.storeResultEc svc L s.impl ec).impl, s.answered⟩
  | .close => some ⟨Connector.close svc L s.impl, false⟩

/-- Neither of the two steps after which the flags no longer fit what is held. -/
def StepOk (held : M → Held) (s : Session M) : SessionOp → Prop
  | .connect c _ => s.impl.initialized = true → (L.realConnect c.args s.impl.mysql.st).1 = none →
      (held s.impl.mysql.st).multi = true → multiResults c.flags = true
  | .storeResult ec => s.impl.initialized = true → s.impl.firstResultStored = false →
      ec.failed = false
  | _ => True

end Session

/-! ## What exact means -/

/-- The results the library holds for a connector: none while it is not open. -/
def Implementation.holding (held : M → Held) (i : Implementation M) : Held :=
  if i.initialized then held i.mysql.st else .idle none

/-- `it` is held, not stored yet, and the next `store_result` goes to it: to the
current result before the first is stored, to the one after it from then on. -/
def NextUp (held : M → Held) (i : Implementation M) (it : Item) : Prop :=
  if i.firstResultStored then
    (i.holding held).current = none ∧ (i.holding held).later.head? = some it
  else (i.holding held).current = some it

/-- **`has_more_results` is exact**: true only if the next `store_result` has a
result to fetch, false only if nothing with columns is left. -/
def HasMoreExact (svc : MySQLService) (L : Library M) (held : M → Held) (i : Implementation M) :
    Prop :=
  ((Connector.hasMoreResults svc L i).1 = true → ∃ it, NextUp held i it) ∧
  ((Connector.hasMoreResults svc L i).1 = false →
    ∀ it ∈ (i.holding held).unread, it.hasColumns = false)

/-! ## The invariant -/

/-- How the marks of an open connector fit what its handle holds. -/
structure Books (L : Library M) (held : M → Held) (i : Implementation M) (answered : Bool) :
    Prop where
  flags : (held i.mysql.st).multi = true → multiResults i.flags = true
  later : (held i.mysql.st).later ≠ [] → (held i.mysql.st).multi = true
  stored : i.firstResultStored = true → (held i.mysql.st).current = none
  unstored : i.firstResultStored = false → answered = true → ∃ it,
    (held i.mysql.st).current = some it ∧ (L.fieldCount i.mysql.st ≠ 0 ↔ it.hasColumns = true)
  nothing : i.firstResultStored = false → answered = false →
    (held i.mysql.st).current = none ∧ (held i.mysql.st).later = [] ∧ L.fieldCount i.mysql.st = 0

section Steps

variable {L : Library M} {held : M → Held} {i : Implementation M} {b : Bool}

namespace Books

theorem of_idle {s : Option UInt64} (hh : held i.mysql.st = .idle s)
    (hc : L.fieldCount i.mysql.st = 0)
    (hf : s.any multiResults = true → multiResults i.flags = true) :
    Books L held i false where
  flags := by simpa [hh, Held.multi, Held.idle] using hf
  later := by simp [hh, Held.idle]
  stored := by simp [hh, Held.idle]
  unstored := by simp
  nothing := by simp [hh, Held.idle, hc]

theorem congr {j : Implementation M} (h : Books L held i b) (hf : j.flags = i.flags)
    (h1 : j.firstResultStored = i.firstResultStored) (hs : j.mysql.st = i.mysql.st) :
    Books L held j b := by
  obtain ⟨a, b, c, d, e⟩ := h
  exact ⟨by rwa [hs, hf], by rwa [hs], by rwa [h1, hs], by rwa [h1, hs], by rwa [h1, hs]⟩

theorem later_nil (h : Books L held i b) (hm : multiResults i.flags = false) :
    (held i.mysql.st).later = [] := by
  by_contra hne
  rw [h.flags (h.later hne)] at hm
  cases hm

theorem of_stored (hf : (held i.mysql.st).multi = true → multiResults i.flags = true)
    (hl : (held i.mysql.st).later ≠ [] → (held i.mysql.st).multi = true)
    (h1 : i.firstResultStored = true) (hc : (held i.mysql.st).current = none) :
    Books L held i b where
  flags := hf
  later := hl
  stored := fun _ => hc
  unstored := by simp [h1]
  nothing := by simp [h1]

theorem init (hA : Accounts L held) (hclosed : i.initialized = false) (ec : ErrorCode)
    (ho : (Service.open L i ec).impl.initialized = true) :
    Books L held (Service.open L i ec).impl false ∧
      held (Service.open L i ec).impl.mysql.st = .idle none := by
  simp only [Service.open, hclosed, mysqlInit] at ho ⊢
  cases hi : L.init i.mysql.st with
  | none => simp [hi] at ho
  | some m =>
    obtain ⟨hheld, hcount⟩ := hA.init hi
    exact ⟨of_idle hheld hcount (by simp), hheld⟩

theorem connectOpen (hA : Accounts L held) (h : Books L held i b) (c : ConnectRequest)
    (ec : ErrorCode) (hok : (L.realConnect c.args i.mysql.st).1 = none →
      (held i.mysql.st).multi = true → multiResults c.flags = true) :
    Books L held (Service.connectOpen L i c ec).impl
      ((Service.connectOpen L i c ec).ec.failed && b) := by
  simp only [Service.connectOpen, mysqlRealConnect, wrapped]
  cases hr : (L.realConnect c.args i.mysql.st).1 with
  | some u =>
    obtain ⟨hheld, hcount⟩ := hA.connect_ok hr
    simp only [errorWrapper, failed_some, Bool.false_eq_true, if_false, clearError_eq,
      ErrorCode.failed_clear, Bool.false_and]
    exact of_idle hheld hcount (by simp [ConnectRequest.args])
  | none =>
    obtain ⟨herr, hheld, hcount⟩ := hA.connect_null hr
    simp only [errorWrapper, failed_none, if_true, ErrorCode.failed_client, bne_iff_ne.mpr herr,
      Bool.true_and]
    refine ⟨?_, ?_, ?_, ?_, ?_⟩ <;> simp only [Mysql.call_st, hheld, hcount]
    · exact hok hr
    · exact h.later
    · exact h.stored
    · exact h.unstored
    · exact h.nothing

theorem query (hA : Accounts L held) (h : Books L held i b) (hopen : i.initialized = true)
    (stmt : String) (ec : ErrorCode) :
    Books L held (Service.query L i stmt ec).impl (!(Service.query L i stmt ec).ec.failed) := by
  rw [Service.query_open hopen]
  by_cases hr : (L.realQuery stmt i.mysql.st).1 = 0
  · obtain ⟨it, later, hheld, -, hlater, hcol⟩ := hA.query_ok hr
    have hec : (errorWrapper (L.realQuery stmt i.mysql.st).1
        (L.errno (L.realQuery stmt i.mysql.st).2) .clear).failed = false := by
      simp [errorWrapper, hr]
    refine ⟨?_, ?_, ?_, ?_, ?_⟩ <;> simp only [Mysql.call_st, hheld, hec, Implementation.freeResult_flags]
    · exact h.flags
    · exact hlater
    · simp
    · exact fun _ _ => ⟨it, rfl, hcol⟩
    · simp
  · obtain ⟨herr, hheld, hcount⟩ := hA.query_failed hr
    have hec : (errorWrapper (L.realQuery stmt i.mysql.st).1
        (L.errno (L.realQuery stmt i.mysql.st).2) .clear).failed = true := by
      simp [errorWrapper, hr, herr]
    simp only [hec, Bool.not_true]
    refine of_idle (s := (held i.mysql.st).session) hheld hcount ?_
    simpa [Held.multi] using h.flags

theorem storeResult (hA : Accounts L held) (h : Books L held i b) (hopen : i.initialized = true)
    (ec : ErrorCode) (hok : i.firstResultStored = false → ec.failed = false) :
    Books L held (Service.storeResult L i ec).impl b := by
  -- what is stored is given up, the rest stays
  have hret : ∀ {j : Implementation M} (ec : ErrorCode), j.firstResultStored = true →
      ((held j.mysql.st).multi = true → multiResults j.flags = true) →
      ((held j.mysql.st).later ≠ [] → (held j.mysql.st).multi = true) →
      Books L held (Service.retrieve L j ec).impl b := fun {j} ec h1 hf hl => by
    have hheld := Service.retrieve_held (i := j) hA ec
    refine of_stored ?_ ?_ ?_ ?_
    · simpa [hheld, Held.multi] using hf
    · simpa [hheld, Held.multi] using hl
    · simpa using h1
    · rw [hheld]
  unfold Service.storeResult
  cases h1 : i.firstResultStored with
  | false =>
    rw [Service.nextResult_first h1]
    simp only [hok h1, Bool.false_eq_true, if_false]
    exact hret ec rfl h.flags h.later
  | true =>
    cases hm : (Service.hasMoreResults L i.freeResult).1 with
    | false =>
      rw [Service.nextResult_done h1 ec hm]
      simp only [ErrorCode.failed_noMoreResults, if_true, Service.hasMoreResults_impl]
      exact h.congr (by simp) (by simp) (by simp)
    | true =>
      rw [Service.nextResult_next h1 ec hm]
      have hmulti : multiResults i.flags = true ∧ L.moreResults i.mysql.st = true := by
        rw [Service.hasMoreResults_fst (by simpa using hopen)] at hm
        cases hf : multiResults i.flags <;> simp_all
      obtain ⟨it, later, hlater⟩ : ∃ it later, (held i.mysql.st).later = it :: later := by
        have := hmulti.2
        rw [hA.more] at this
        cases hl : (held i.mysql.st).later with
        | nil => simp [hl] at this
        | cons it later => exact ⟨it, later, rfl⟩
      have hfirst : (Service.hasMoreResults L i.freeResult).2.firstResultStored = true := by
        simp [Service.hasMoreResults_impl, h1]
      have hflags : (Service.hasMoreResults L i.freeResult).2.flags = i.flags := by
        simp [Service.hasMoreResults_impl]
      rcases hA.next hlater with ⟨hr, -, hheld⟩ | ⟨hr, herr, hheld⟩
      · simp only [errorWrapper, failed_int, hr, bne_self_eq_false, Bool.false_eq_true, if_false,
          ErrorCode.failed_clear]
        refine hret _ hfirst ?_ ?_
        · simp [hflags, hmulti.1]
        · have := h.later (by simp [hlater])
          simpa [hheld, Held.multi] using fun _ => this
      · simp only [errorWrapper, failed_int, bne_iff_ne.mpr hr, if_true, ErrorCode.failed_client,
          bne_iff_ne.mpr herr]
        refine of_stored ?_ ?_ hfirst ?_
        · simp [hflags, hmulti.1]
        · simp [hheld, Held.idle]
        · simp [hheld, Held.idle]

end Books

/-! ## Every run keeps the books -/

variable {svc : MySQLService}

theorem Service.connect_initialized (h : i.initialized = true) (c : ConnectRequest)
    (ec : ErrorCode) : Service.connect L i c ec = Service.connectOpen L i c ec := by
  simp [Service.connect, h]

theorem Service.connect_closed (h : i.initialized = false) (c : ConnectRequest) (ec : ErrorCode) :
    Service.connect L i c ec =
      if (Service.open L i ec).ec.failed then Service.open L i ec
      else Service.connectOpen L (Service.open L i ec).impl c (Service.open L i ec).ec := by
  simp [Service.connect, h]

/-- **Steps keep the books** of a connector while it is open. -/
theorem Books.step (hA : Accounts L held) {s t : Session M} {op : SessionOp}
    (hs : s.impl.initialized = true → Books L held s.impl s.answered)
    (hok : s.StepOk L held op) (hstep : s.step svc L op = some t) :
    t.impl.initialized = true → Books L held t.impl t.answered := by
  cases hopen : s.impl.initialized with
  | true =>
    have hb := hs hopen
    cases op with
    | «open» ec =>
      simp only [Session.step, Connector.openEc_eq, Option.some.injEq] at hstep
      subst hstep
      simp only [Service.open_initialized hopen, hopen, Bool.true_and]
      exact fun _ => hb
    | connect c ec =>
      simp only [Session.step, Connector.connectEc_eq, Option.some.injEq] at hstep
      subst hstep
      simp only [Service.connect_initialized hopen, hopen, Bool.true_and]
      exact fun _ => hb.connectOpen hA c ec fun hr hm => hok hopen hr hm
    | query stmt ec =>
      simp only [Session.step, Connector.queryEc_eq, Option.some.injEq] at hstep
      subst hstep
      simp only [hopen, Bool.true_and]
      exact fun _ => hb.query hA hopen stmt ec
    | storeResult ec =>
      simp only [Session.step, Connector.storeResultEc_eq, Option.some.injEq] at hstep
      subst hstep
      exact fun _ => hb.storeResult hA hopen ec fun h1 => hok hopen h1
    | close =>
      simp only [Session.step, Connector.close_eq, Option.some.injEq] at hstep
      subst hstep
      simp [Service.close, hopen, Implementation.close_initialized]
  | false =>
    cases op with
    | «open» ec =>
      simp only [Session.step, Connector.openEc_eq, Option.some.injEq] at hstep
      subst hstep
      simp only [hopen, Bool.false_and]
      exact fun ho => (Books.init hA hopen ec ho).1
    | connect c ec =>
      simp only [Session.step, Connector.connectEc_eq, Option.some.injEq] at hstep
      subst hstep
      simp only [Service.connect_closed hopen, hopen, Bool.false_and]
      split_ifs with hf
      · simp [Service.open_failed hopen, hf]
      · obtain ⟨hb, hh⟩ := Books.init hA hopen ec (by simpa [Service.open_failed hopen] using hf)
        intro _
        have := hb.connectOpen hA c (Service.open L s.impl ec).ec
          fun _ hm => by simp [hh, Held.multi, Held.idle] at hm
        simpa using this
    | query stmt ec =>
      simp only [Session.step, Connector.queryEc_eq, Option.some.injEq] at hstep
      subst hstep
      simp [Service.query, hopen]
    | storeResult ec =>
      simp only [Session.step, Connector.storeResultEc_eq, Option.some.injEq] at hstep
      subst hstep
      simp [Service.storeResult_initialized, hopen]
    | close =>
      simp only [Session.step, Connector.close_eq, Option.some.injEq] at hstep
      subst hstep
      simp [Service.close, hopen]

theorem hasMoreExact_of_closed (h : i.initialized = false) : HasMoreExact svc L held i := by
  constructor
  · simp [Service.hasMoreResults_closed h]
  · simp [Implementation.holding, h, Held.unread, Held.idle]

/-- On an open connector whose books are kept, the answer is exact unless the
connector asks for several results and there is no first one to store. -/
theorem Books.exact_iff (hA : Accounts L held) (h : Books L held i b)
    (hopen : i.initialized = true) :
    HasMoreExact svc L held i ↔
      (multiResults i.flags = true → i.firstResultStored = false → b = true) := by
  unfold HasMoreExact NextUp
  simp only [Connector.hasMoreResults_eq, Service.hasMoreResults_fst hopen,
    Implementation.holding, hopen, if_true]
  cases hm : multiResults i.flags <;> cases h1 : i.firstResultStored
  · -- the library's field count answers
    have hl := h.later_nil hm
    cases b with
    | true =>
      obtain ⟨it, hc, hcol⟩ := h.unstored h1 rfl
      have : (L.fieldCount i.mysql.st != 0) = it.hasColumns := by
        rw [Bool.eq_iff_iff, ← hcol]; simp
      simp [hc, this, Held.unread, hl]
    | false =>
      obtain ⟨hc, -, hcount⟩ := h.nothing h1 rfl
      simp [hc, hcount, Held.unread, hl]
  · simp [h.stored h1, h.later_nil hm, Held.unread]
  · -- true whatever the library holds
    cases b with
    | true =>
      obtain ⟨it, hc, -⟩ := h.unstored h1 rfl
      simp [hc]
    | false =>
      obtain ⟨hc, -, -⟩ := h.nothing h1 rfl
      simp [hc]
  · simp only [Bool.not_true, Bool.false_or, hA.more, h.stored h1, Held.unread, Option.toList_none,
      List.nil_append, if_true]
    cases (held i.mysql.st).later <;> simp

/-- **When `has_more_results` is exact.** In every state of a run without the
two kinds of step, the answer is exact if and only if the connector is not
open, asks for one result, has stored the first, or its last query succeeded. -/
theorem hasMoreExact_iff (hA : Accounts L held) {st : M} {ops : List SessionOp} {s : Session M}
    (hrun : Run (Session.step svc L) (Session.StepOk L held) (.construct st) ops s) :
    HasMoreExact svc L held s.impl ↔
      (s.impl.initialized = true → multiResults s.impl.flags = true →
        s.impl.firstResultStored = false → s.answered = true) := by
  have hb : s.impl.initialized = true → Books L held s.impl s.answered :=
    hrun.invariant (I := fun s => s.impl.initialized = true → Books L held s.impl s.answered)
      (by simp [Session.construct, Implementation.construct])
      fun _ _ _ hs hok hstep => Books.step hA hs hok hstep
  cases hopen : s.impl.initialized with
  | false => exact ⟨fun _ h => (by cases h), fun _ => hasMoreExact_of_closed hopen⟩
  | true => simpa using (hb hopen).exact_iff hA hopen

end Steps

/-! ## A connect on the scripted library -/

def multiConnect : ConnectRequest := Script.login clientMultiStatements

def connectedHandle : Script :=
  { held := .idle (some clientMultiStatements), connecting := clientMultiStatements }

def connected : Session Script where
  impl := ⟨⟨connectedHandle, [.init, .realConnect multiConnect.args]⟩, clientMultiStatements, true,
    false, none, 0⟩
  answered := false

theorem connected_run :
    Run (Session.step .mysql Script.library) (Session.StepOk Script.library Script.held)
      (.construct {}) [.connect multiConnect .clear] connected :=
  Run.single (fun h => by cases h) rfl

/-- A connected connector on which no query was run claims a result. -/
theorem hasMore_connected :
    Run (Session.step .mysql Script.library) anyStep (.construct {})
        [.connect multiConnect .clear] connected ∧
      ¬ HasMoreExact .mysql Script.library Script.held connected.impl := by
  refine ⟨Run.single trivial rfl, fun h => ?_⟩
  obtain ⟨it, hit⟩ := h.1 (by decide)
  cases hit

theorem hasMoreExact_iff_queried :
    let s : Session Script :=
      ⟨(Connector.queryEc .mysql Script.library connected.impl "do 1" .clear).impl, true⟩
    HasMoreExact .mysql Script.library Script.held s.impl ↔
      (s.impl.initialized = true → multiResults s.impl.flags = true →
        s.impl.firstResultStored = false → s.answered = true) :=
  hasMoreExact_iff Script.obliging.toAccounts
    (connected_run.snoc
      (show Session.StepOk _ _ connected (.query "do 1" .clear) from trivial) rfl)

end Amy
