import Amy.Mariadb.Wait
import Amy.Results
import Amy.Base.Runs

/-!
# The library's protocol and the calls of an operation

While a non-blocking call is suspended its handle must not be used for another:
`Talk.step` follows the suspended call through a list of native calls and has
no next state at a breach. `Moves i j s s' n` says what an operation did to a
connector: it keeps its token and stays open, hears `n` bare answers, and takes
the library from `s` suspended to `s'` as long as every suspended answer was
calm. Blocking operations suspend nothing (`perform_moves`).
-/

namespace Amy

open Base

variable {M : Type}

/-! ## Answers that were heard -/

namespace Heard

/-- While suspended: no errno, and `*ret` not written. -/
def calm (h : Heard) : Bool := h.errno == 0 && h.retFailed

/-- A suspended call that names none of read, write and timeout, and leaves no
error: of the documented statuses, `MYSQL_WAIT_EXCEPT` alone. -/
def bare (h : Heard) : Bool := h.status != 0 && (WaitFor.of h.status).isNone && h.calm

end Heard

namespace Call

def heard? : Call → Option Heard
  | .start _ h => some h
  | .cont _ _ h => some h
  | _ => none

def bare (c : Call) : Bool := c.heard?.any Heard.bare

def calm (c : Call) : Bool := c.heard?.all fun h => h.status == 0 || h.calm

end Call

/-! ## The library's protocol -/

/-- The native calls of a handle one after the other: `none` is a breach, the
state is the suspended call. A call that talks to the server, and a `_start`,
needs that none is suspended; a `_cont` continues the suspended one. -/
def Talk.step : Option NbCall → Call → Option (Option NbCall)
  | s, .start c h =>
    if s = none then some (if h.status = 0 then none else some c) else none
  | s, .cont c _ h =>
    if s = some c then some (if h.status = 0 then none else some c) else none
  | s, .realConnect _ | s, .realQuery _ | s, .storeResult | s, .nextResult | s, .autocommit _
  | s, .commit | s, .rollback | s, .close => if s = none then some none else none
  | _, .init => some none
  | s, _ => some s

/-- Calls that leave what is suspended as it is. -/
def Call.quiet : Call → Bool
  | .options _ | .fieldCount | .moreResults _ | .affectedRows | .errno | .error | .freeResult _
  | .getSocket | .getTimeoutValue => true
  | _ => false

theorem Talk.step_quiet {c : Call} (h : c.quiet = true) (s : Option NbCall) :
    Talk.step s c = some s := by
  cases c <;> first | rfl | cases h

theorem Talk.exec_quiet {log : List Call} (h : ∀ c ∈ log, c.quiet = true) (s : Option NbCall) :
    exec Talk.step s log = some s := by
  induction log with
  | nil => rfl
  | cons c log ih =>
    rw [exec, Talk.step_quiet (h c (by simp)), Option.bind_some]
    exact ih fun d hd => h d (by simp [hd])

theorem Talk.step_unheard {c : Call} (h : c.heard? = none) : Talk.step none c = some none := by
  cases c <;> first | rfl | cases h

/-- Calls that are neither a start nor a continuation suspend nothing. -/
theorem Talk.exec_unheard {log : List Call} (h : ∀ c ∈ log, c.heard? = none) :
    exec Talk.step none log = some none := by
  induction log with
  | nil => rfl
  | cons c log ih =>
    rw [exec, Talk.step_unheard (h c (by simp)), Option.bind_some]
    exact ih fun d hd => h d (by simp [hd])

theorem Call.heard_quiet {c : Call} (h : c.quiet = true) : c.heard? = none := by
  cases c <;> first | rfl | cases h

theorem resetResult_calls (i : Implementation M) (p : Option MysqlRes) :
    ∃ log, (i.resetResult p).mysql.calls = i.mysql.calls ++ log ∧ ∀ c ∈ log, c.quiet = true := by
  cases hl : i.lastResult with
  | none => exact ⟨[], by simp [Implementation.resetResult, hl], by simp⟩
  | some x =>
    exact ⟨[.freeResult x.ptr], by simp [Implementation.resetResult, hl],
      List.forall_mem_singleton.mpr rfl⟩

/-- From `i` to `j` the connector made native calls that took the library from
`s` suspended to `s'`, and heard `n` bare answers. -/
structure Moves (i j : Implementation M) (s s' : Option NbCall) (n : Nat) : Prop where
  opened : i.initialized = true → j.initialized = true
  token : j.cancelationToken = i.cancelationToken
  log : ∃ log, j.mysql.calls = i.mysql.calls ++ log ∧ log.countP Call.bare = n ∧
    ((∀ c ∈ log, c.calm = true) → exec Talk.step s log = some s')

namespace Moves

variable {i j k : Implementation M} {s s1 s' : Option NbCall} {n m : Nat}

theorem trans (h1 : Moves i j s s1 n) (h2 : Moves j k s1 s' m) : Moves i k s s' (n + m) := by
  obtain ⟨ho, ht, a, ha, hna, hra⟩ := h1
  obtain ⟨ho', ht', b, hb, hnb, hrb⟩ := h2
  refine ⟨fun h => ho' (ho h), ht'.trans ht, a ++ b, by rw [hb, ha, List.append_assoc], ?_, fun hc => ?_⟩
  · rw [List.countP_append, hna, hnb]
  · rw [exec_append, hra fun c hm => hc c (by simp [hm]), Option.bind_some]
    exact hrb fun c hm => hc c (by simp [hm])

theorem closed (h : Moves i j s s' n) (hj : j.initialized = false) : i.initialized = false :=
  Bool.eq_false_iff.mpr fun hi => by simp [h.opened hi] at hj

theorem bares (h : Moves i j s s' n) :
    j.mysql.calls.countP Call.bare = i.mysql.calls.countP Call.bare + n := by
  obtain ⟨-, -, log, hlog, hn, -⟩ := h
  rw [hlog, List.countP_append, hn]

/-- What was suspended before the move, as the log so far tells it, is what the
move started from; the log after it tells what is suspended then. -/
theorem talk (h : Moves i j s s' n)
    (hi : (∀ c ∈ i.mysql.calls, c.calm = true) → exec Talk.step none i.mysql.calls = some s)
    (hc : ∀ c ∈ j.mysql.calls, c.calm = true) : exec Talk.step none j.mysql.calls = some s' := by
  obtain ⟨-, -, log, hlog, -, hrun⟩ := h
  rw [hlog] at hc ⊢
  rw [exec_append, hi fun c hm => hc c (by simp [hm]), Option.bind_some]
  exact hrun fun c hm => hc c (by simp [hm])

theorem quiet {l : List Call} (ho : j.initialized = i.initialized)
    (ht : j.cancelationToken = i.cancelationToken) (hlog : j.mysql.calls = i.mysql.calls ++ l)
    (hq : ∀ c ∈ l, c.quiet = true) (s : Option NbCall) : Moves i j s s 0 := by
  refine ⟨ho.trans, ht, l, hlog, ?_, fun _ => Talk.exec_quiet hq s⟩
  rw [List.countP_eq_zero]
  intro c hc
  simp [Call.bare, Call.heard_quiet (hq c hc)]

theorem same (ho : j.initialized = i.initialized) (ht : j.cancelationToken = i.cancelationToken)
    (hc : j.mysql.calls = i.mysql.calls) (s : Option NbCall) : Moves i j s s 0 :=
  quiet (l := []) ho ht (by simp [hc]) (by simp) s

theorem refl (i : Implementation M) (s : Option NbCall) : Moves i i s s 0 :=
  same rfl rfl rfl s

theorem heard {c : Call} {h : Heard} (ho : j.initialized = i.initialized)
    (ht : j.cancelationToken = i.cancelationToken) (hlog : j.mysql.calls = i.mysql.calls ++ [c])
    (hh : c.heard? = some h) (hs : (h.status = 0 ∨ h.calm = true) → Talk.step s c = some s') :
    Moves i j s s' (if h.bare then 1 else 0) := by
  refine ⟨ho.trans, ht, [c], hlog, ?_, fun hc => ?_⟩
  · simp [List.countP_cons, Call.bare, hh]
  · have hcalm : h.status = 0 ∨ h.calm = true := by
      simpa [Call.calm, hh] using hc c (by simp)
    simp [exec, hs hcalm]

theorem unheard {l : List Call} (ho : i.initialized = true → j.initialized = true)
    (ht : j.cancelationToken = i.cancelationToken) (hlog : j.mysql.calls = i.mysql.calls ++ l)
    (hu : ∀ c ∈ l, c.heard? = none) : Moves i j none none 0 := by
  refine ⟨ho, ht, l, hlog, ?_, fun _ => Talk.exec_unheard hu⟩
  rw [List.countP_eq_zero]
  intro c hc
  simp [Call.bare, hu c hc]

theorem once {c : Call} (hu : c.heard? = none) (ho : j.initialized = i.initialized)
    (ht : j.cancelationToken = i.cancelationToken) (hlog : j.mysql.calls = i.mysql.calls ++ [c]) :
    Moves i j none none 0 :=
  unheard ho.trans ht hlog (by simpa using hu)

/-- Moves after moves that heard no bare answer. -/
theorem «then» (h1 : Moves i j s s1 0) (h2 : Moves j k s1 s' n) : Moves i k s s' n := by
  simpa using h1.trans h2

theorem resetResult (i : Implementation M) (p : Option MysqlRes) (s : Option NbCall) :
    Moves i (i.resetResult p) s s 0 := by
  obtain ⟨log, h, hq⟩ := resetResult_calls i p
  exact .quiet (by simp) (by simp) h hq s

theorem hasMoreResults (L : Library M) (i : Implementation M) (s : Option NbCall) :
    Moves i (Service.hasMoreResults L i).2 s s 0 := by
  rw [Service.hasMoreResults_impl]
  refine .quiet (l := Service.moreLog L i) (by rfl) (by rfl) (by rfl) ?_ s
  unfold Service.moreLog
  split_ifs
  · exact List.forall_mem_nil _
  · exact List.forall_mem_singleton.mpr rfl
  · exact List.forall_mem_nil _
  · exact List.forall_mem_nil _
  · exact List.forall_mem_singleton.mpr rfl

end Moves

theorem close_calls (L : Library M) (i : Implementation M) :
    ∃ log, (i.close L).mysql.calls = i.mysql.calls ++ log ∧ ∀ c ∈ log, c.heard? = none := by
  cases hi : i.initialized with
  | false =>
    obtain ⟨log, h, hq⟩ := resetResult_calls { i with firstResultStored := false } none
    refine ⟨log, ?_, fun c hc => Call.heard_quiet (hq c hc)⟩
    simpa [Implementation.close, Implementation.cancel, Implementation.freeResult, hi] using h
  | true =>
    obtain ⟨log, h, hq⟩ := resetResult_calls
      { i with mysql := mysqlClose L i.mysql, initialized := false, firstResultStored := false } none
    refine ⟨.close :: log, ?_, fun c hc => ?_⟩
    · simpa [Implementation.close, Implementation.cancel, Implementation.freeResult, hi,
        mysqlClose] using h
    · rcases List.mem_cons.mp hc with rfl | hc
      · rfl
      · exact Call.heard_quiet (hq c hc)

/-! ## Blocking operations -/

section Blocking

variable (svc : MySQLService) (L : Library M) (i : Implementation M) (ec : ErrorCode)

theorem nextResult_moves : Moves i (Service.nextResult L i ec).impl none none 0 := by
  have hfree : Moves i i.freeResult none none 0 := .resetResult i none none
  have hmore := hfree.then (.hasMoreResults L i.freeResult none)
  cases h1 : i.firstResultStored with
  | false =>
    rw [Service.nextResult_first h1]
    exact .same (by rfl) (by rfl) (by rfl) none
  | true =>
    cases hm : (Service.hasMoreResults L i.freeResult).1 with
    | false =>
      rw [Service.nextResult_done h1 ec hm]
      exact hmore
    | true =>
      rw [Service.nextResult_next h1 ec hm]
      exact hmore.then (.once (c := .nextResult) rfl (by simp) (by simp) (by simp))

theorem retrieve_moves : Moves i (Service.retrieve L i ec).impl none none 0 := by
  obtain ⟨freed, hcalls, hfreed⟩ := Service.retrieve_calls L i ec
  refine .unheard (by simp) (by simp) hcalls fun c hc => ?_
  rcases List.mem_cons.mp hc with rfl | hc
  · rfl
  · obtain ⟨ptr, rfl⟩ := hfreed c hc
    rfl

theorem storeResult_moves : Moves i (Service.storeResult L i ec).impl none none 0 := by
  simp only [Service.storeResult]
  split_ifs
  · exact nextResult_moves L i ec
  · exact (nextResult_moves L i ec).then (retrieve_moves L _ _)

theorem open_moves : Moves i (Service.open L i ec).impl none none 0 := by
  unfold Service.open
  cases hi : i.initialized with
  | true => exact .refl i none
  | false =>
    unfold mysqlInit
    cases L.init i.mysql.st <;>
      exact .unheard (l := [.init]) (by simp [hi]) rfl rfl (by simp [Call.heard?])

theorem open_initialized {L : Library M} {i : Implementation M} {ec : ErrorCode}
    (h : (Service.open L i ec).ec.failed = false) :
    (Service.open L i ec).impl.initialized = true := by
  cases hi : i.initialized with
  | true => rwa [Service.open_initialized hi]
  | false => rw [Service.open_failed hi, h, Bool.not_false]

theorem connect_moves (c : ConnectRequest) : Moves i (Service.connect L i c ec).impl none none 0 := by
  have hopen : ∀ (i : Implementation M) ec, Moves i (Service.connectOpen L i c ec).impl none none 0 :=
    fun i ec => .once (c := .realConnect c.args) rfl (by rfl) (by rfl) (by rfl)
  simp only [Service.connect]
  split_ifs
  · exact open_moves L i ec
  · exact (open_moves L i ec).then (hopen _ _)
  · exact hopen i ec

theorem query_moves (stmt : String) : Moves i (Service.query L i stmt ec).impl none none 0 := by
  cases hi : i.initialized with
  | false => simpa [Service.query, hi] using Moves.refl i none
  | true =>
    rw [Service.query_open hi]
    have hfree : Moves i i.freeResult none none 0 := .resetResult i none none
    exact hfree.then (.once (c := .realQuery stmt) rfl (by simp) (by simp) (by simp))

theorem applyOption_moves (o : MysqlOption) :
    Moves i (Service.applyOption L i o ec).impl none none 0 :=
  .once (c := .options o.option) rfl (by rfl) (by rfl) (by rfl)

/-- **A blocking operation suspends nothing**, keeps the token and does not close. -/
theorem perform_moves (op : Operation) : Moves i (perform svc L i ec op).1 none none 0 := by
  cases op with
  | «open» => simpa using open_moves L i ec
  | connect c => simpa using connect_moves L i ec c
  | query stmt => simpa using query_moves L i ec stmt
  | storeResult => simpa using storeResult_moves L i ec
  | queryResult stmt =>
    have hq := query_moves L i ec stmt
    rw [perform_queryResult]
    split_ifs
    · exact hq
    · exact hq.then (storeResult_moves L _ _)
  | setOption o =>
    rcases perform_setOption svc L i ec o with heq | heq
    · rw [heq]
      exact .refl i none
    · rw [heq]
      exact applyOption_moves L i ec o
  | autocommit mode =>
    rw [perform_autocommit]
    exact .once (c := .autocommit mode) rfl (by rfl) (by rfl) (by rfl)
  | commit =>
    simp only [perform_commit, Done.reply_fst, Service.commit]
    split_ifs
    · exact .refl i none
    · exact .once (c := .commit) rfl (by rfl) (by rfl) (by rfl)
  | rollback =>
    simp only [perform_rollback, Done.reply_fst, Service.rollback]
    split_ifs
    · exact .refl i none
    · exact .once (c := .rollback) rfl (by rfl) (by rfl) (by rfl)
  | affectedRows =>
    rw [perform_affectedRows]
    exact .once (c := .affectedRows) rfl (by rfl) (by rfl) (by rfl)
  | hasMoreResults =>
    rw [perform_hasMoreResults]
    exact .hasMoreResults L i none
  | errorMessage e =>
    simp only [perform_errorMessage, Service.errorMessage]
    split_ifs
    · exact .unheard (l := [.errno, .error]) id rfl (by simp) (by simp [Call.heard?])
    · exact .once (c := .errno) rfl (by rfl) (by rfl) (by rfl)

end Blocking

end Amy
