import Amy.Mariadb.Handler
import Amy.Talk

/-!
# What a turn of a handler can do

`Turn.Post` says it once for all four handlers: a turn never asserts or spins;
the connector stays open or closed and keeps its token; a turn that drops the
operation has heard exactly one answer that names no event to wait for, any
other turn none; and as long as every suspended answer was calm, the native
calls of the turn follow the library's protocol (`Talk.step`) from what was
suspended before it to what is suspended after it.
-/

namespace Amy

open Base

variable {M P R : Type}

abbrev MariadbImplementation.Moves (i j : MariadbImplementation M) (s s' : Option NbCall)
    (n : Nat) : Prop :=
  Amy.Moves i.toImplementation j.toImplementation s s' n

/-- What a turn from `i` can do with `s` suspended; `rests p c`: a handler in
state `p` waits for the call `c`. -/
def Turn.Post (rests : P → NbCall → Prop) (i : MariadbImplementation M) (s : Option NbCall) :
    Turn M P → Prop
  | .wait j p _ => ∃ c, rests p c ∧ i.Moves j s (some c) 0
  | .dropped j => ∃ c, i.Moves j s (some c) 1
  | .invoke j _ => i.Moves j s none 0
  | .assertion => False
  | .spinning => False

theorem Turn.Post.of_moves {rests : P → NbCall → Prop} {i j : MariadbImplementation M}
    {s s' : Option NbCall} {t : Turn M P} (h1 : i.Moves j s s' 0) (h2 : t.Post rests j s') :
    t.Post rests i s := by
  cases t with
  | wait k p on =>
    obtain ⟨c, hp, hm⟩ := h2
    exact ⟨c, hp, by simpa using h1.trans hm⟩
  | dropped k =>
    obtain ⟨c, hm⟩ := h2
    exact ⟨c, by simpa using h1.trans hm⟩
  | invoke k o =>
    have := h1.trans h2
    rwa [Nat.add_zero] at this
  | assertion => exact h2
  | spinning => exact h2

theorem Turn.Post.map {Q : Type} {rests : P → NbCall → Prop} {rests' : Q → NbCall → Prop}
    {f : P → Q} (hf : ∀ p c, rests p c → rests' (f p) c) {i : MariadbImplementation M}
    {s : Option NbCall} {t : Turn M P} (h : t.Post rests i s) : (t.map f).Post rests' i s := by
  cases t with
  | wait k p on =>
    obtain ⟨c, hp, hm⟩ := h
    exact ⟨c, hf p c hp, hm⟩
  | dropped k => exact h
  | invoke k o => exact h
  | assertion => exact h
  | spinning => exact h

/-- One more call `c` was made, a start or continuation of `name` that answered `h`. -/
structure Answered (i j : MariadbImplementation M) (s : Option NbCall) (name : NbCall) (h : Heard) :
    Prop where
  opened : j.initialized = i.initialized
  token : j.cancelationToken = i.cancelationToken
  call : ∃ c, j.mysql.calls = i.mysql.calls ++ [c] ∧ c.heard? = some h ∧
    Talk.step s c = some (if h.status = 0 then none else some name)

namespace Answered

variable {i j k : MariadbImplementation M} {s : Option NbCall} {name : NbCall} {h : Heard}

theorem congr (hA : Answered i j s name h) (ho : k.initialized = j.initialized)
    (ht : k.cancelationToken = j.cancelationToken) (hc : k.mysql.calls = j.mysql.calls) :
    Answered i k s name h :=
  ⟨ho.trans hA.opened, ht.trans hA.token, hc ▸ hA.call⟩

theorem finished (hA : Answered i j s name h) (h0 : h.status = 0) : i.Moves j s none 0 := by
  obtain ⟨ho, ht, c, hc, hh, hs⟩ := hA
  have := Moves.heard ho ht hc hh fun _ => by rw [hs, if_pos h0]
  simpa [Heard.bare, h0] using this

/-- An answer that is not calm leaves open what the library makes of it. -/
theorem failed (hA : Answered i j s name h) (hne : h.status ≠ 0) (hcalm : h.calm = false)
    (s' : Option NbCall) : i.Moves j s s' 0 := by
  obtain ⟨ho, ht, c, hc, hh, -⟩ := hA
  have : i.Moves j s s' _ := .heard ho ht hc hh fun hor => by simp [hne, hcalm] at hor
  simpa [Heard.bare, hcalm] using this

theorem suspended (hA : Answered i j s name h) (hne : h.status ≠ 0) (hcalm : h.calm = true) :
    i.Moves j s (some name) (if (WaitFor.of h.status).isNone then 1 else 0) := by
  obtain ⟨ho, ht, c, hc, hh, hs⟩ := hA
  have := Moves.heard ho ht hc hh fun _ => by rw [hs, if_neg hne]
  simpa [Heard.bare, hne, hcalm] using this

end Answered

theorem waitingFor_moves (L : Library M) (status : UInt32) (i : MariadbImplementation M)
    (s : Option NbCall) : i.Moves (waitingFor L status i) s s 0 := by
  obtain ⟨log, ev, h, hlog⟩ := waitingFor_eq L status i
  rw [h]
  refine .quiet (l := log) (by rfl) (by rfl) (by rfl) (fun c hc => ?_) s
  rcases hlog c hc with rfl | rfl <;> rfl

/-- A calm suspension: the handler waits, or is dropped if no event is named. -/
theorem asyncWaitMysql_post (L : Library M) {rests : P → NbCall → Prop}
    {i j : MariadbImplementation M} {s : Option NbCall} {name : NbCall} {h : Heard} {p : P}
    (hA : Answered i j s name h) (hne : h.status ≠ 0) (hcalm : h.calm = true)
    (hp : rests p name) : (asyncWaitMysql L h.status j p).Post rests i s := by
  have hm := (hA.suspended hne hcalm).trans (waitingFor_moves L h.status j _)
  rw [asyncWaitMysql_eq]
  cases hw : WaitFor.of h.status with
  | some on => exact ⟨name, hp, by simpa [hw] using hm⟩
  | none => exact ⟨name, by simpa [hw] using hm⟩

/-- What the wrappers' translation makes of a suspended answer. -/
theorem statusError_heard [ReturnType R] (L : Library M) (r : R) (a : NbAnswer M R)
    (hne : a.status ≠ 0) (ec : ErrorCode) :
    (statusError a.status (a.ret.getD r) (L.errno a.st) ec).failed = !(heard L r a).calm := by
  rw [failed_statusError_suspended hne, Bool.and_comm]
  rfl

namespace MariadbService

theorem checkToken_of_eq {t : Nat} {i : MariadbImplementation M} (h : t = i.cancelationToken)
    (ec : ErrorCode) : checkToken t i ec = ec := by
  simp [checkToken, h]

theorem token_of_checkToken {t : Nat} {i : MariadbImplementation M} {ec : ErrorCode}
    (h : (checkToken t i ec).failed = false) : t = i.cancelationToken ∧ ec.failed = false := by
  unfold checkToken at h
  split_ifs at h with ht
  · cases h
  · exact ⟨not_ne_iff.mp ht, h⟩

/-! ## Turns of a handler of one call -/

namespace Single

variable [ReturnType R] {L : Library M} {f : NbFn M R}
  {before after : MariadbImplementation M → MariadbImplementation M} {p : Single R}
  {i j : MariadbImplementation M} {ec : ErrorCode}

/-- The turn that answer `a` of the native call leads to, `i` the connector after it. -/
def turn (L : Library M) (p : Single R) (i : MariadbImplementation M) (a : NbAnswer M R) :
    Turn M (Single R) :=
  let ec := statusError a.status (a.ret.getD p.result) (L.errno a.st) .clear
  if a.status = WaitType.finish || ec.failed then .invoke i ⟨ec, none⟩
  else asyncWaitMysql L a.status i { p with result := a.ret.getD p.result, step := 1 }

def started (L : Library M) (f : NbFn M R) (r : R) (i : MariadbImplementation M) :
    MariadbImplementation M :=
  { i with
    mysql := i.mysql.call (.start f.name (heard L r (f.start i.mysql.st))) (f.start i.mysql.st).st }

def continued (L : Library M) (f : NbFn M R) (r : R) (status : UInt32)
    (i : MariadbImplementation M) : MariadbImplementation M :=
  { i with
    mysql := i.mysql.call (.cont f.name status (heard L r (f.cont status i.mysql.st)))
      (f.cont status i.mysql.st).st }

theorem call_stop (h : (checkToken p.token i ec).failed = true) (status : UInt32) :
    p.call L f before after i ec status = .invoke i ⟨checkToken p.token i ec, none⟩ := by
  simp [call, h]

theorem call_start (hstep : p.step = 0) (h : (checkToken p.token i ec).failed = false)
    (status : UInt32) :
    p.call L f before after i ec status =
      turn L p (after (started L f p.result (before i))) (f.start (before i).mysql.st) := by
  simp [call, h, hstep, resume, turn, started, mysqlStart]

theorem call_cont (hstep : p.step = 1) (h : (checkToken p.token i ec).failed = false)
    (status : UInt32) :
    p.call L f before after i ec status =
      turn L p (continued L f p.result status i) (f.cont status i.mysql.st) := by
  simp [call, h, hstep, resume, turn, continued, mysqlContinue]

/-- The state in which such a handler waits. -/
def Rests (name : NbCall) (t : Nat) (p : Single R) (c : NbCall) : Prop :=
  p.step = 1 ∧ p.token = t ∧ c = name

theorem turn_post {s : Option NbCall} {name : NbCall} {a : NbAnswer M R}
    (hA : Answered i j s name (heard L p.result a)) :
    (turn L p j a).Post (Rests name p.token) i s := by
  unfold turn
  by_cases h0 : a.status = 0
  · simp only [h0, WaitType.finish, decide_true, Bool.true_or, if_true]
    exact hA.finished h0
  · have hec := statusError_heard L p.result a h0 .clear
    cases hcalm : (heard L p.result a).calm with
    | false =>
      rw [if_pos (by simp [hec, hcalm])]
      exact hA.failed h0 hcalm none
    | true =>
      rw [if_neg (by simp [hec, hcalm, h0])]
      exact asyncWaitMysql_post L hA h0 hcalm ⟨rfl, rfl, rfl⟩

theorem started_answered (L : Library M) (f : NbFn M R) (r : R) (i : MariadbImplementation M) :
    Answered i (started L f r i) none f.name (heard L r (f.start i.mysql.st)) :=
  ⟨rfl, rfl, _, rfl, rfl, by simp [Talk.step, heard]⟩

theorem continued_answered (L : Library M) (f : NbFn M R) (r : R) (status : UInt32)
    (i : MariadbImplementation M) :
    Answered i (continued L f r status i) (some f.name) f.name
      (heard L r (f.cont status i.mysql.st)) :=
  ⟨rfl, rfl, _, rfl, rfl, by simp [Talk.step, heard]⟩

end Single

/-! ## Turns of a handler of two calls -/

/-- What a handler does to the connector between its calls is quiet. -/
structure ChainKind.Tame (k : ChainKind M) : Prop where
  entry : ∀ (i : MariadbImplementation M) s, match k.entry i with
    | .start j => i.Moves j s s 0
    | .skip j => i.Moves j s s 0
    | .leave j ec => i.Moves j s s 0 ∧ ec.failed = true
  mark : ∀ (i : MariadbImplementation M) s, i.Moves (k.mark i) s s 0

namespace Chain

variable {L : Library M} {k : ChainKind M} {p : Chain} {i j : MariadbImplementation M}
  {ec : ErrorCode}

/-- The turn once `mysql_store_result` answered `status`. -/
def storeTurn (L : Library M) (p : Chain) (i : MariadbImplementation M) (ec : ErrorCode)
    (status : UInt32) : Turn M Chain :=
  if ec.failed || status = WaitType.finish then finish L p.result i ec
  else asyncWaitMysql L status i { p with step := .contStore }

/-- The turn from `S_STORE_START` on. -/
def storing (L : Library M) (k : ChainKind M) (p : Chain) (i : MariadbImplementation M) :
    Turn M Chain :=
  let i := k.mark (i.update i.freeResult)
  let o := mysqlStart L L.nbStoreResult p.result i.mysql .clear
  storeTurn L { p with result := o.ret } { i with mysql := o.mysql } o.ec o.status

/-- The turn once the first call answered `status`. -/
def firstTurn (L : Library M) (k : ChainKind M) (p : Chain) (i : MariadbImplementation M)
    (ec : ErrorCode) (status : UInt32) : Turn M Chain :=
  if ec.failed then finish L p.result i ec
  else if status = WaitType.finish then storing L k p i
  else asyncWaitMysql L status i { p with step := .contFirst }

theorem storeStart_eq (p : Chain) (i : MariadbImplementation M) (ec : ErrorCode) :
    storeStart L k p i ec = .ends (storing L k p i) := by
  have h : ∀ (p : Chain) (i : MariadbImplementation M) (ec : ErrorCode) (status : UInt32),
      p.step = .storeStart →
      (if ec.failed || status = WaitType.finish then Flow.ends (finish L p.result i ec)
        else cont L k p i ec status) = .ends (storeTurn L p i ec status) := by
    intro p i ec status hstep
    unfold storeTurn
    split_ifs with hc
    · rfl
    · simp only [Bool.or_eq_true, decide_eq_true_eq, not_or] at hc
      simp [cont, hstep, check, hc]
  exact h _ _ _ _ rfl

theorem call_stop (h : (checkToken p.token i ec).failed = true) (status : UInt32) :
    p.call L k i ec status = finish L p.result i (checkToken p.token i ec) := by
  simp [call, loop, pass, h]

theorem call_skip (hstep : p.step = .entry) (h : (checkToken p.token i ec).failed = false)
    (he : k.entry i = .skip j) (status : UInt32) :
    p.call L k i ec status = storing L k p j := by
  simp [call, loop, pass, h, hstep, entry, he, storeStart_eq]

theorem call_leave (hstep : p.step = .entry) (h : (checkToken p.token i ec).failed = false)
    {e : ErrorCode} (he : k.entry i = .leave j e) (status : UInt32) :
    p.call L k i ec status = finish L p.result j e := by
  simp [call, loop, pass, h, hstep, entry, he]

theorem call_start (hstep : p.step = .entry) (h : (checkToken p.token i ec).failed = false)
    (he : k.entry i = .start j) (ht : j.cancelationToken = i.cancelationToken)
    (status : UInt32) :
    p.call L k i ec status =
      let o := mysqlStart L k.first p.firstResult j.mysql .clear
      firstTurn L k { p with firstResult := o.ret } { j with mysql := o.mysql } o.ec o.status := by
  -- a call that suspends at once makes one more pass to register the wait
  have hloop : ∀ (p : Chain) (i : MariadbImplementation M) (ec : ErrorCode) (status : UInt32),
      p.token = i.cancelationToken →
      (if ec.failed then Flow.ends (finish L p.result i ec)
        else if status ≠ WaitType.finish then .again { p with step := .waitFirst } i ec status
        else storeStart L k p i ec).run (loop L k 1) = firstTurn L k p i ec status := by
    intro p i ec status htoken
    unfold firstTurn
    cases hf : ec.failed with
    | true => simp
    | false =>
      by_cases h0 : status = WaitType.finish
      · simp [h0, storeStart_eq]
      · simp [h0, loop, pass, checkToken_of_eq htoken, hf, cont, check]
  rw [call, loop, pass]
  simp only [h, Bool.false_eq_true, if_false, hstep, entry, he]
  exact hloop _ _ _ _ ((token_of_checkToken h).1.trans ht.symm)

theorem call_contFirst (hstep : p.step = .contFirst) (h : (checkToken p.token i ec).failed = false)
    (status : UInt32) :
    p.call L k i ec status =
      let o := mysqlContinue L k.first p.firstResult i.mysql .clear status
      firstTurn L k { p with firstResult := o.ret } { i with mysql := o.mysql } o.ec o.status := by
  -- a first call that finishes makes one more pass to store the result
  have hloop : ∀ (p : Chain) (i : MariadbImplementation M) (ec : ErrorCode) (status : UInt32),
      p.step = .contFirst → p.token = i.cancelationToken →
      (check L p i ec status).run (loop L k 1) = firstTurn L k p i ec status := by
    intro p i ec status hstep htoken
    unfold firstTurn check
    cases hf : ec.failed with
    | true => simp
    | false =>
      by_cases h0 : status = WaitType.finish
      · simp [h0, hstep, loop, pass, checkToken_of_eq htoken, hf, storeStart_eq, storing, storeTurn]
      · simp [h0, ← hstep]
  rw [call, loop, pass]
  simp only [h, Bool.false_eq_true, if_false, hstep, cont]
  exact hloop _ _ _ _ rfl (token_of_checkToken h).1

theorem call_contStore (hstep : p.step = .contStore) (h : (checkToken p.token i ec).failed = false)
    (status : UInt32) :
    p.call L k i ec status =
      let o := mysqlContinue L L.nbStoreResult p.result i.mysql .clear status
      storeTurn L { p with result := o.ret } { i with mysql := o.mysql } o.ec o.status := by
  have hcheck : ∀ (p : Chain) (i : MariadbImplementation M) (ec : ErrorCode) (status : UInt32),
      p.step = .contStore → check L p i ec status = .ends (storeTurn L p i ec status) := by
    intro p i ec status hstep
    unfold storeTurn check
    cases hf : ec.failed with
    | true => simp
    | false =>
      by_cases h0 : status = WaitType.finish
      · simp [h0, hstep]
      · simp [h0, ← hstep]
  rw [call, loop, pass]
  simp only [h, Bool.false_eq_true, if_false, hstep, cont]
  rw [hcheck _ _ _ _ rfl]
  rfl

/-- The state in which such a handler waits. -/
def Rests (name : NbCall) (t : Nat) (p : Chain) (c : NbCall) : Prop :=
  p.token = t ∧ ((p.step = .contFirst ∧ c = name) ∨ (p.step = .contStore ∧ c = .storeResult))

section Post

variable {i0 : MariadbImplementation M} {s : Option NbCall} {h : Heard} {status : UInt32}
  {name : NbCall}

theorem finish_moves (L : Library M) (r : Option MysqlRes) (i : MariadbImplementation M)
    (ec : ErrorCode) : ∃ j o, finish L r i ec = .invoke j o ∧ i.Moves j none none 0 := by
  unfold finish
  split_ifs
  · have hm : i.Moves (i.update (i.resetResult r)) none none 0 := .resetResult _ r none
    exact ⟨_, _, rfl, hm.then (.same (by rfl) (by rfl) (by simp) none)⟩
  · exact ⟨i, _, rfl, .refl i.toImplementation none⟩

theorem finish_post {rests : Chain → NbCall → Prop} (hm : i0.Moves i s none 0)
    (r : Option MysqlRes) (ec : ErrorCode) : (finish L r i ec).Post rests i0 s := by
  obtain ⟨j, o, hj, hm'⟩ := finish_moves L r i ec
  rw [hj]
  exact Turn.Post.of_moves hm hm'

theorem storeTurn_post (hA : Answered i0 i s .storeResult h) (hst : h.status = status)
    (hec : status ≠ 0 → ec.failed = !h.calm) :
    (storeTurn L p i ec status).Post (Rests name p.token) i0 s := by
  subst hst
  unfold storeTurn
  by_cases h0 : h.status = 0
  · rw [if_pos (by simp [h0])]
    exact finish_post (hA.finished h0) _ _
  · cases hcalm : h.calm with
    | false =>
      rw [if_pos (by simp [hec h0, hcalm])]
      exact finish_post (hA.failed h0 hcalm none) _ _
    | true =>
      rw [if_neg (by simp [hec h0, hcalm, h0])]
      exact asyncWaitMysql_post L hA h0 hcalm ⟨rfl, .inr ⟨rfl, rfl⟩⟩

theorem freeResult_moves (i : MariadbImplementation M) (s : Option NbCall) :
    i.Moves (i.update i.freeResult) s s 0 :=
  .resetResult i.toImplementation none s

theorem storing_post (hk : k.Tame) : (storing L k p i).Post (Rests name p.token) i none := by
  have hm : i.Moves (k.mark (i.update i.freeResult)) none none 0 :=
    (freeResult_moves i none).trans (hk.mark _ none)
  refine Turn.Post.of_moves hm ?_
  unfold storing
  exact storeTurn_post (Single.started_answered L L.nbStoreResult p.result _) rfl
    fun h0 => statusError_heard L p.result _ h0 .clear

theorem firstTurn_post (hk : k.Tame) (hA : Answered i0 i s name h) (hst : h.status = status)
    (hec : status ≠ 0 → ec.failed = !h.calm) :
    (firstTurn L k p i ec status).Post (Rests name p.token) i0 s := by
  subst hst
  unfold firstTurn
  by_cases h0 : h.status = 0
  · split_ifs
    · exact finish_post (hA.finished h0) _ _
    · exact Turn.Post.of_moves (hA.finished h0) (storing_post hk)
  · cases hcalm : h.calm with
    | false =>
      rw [if_pos (by simp [hec h0, hcalm])]
      exact finish_post (hA.failed h0 hcalm none) _ _
    | true =>
      rw [if_neg (by simp [hec h0, hcalm]), if_neg h0]
      exact asyncWaitMysql_post L hA h0 hcalm ⟨rfl, .inl ⟨rfl, rfl⟩⟩

theorem call_fresh_post (hk : k.Tame) (hstep : p.step = .entry)
    (hc : (checkToken p.token i ec).failed = false) (status : UInt32) :
    (p.call L k i ec status).Post (Rests k.first.name p.token) i none := by
  have he := hk.entry i none
  cases hentry : k.entry i with
  | start j =>
    rw [hentry] at he
    rw [call_start hstep hc hentry he.token]
    exact Turn.Post.of_moves he (firstTurn_post hk
      (Single.started_answered L k.first p.firstResult j) rfl
      fun h0 => statusError_heard L p.firstResult _ h0 .clear)
  | skip j =>
    rw [hentry] at he
    rw [call_skip hstep hc hentry]
    exact Turn.Post.of_moves he (storing_post hk)
  | leave j ec' =>
    rw [hentry] at he
    rw [call_leave hstep hc hentry]
    exact finish_post he.1 _ _

theorem call_resumed_post (hk : k.Tame) {t : Nat} {c : NbCall}
    (hp : p.Rests k.first.name t c) (hc : (checkToken p.token i ec).failed = false)
    (status : UInt32) :
    (p.call L k i ec status).Post (Rests k.first.name t) i (some c) := by
  obtain ⟨rfl, ⟨hstep, rfl⟩ | ⟨hstep, rfl⟩⟩ := hp
  · rw [call_contFirst hstep hc]
    exact firstTurn_post hk (Single.continued_answered L k.first p.firstResult status i) rfl
      fun h0 => statusError_heard L p.firstResult _ h0 .clear
  · rw [call_contStore hstep hc]
    exact storeTurn_post (Single.continued_answered L L.nbStoreResult p.result status i) rfl
      fun h0 => statusError_heard L p.result _ h0 .clear

end Post

end Chain

theorem storeResultKind_tame (L : Library M) : (storeResultKind L).Tame where
  entry i s := by
    have hm : i.Moves (i.update (Service.hasMoreResults L i.freeResult).2) s s 0 :=
      (Chain.freeResult_moves i s).then (.hasMoreResults L i.freeResult s)
    simp only [storeResultKind]
    split_ifs
    · exact ⟨hm, rfl⟩
    · exact hm
    · exact .same (by rfl) (by rfl) (by rfl) s
  mark i s := .refl i.toImplementation s

theorem queryResultKind_tame (L : Library M) (stmt : String) : (queryResultKind L stmt).Tame where
  entry i s := (Chain.freeResult_moves i s).then (.same (by rfl) (by rfl) (by rfl) s)
  mark i s := .same (by rfl) (by rfl) (by rfl) s

/-! ## Turns of any handler -/

namespace Handler

/-- The handler with token `t` waits for the native call `c`. -/
def Rests (t : Nat) : Handler → NbCall → Prop
  | .connect r p, c => p.Rests (.realConnect r.args) t c
  | .query stmt p, c => p.Rests (.realQuery stmt) t c
  | .storeResult p, c => p.Rests .nextResult t c
  | .queryResult stmt p, c => p.Rests (.realQuery stmt) t c

theorem Rests.token {t : Nat} {h : Handler} {c : NbCall} (hr : h.Rests t c) : h.token = t := by
  cases h with
  | connect _ p => exact hr.2.1
  | query _ p => exact hr.2.1
  | storeResult p => exact hr.1
  | queryResult _ p => exact hr.1

/-- What a handler that cannot go on is called with. -/
def stopped (ec : ErrorCode) : Handler → Outcome
  | .connect _ _ | .query _ _ => ⟨ec, none⟩
  | .storeResult _ | .queryResult _ _ => ⟨ec, some .emptySet⟩

variable {L : Library M} {i : MariadbImplementation M} {ec : ErrorCode}

/-- **A handler whose token has expired, or that a wait hands an error**, makes
no native call, leaves the connector alone and hands its handler the code. -/
theorem call_stopped {h : Handler} (hc : (checkToken h.token i ec).failed = true)
    (status : UInt32) :
    h.call L i ec status = .invoke i (h.stopped (checkToken h.token i ec)) := by
  cases h with
  | connect r p => simp [call, connectHandler, Single.call_stop (p := p) hc, Turn.map, stopped, token]
  | query stmt p => simp [call, queryHandler, Single.call_stop (p := p) hc, Turn.map, stopped, token]
  | storeResult p =>
    have hf : (checkToken p.token i ec).failed = true := hc
    simp [call, storeResultHandler, Chain.call_stop hc, Chain.finish, hf, Turn.map, stopped, token]
  | queryResult stmt p =>
    have hf : (checkToken p.token i ec).failed = true := hc
    simp [call, queryResultHandler, Chain.call_stop hc, Chain.finish, hf, Turn.map, stopped, token]

theorem construct_post (r : Request) (hec : ec.failed = false) (status : UInt32) :
    ((construct i.cancelationToken r).call L i ec status).Post (Rests i.cancelationToken) i
      none := by
  have hc : (checkToken i.cancelationToken i ec).failed = false := by
    rwa [checkToken_of_eq rfl]
  cases r with
  | connect c =>
    have h : (connectHandler L c ⟨0, none, i.cancelationToken⟩ i ec status).Post
        (Single.Rests (.realConnect c.args) i.cancelationToken) i none := by
      unfold connectHandler
      rw [Single.call_start rfl hc]
      exact Single.turn_post
        ((Single.started_answered L (L.nbConnect c.args) none i).congr rfl rfl rfl)
    exact h.map (f := Handler.connect c) fun _ _ h => h
  | query stmt =>
    have h : (queryHandler L stmt ⟨0, -1, i.cancelationToken⟩ i ec status).Post
        (Single.Rests (.realQuery stmt) i.cancelationToken) i none := by
      unfold queryHandler
      rw [Single.call_start rfl hc]
      refine Turn.Post.of_moves (Chain.freeResult_moves i none) ?_
      refine Turn.Post.of_moves (j := { i.update i.freeResult with firstResultStored := false })
        (.same (by rfl) (by rfl) (by rfl) none) ?_
      exact Single.turn_post (Single.started_answered L (L.nbQuery stmt) (-1) _)
    exact h.map (f := Handler.query stmt) fun _ _ h => h
  | storeResult =>
    have h : (storeResultHandler L ⟨.entry, -1, none, i.cancelationToken⟩ i ec status).Post
        (Chain.Rests .nextResult i.cancelationToken) i none :=
      Chain.call_fresh_post (storeResultKind_tame L) rfl hc status
    exact h.map (f := Handler.storeResult) fun _ _ h => h
  | queryResult stmt =>
    have h : (queryResultHandler L stmt ⟨.entry, -1, none, i.cancelationToken⟩ i ec status).Post
        (Chain.Rests (.realQuery stmt) i.cancelationToken) i none :=
      Chain.call_fresh_post (queryResultKind_tame L stmt) rfl hc status
    exact h.map (f := Handler.queryResult stmt) fun _ _ h => h

theorem resumed_post {h : Handler} {t : Nat} {c : NbCall} (hr : h.Rests t c)
    (hc : (checkToken h.token i ec).failed = false) (status : UInt32) :
    (h.call L i ec status).Post (Rests t) i (some c) := by
  cases h with
  | connect r p =>
    obtain ⟨hstep, rfl, rfl⟩ := hr
    have h : (connectHandler L r p i ec status).Post
        (Single.Rests (.realConnect r.args) p.token) i (some (.realConnect r.args)) := by
      unfold connectHandler
      rw [Single.call_cont hstep hc]
      exact Single.turn_post (Single.continued_answered L (L.nbConnect r.args) p.result status i)
    exact h.map (f := Handler.connect r) fun _ _ h => h
  | query stmt p =>
    obtain ⟨hstep, rfl, rfl⟩ := hr
    have h : (queryHandler L stmt p i ec status).Post
        (Single.Rests (.realQuery stmt) p.token) i (some (.realQuery stmt)) := by
      unfold queryHandler
      rw [Single.call_cont hstep hc]
      exact Single.turn_post (Single.continued_answered L (L.nbQuery stmt) p.result status i)
    exact h.map (f := Handler.query stmt) fun _ _ h => h
  | storeResult p =>
    have h : (storeResultHandler L p i ec status).Post (Chain.Rests .nextResult t) i (some c) :=
      Chain.call_resumed_post (storeResultKind_tame L) hr hc status
    exact h.map (f := Handler.storeResult) fun _ _ h => h
  | queryResult stmt p =>
    have h : (queryResultHandler L stmt p i ec status).Post (Chain.Rests (.realQuery stmt) t) i
        (some c) := Chain.call_resumed_post (queryResultKind_tame L stmt) hr hc status
    exact h.map (f := Handler.queryResult stmt) fun _ _ h => h

end Handler

end MariadbService

end Amy
