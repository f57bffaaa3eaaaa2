import Amy.Async
import Amy.Drain
import Amy.Base.Clients

/-!
# `async_multi_query`

The example client that connects, queries and prints result sets until none is
left, each step in the handler of the one before. It is the same program for
both services. `BatchReader.reads`: on whatever realises the blocking calls, it
reports at every moment a prefix of what the blocking calls report, is stuck only
once it has reported all of it, and can always get there.
-/

namespace Amy

open Base

variable {M T α ι : Type}

/-- The operations of a service that the client starts. -/
structure Verbs (ι : Type) where
  asyncConnect : ConnectRequest → ι
  asyncQuery : String → ι
  asyncStoreResult : ι

/-- Which handler was bound to the operation under way. -/
inductive BatchReader.Bound where
  | handleConnect
  | handleQuery
  | handleStoreResult
  deriving DecidableEq, Repr

structure BatchReader where
  bound : BatchReader.Bound
  printed : List ResultSet
  /-- What `check_error` threw, out of `io_service::run` or, where the handler ran in
  `async_connect`, out of `main`. -/
  thrown : Option ErrorCode
  deriving DecidableEq, Repr

namespace BatchReader

/-- What the client has reported: its result sets, then the error. -/
def outcomes (b : BatchReader) : List (Except ErrorCode ResultSet) :=
  b.printed.map .ok ++ b.thrown.toList.map .error

/-- `check_error`, and what the handler does after it. -/
def checkError (b : BatchReader) (ec : ErrorCode) (rest : Next BatchReader ι) : Next BatchReader ι :=
  if ec.failed then .stop { b with thrown := some ec } else rest

variable (V : Verbs ι) (text : String)

def handleStoreResult (b : BatchReader) (ec : ErrorCode) (rs : ResultSet) : Next BatchReader ι :=
  checkError b ec (.startIf ⟨.handleStoreResult, b.printed ++ [rs], b.thrown⟩ V.asyncStoreResult)

def handleQuery (b : BatchReader) (ec : ErrorCode) : Next BatchReader ι :=
  checkError b ec (.start { b with bound := .handleStoreResult } V.asyncStoreResult)

def handleConnect (b : BatchReader) (ec : ErrorCode) : Next BatchReader ι :=
  checkError b ec (.start { b with bound := .handleQuery } (V.asyncQuery text))

def handler (b : BatchReader) (o : Outcome) : Next BatchReader ι :=
  match b.bound with
  | .handleConnect => handleConnect V text b o.code
  | .handleQuery => handleQuery V b o.code
  | .handleStoreResult => handleStoreResult V b o.code (o.rs.getD .emptySet)

def main : BatchReader := ⟨.handleConnect, [], none⟩

def login (endpoint : Endpoint) (auth : AuthInfo) (schema : String) : ConnectRequest :=
  ⟨endpoint, auth, schema, clientMultiStatements⟩

/-- The client about to connect, on a script whose batch ends with an error and
whose calls are suspended now and then. -/
def multiQuery (V : Verbs ι) : Play (Implementation Script) BatchReader ι Outcome :=
  .begin
    (Implementation.construct
      { verdicts := [.batch (some Script.oneRow) [.failure ⟨1064, by decide⟩] 0]
        waits := [[⟨false, true, true⟩], [], [⟨true, false, false⟩, ⟨true, false, true⟩]] })
    main (V.asyncConnect (Script.login clientMultiStatements))

/-! ## The blocking program -/

theorem connect_leaves {L : Library M} {i : Implementation M} {c : ConnectRequest} {ec : ErrorCode}
    (h : (Service.connect L i c ec).ec.failed = false) :
    (Service.connect L i c ec).impl.initialized = true ∧
      (Service.connect L i c ec).impl.flags = c.flags := by
  unfold Service.connect at h ⊢
  cases hi : i.initialized with
  | true => simp [hi, Service.connectOpen]
  | false =>
    cases ho : (Service.open L i ec).ec.failed with
    | true => simp [hi, ho] at h
    | false => simp [ho, Service.connectOpen, Service.open_failed hi]

/-- What the client relies on about the blocking calls. -/
structure Speaks (L : Library M) (V : Verbs ι) (C : Calls (Implementation M) ι Outcome)
    (ok : Implementation M → ι → Prop) : Prop where
  connect : ∀ i c, ok i (V.asyncConnect c) ∧
    ((C.exec i (V.asyncConnect c)).2.code.failed = false →
      (C.exec i (V.asyncConnect c)).1.initialized = true ∧
        (C.exec i (V.asyncConnect c)).1.flags = c.flags)
  query : ∀ i stmt, ok i (V.asyncQuery stmt) ∧ C.exec i (V.asyncQuery stmt) =
    ((Service.query L i stmt .clear).impl, (Service.query L i stmt .clear).outcome)
  storeResult : ∀ i, i.initialized = true → ok i V.asyncStoreResult ∧
    C.exec i V.asyncStoreResult =
      ((Service.storeResult L i .clear).impl, (Service.storeResult L i .clear).outcome)
  ask : ∀ i, C.ask i = ((Service.hasMoreResults L i).2, (Service.hasMoreResults L i).1)

/-- What the blocking calls report: the code of the connect or of the query
that failed, or the batch, read up to its failure. -/
def Reports (L : Library M) (held : M → Held) (V : Verbs ι)
    (C : Calls (Implementation M) ι Outcome) (i : Implementation M) (c : ConnectRequest)
    (text : String) (outs : List (Except ErrorCode ResultSet)) : Prop :=
  let o := C.exec i (V.asyncConnect c)
  let q := Service.query L o.1 text .clear
  if o.2.code.failed then outs = [.error o.2.code]
  else if q.ec.failed then outs = [.error q.ec]
  else List.Forall₂ Item.Visited (Item.batch (held q.impl.mysql.st).unread) outs

inductive Reading (V : Verbs ι) (text : String) (c : ConnectRequest)
    (p : Play (Implementation M) BatchReader ι Outcome) : Prop where
  | ended : p.request = none → Reading V text c p
  | connecting : p.memory.bound = .handleConnect → p.memory.thrown = none →
      p.request = some (V.asyncConnect c) → Reading V text c p
  | querying : p.memory.bound = .handleQuery → p.memory.thrown = none →
      p.request = some (V.asyncQuery text) → p.service.initialized = true → Reading V text c p
  | storing : p.memory.bound = .handleStoreResult → p.memory.thrown = none →
      p.request = some V.asyncStoreResult → p.service.initialized = true → Reading V text c p

section Rounds

variable {L : Library M} {V : Verbs ι} {C : Calls (Implementation M) ι Outcome}
  {ok : Implementation M → ι → Prop} {text : String} {c : ConnectRequest}
  {p : Play (Implementation M) BatchReader ι Outcome}

theorem Reading.allowed (hS : Speaks L V C ok) (h : Reading V text c p) :
    ∀ r ∈ p.request, ok p.service r := by
  intro r hr
  cases h with
  | ended hnone => rw [hnone] at hr; cases hr
  | connecting _ _ hreq => rw [hreq] at hr; cases hr; exact (hS.connect _ c).1
  | querying _ _ hreq => rw [hreq] at hr; cases hr; exact (hS.query _ text).1
  | storing _ _ hreq hopen => rw [hreq] at hr; cases hr; exact (hS.storeResult _ hopen).1

def Threw (p q : Play (Implementation M) BatchReader ι Outcome) (ec : ErrorCode) : Prop :=
  q.request = none ∧ q.memory = { p.memory with thrown := some ec }

/-- The round came to `b` and `r`, the connector as `i`. -/
def Reaches (q : Play (Implementation M) BatchReader ι Outcome) (b : BatchReader) (r : Option ι)
    (i : Implementation M) : Prop :=
  q.request = r ∧ q.memory = b ∧ q.service = i

variable (text) in
theorem round_call {r : ι} (hr : p.request = some r) (ec : ErrorCode) (rest : Next BatchReader ι)
    (hn : handler V text p.memory (C.exec p.service r).2 = checkError p.memory ec rest) :
    let n := rest.finish C.ask (C.exec p.service r).1
    (ec.failed = true → Threw p (C.round (handler V text) p) ec) ∧
      (ec.failed = false → Reaches (C.round (handler V text) p) n.2.1 n.2.2 n.1) := by
  simp only [Calls.round, hr, hn, checkError]
  exact ⟨fun hec => by rw [if_pos hec]; exact ⟨rfl, rfl⟩,
    fun hec => by rw [if_neg (by simp [hec])]; exact ⟨rfl, rfl, rfl⟩⟩

/-- Throwing adds the code to what is reported. -/
theorem outcomes_throw {b : BatchReader} (hb : b.thrown = none) (ec : ErrorCode) :
    ({ b with thrown := some ec } : BatchReader).outcomes = b.outcomes ++ [.error ec] := by
  simp [outcomes, hb]

theorem outcomes_print {b : BatchReader} (hb : b.thrown = none) (n : Bound) (rs : ResultSet) :
    ({ bound := n, printed := b.printed ++ [rs], thrown := b.thrown } : BatchReader).outcomes =
      b.outcomes ++ [.ok rs] := by
  simp [outcomes, hb]

variable (text) in
theorem round_connect (hb : p.memory.bound = .handleConnect)
    (hr : p.request = some (V.asyncConnect c)) :
    let x := C.exec p.service (V.asyncConnect c)
    (x.2.code.failed = true → Threw p (C.round (handler V text) p) x.2.code) ∧
      (x.2.code.failed = false → Reaches (C.round (handler V text) p)
        { p.memory with bound := .handleQuery } (some (V.asyncQuery text)) x.1) :=
  round_call text hr _ (.start { p.memory with bound := .handleQuery } (V.asyncQuery text))
    (by simp [handler, hb, handleConnect])

theorem round_query (hS : Speaks L V C ok) (hb : p.memory.bound = .handleQuery)
    (hr : p.request = some (V.asyncQuery text)) :
    let o := Service.query L p.service text .clear
    (o.ec.failed = true → Threw p (C.round (handler V text) p) o.ec) ∧
      (o.ec.failed = false → Reaches (C.round (handler V text) p)
        { p.memory with bound := .handleStoreResult } (some V.asyncStoreResult) o.impl) := by
  have hcall := (hS.query p.service text).2
  have h := round_call (C := C) (V := V) text hr (Service.query L p.service text .clear).ec
    (.start { p.memory with bound := .handleStoreResult } V.asyncStoreResult)
    (by rw [hcall]; simp [handler, hb, handleQuery])
  rw [hcall] at h
  exact h

variable (text) in
theorem round_store (hS : Speaks L V C ok) (hb : p.memory.bound = .handleStoreResult)
    (hr : p.request = some V.asyncStoreResult) (hopen : p.service.initialized = true) :
    let o := Service.storeResult L p.service .clear
    let m := Service.hasMoreResults L o.impl
    (o.ec.failed = true → Threw p (C.round (handler V text) p) o.ec) ∧
      (o.ec.failed = false → Reaches (C.round (handler V text) p)
        ⟨.handleStoreResult, p.memory.printed ++ [o.rs], p.memory.thrown⟩
        (if m.1 then some V.asyncStoreResult else none) m.2) := by
  have hcall := (hS.storeResult p.service hopen).2
  have h := round_call (C := C) (V := V) text hr (Service.storeResult L p.service .clear).ec
    (.startIf ⟨.handleStoreResult, p.memory.printed ++
      [(Service.storeResult L p.service .clear).rs], p.memory.thrown⟩ V.asyncStoreResult)
    (by rw [hcall]; simp [handler, hb, handleStoreResult, Stored.outcome])
  rw [hcall] at h
  simpa only [Next.finish, hS.ask] using h

theorem Threw.outcomes {q : Play (Implementation M) BatchReader ι Outcome} {ec : ErrorCode}
    (h : Threw p q ec) (ht : p.memory.thrown = none) :
    q.memory.outcomes = p.memory.outcomes ++ [.error ec] := by
  rw [h.2, outcomes_throw ht]

theorem Threw.ends {q : Play (Implementation M) BatchReader ι Outcome} {ec : ErrorCode}
    (h : Threw p q ec) (ht : p.memory.thrown = none) :
    Reading V text c q ∧ p.memory.outcomes <+: q.memory.outcomes := by
  refine ⟨.ended h.1, ?_⟩
  rw [h.outcomes ht]
  exact List.prefix_append _ _

/-- **A round** keeps the client in its place, and adds to what it reports. -/
theorem Reading.round (hS : Speaks L V C ok) (h : Reading V text c p) :
    Reading V text c (C.round (handler V text) p) ∧
      p.memory.outcomes <+: (C.round (handler V text) p).memory.outcomes := by
  cases h with
  | ended hnone =>
    have hsame : C.round (handler V text) p = p := by simp [Calls.round, hnone]
    rw [hsame]
    exact ⟨.ended hnone, List.prefix_rfl⟩
  | connecting hb ht hr =>
    obtain ⟨hfail, hpass⟩ := round_connect text (C := C) hb hr
    cases hec : (C.exec p.service (V.asyncConnect c)).2.code.failed with
    | true => exact (hfail hec).ends ht
    | false =>
      obtain ⟨hreq, hmem, hserv⟩ := hpass hec
      have hopen : (C.round (handler V text) p).service.initialized = true := by
        rw [hserv]
        exact ((hS.connect p.service c).2 hec).1
      refine ⟨.querying (by rw [hmem]) (by rw [hmem, ht]) hreq hopen, ?_⟩
      rw [hmem]
      exact List.prefix_rfl
  | querying hb ht hr hopen =>
    obtain ⟨hfail, hpass⟩ := round_query hS hb hr
    cases hec : (Service.query L p.service text .clear).ec.failed with
    | true => exact (hfail hec).ends ht
    | false =>
      obtain ⟨hreq, hmem, hserv⟩ := hpass hec
      have hopen' : (C.round (handler V text) p).service.initialized = true := by
        rw [hserv, Service.query_open hopen]
        simpa using hopen
      refine ⟨.storing (by rw [hmem]) (by rw [hmem, ht]) hreq hopen', ?_⟩
      rw [hmem]
      exact List.prefix_rfl
  | storing hb ht hr hopen =>
    obtain ⟨hfail, hpass⟩ := round_store text hS hb hr hopen
    cases hec : (Service.storeResult L p.service .clear).ec.failed with
    | true => exact (hfail hec).ends ht
    | false =>
      obtain ⟨hreq, hmem, hserv⟩ := hpass hec
      refine ⟨?_, by rw [hmem, outcomes_print ht]; exact List.prefix_append _ _⟩
      cases hmore : (Service.hasMoreResults L (Service.storeResult L p.service .clear).impl).1 with
      | false => exact .ended (by simpa [hmore] using hreq)
      | true =>
        refine .storing (by rw [hmem]) (by rw [hmem, ht]) (by simpa [hmore] using hreq) ?_
        rw [hserv, Service.hasMoreResults_impl]
        simpa [Service.storeResult_initialized] using hopen

theorem Reading.rounds (hS : Speaks L V C ok) (h : Reading V text c p) (n : Nat) :
    Reading V text c ((C.round (handler V text))^[n] p) := by
  induction n with
  | zero => exact h
  | succ n ih =>
    rw [Function.iterate_succ_apply']
    exact (ih.round hS).1

/-! ## What it reports -/

variable {held : M → Held}

variable (text) in
/-- The round of a result: it is reported, and the next is asked for unless it
was the last. -/
theorem round_ready (hS : Speaks L V C ok) (hL : Obliging L held) {it : Item} {rest : List Item}
    (hready : Ready L held p.service (it :: rest)) (hb : p.memory.bound = .handleStoreResult)
    (ht : p.memory.thrown = none) (hr : p.request = some V.asyncStoreResult) :
    let q := C.round (handler V text) p
    (∃ x, it.Visited x ∧ q.memory.outcomes = p.memory.outcomes ++ [x]) ∧
      (it.isFailure = true ∨ rest = [] → q.request = none) ∧
      (it.isFailure = false → rest ≠ [] → q.request = some V.asyncStoreResult ∧
        q.memory.bound = .handleStoreResult ∧ q.memory.thrown = none ∧
        Ready L held q.service rest) := by
  intro q
  obtain ⟨hst, hnext, -⟩ := hready.store hL ErrorCode.failed_clear
  obtain ⟨hfail, hpass⟩ := round_store text hS hb hr hready.opened
  have hv := hst.visited
  have hec : (Service.storeResult L p.service .clear).ec.failed = it.isFailure := hst.failed
  cases hit : it.isFailure with
  | true =>
    rw [hit] at hec
    rw [if_pos hec] at hv
    exact ⟨⟨_, hv, (hfail hec).outcomes ht⟩, fun _ => (hfail hec).1, nofun⟩
  | false =>
    rw [hit] at hec hnext
    rw [if_neg (by simp [hec])] at hv
    obtain ⟨hreq, hmem, hserv⟩ := hpass hec
    rw [(hnext : Ready L held _ rest).more hL.toAccounts] at hreq
    refine ⟨⟨_, hv, by rw [hmem, outcomes_print ht]⟩, ?_, fun _ hne => ⟨?_, ?_, ?_, ?_⟩⟩
    · rintro (h | rfl)
      · cases h
      · simpa using hreq
    · simpa [hne] using hreq
    · rw [hmem]
    · rw [hmem, ht]
    · rw [hserv]
      exact hnext.asked L

variable (text) in
/-- **From the first result on**, the client reports what is ready. -/
theorem reports_ready (hS : Speaks L V C ok) (hL : Obliging L held) {it : Item} {rest : List Item}
    (hready : Ready L held p.service (it :: rest)) (hb : p.memory.bound = .handleStoreResult)
    (ht : p.memory.thrown = none) (hr : p.request = some V.asyncStoreResult) :
    ∃ n outs, ((C.round (handler V text))^[n] p).request = none ∧
      ((C.round (handler V text))^[n] p).memory.outcomes = p.memory.outcomes ++ outs ∧
      List.Forall₂ Item.Visited (Item.batch (it :: rest)) outs := by
  induction rest generalizing it p with
  | nil =>
    obtain ⟨⟨x, hx, hout⟩, hlast, -⟩ := round_ready text hS hL hready hb ht hr
    refine ⟨1, [x], hlast (.inr rfl), hout, ?_⟩
    cases hit : it.isFailure <;> simpa [Item.batch, hit] using hx
  | cons it' rest ih =>
    obtain ⟨⟨x, hx, hout⟩, hlast, hmore⟩ := round_ready text hS hL hready hb ht hr
    cases hit : it.isFailure with
    | true => exact ⟨1, [x], hlast (.inl hit), hout, by simpa [Item.batch, hit] using hx⟩
    | false =>
      obtain ⟨hreq, hb', ht', hnext⟩ := hmore hit (by simp)
      obtain ⟨n, outs, hend, houts, hall⟩ := ih hnext hb' ht' hreq
      refine ⟨n + 1, x :: outs, by rwa [Function.iterate_succ_apply], ?_, ?_⟩
      · rw [Function.iterate_succ_apply, houts, hout]
        simp
      · simp only [Item.batch, hit, Bool.false_eq_true, if_false]
        exact .cons hx hall

variable (text) in
theorem ends (hS : Speaks L V C ok) (hL : Obliging L held) {i : Implementation M}
    (hc : multiResults c.flags = true) :
    ∃ n outs, Reports L held V C i c text outs ∧
      ((C.round (handler V text))^[n] (Play.begin i main (V.asyncConnect c))).request = none ∧
      ((C.round (handler V text))^[n] (Play.begin i main (V.asyncConnect c))).memory.outcomes =
        outs := by
  set p : Play (Implementation M) BatchReader ι Outcome :=
    Play.begin i main (V.asyncConnect c) with hp
  set x := C.exec i (V.asyncConnect c) with hx
  set o := Service.query L x.1 text .clear with ho
  obtain ⟨hfail, hpass⟩ := round_connect text (C := C) (V := V) (p := p) rfl rfl
  cases hec : x.2.code.failed with
  | true =>
    refine ⟨1, [.error x.2.code], ?_, (hfail hec).1, (hfail hec).outcomes rfl⟩
    simp only [Reports, ← hx, if_pos hec]
  | false =>
    obtain ⟨hreq, hmem, hserv⟩ := hpass hec
    set q := C.round (handler V text) p with hq
    have hne : ¬ x.2.code.failed = true := by simp [hec]
    obtain ⟨hfail', hpass'⟩ := round_query hS (p := q) (by rw [hmem]) hreq
    rw [hserv] at hfail' hpass'
    cases hec' : o.ec.failed with
    | true =>
      refine ⟨2, [.error o.ec], ?_, (hfail' hec').1, ?_⟩
      · simp only [Reports, ← hx, ← ho, if_neg hne, if_pos hec']
      · refine ((hfail' hec').outcomes (by rw [hmem]; rfl)).trans ?_
        rw [hmem]
        rfl
    | false =>
      obtain ⟨hreq', hmem', hserv'⟩ := hpass' hec'
      -- connected for several results, so all of them are ready
      obtain ⟨hopen, hflags⟩ := (hS.connect i c).2 hec
      have hm : multiResults x.1.flags = true := by rw [hflags, hc]
      obtain ⟨it, later, hun, -, hready⟩ := Ready.query hL.toAccounts hopen hec' (.inl hm)
      rw [if_pos hm] at hready
      rw [← ho] at hun
      replace hready : Ready L held (C.round (handler V text) q).service (it :: later) := by
        rw [hserv']
        exact hready
      obtain ⟨n, outs, hend, houts, hall⟩ := reports_ready text hS hL hready
        (by rw [hmem']) (by rw [hmem', hmem]; rfl) hreq'
      refine ⟨n + 2, outs, ?_, hend, ?_⟩
      · simpa only [Reports, ← hx, ← ho, if_neg hne, hec', Bool.false_eq_true, if_false, hun]
          using hall
      · refine houts.trans ?_
        rw [hmem', hmem]
        rfl

/-- Machine `X`, started at `t`, reports to the client what the blocking calls
from `i` on do: at every moment a prefix of it, stuck only with all of it, and
able to get there. -/
def ReportsAll (L : Library M) (held : M → Held) (V : Verbs ι)
    (C : Calls (Implementation M) ι Outcome) (X : Machine T ι Outcome α) (i : Implementation M)
    (t : T) (c : ConnectRequest) (text : String) : Prop :=
  ∃ outs, Reports L held V C i c text outs ∧ ∀ as d,
    Run (X.drive (handler V text)) anyStep (X.begin t main (V.asyncConnect c)) as d →
    d.memory.outcomes <+: outs ∧
      ((∀ a, X.drive (handler V text) d a = none) → d.memory.outcomes = outs) ∧
      ∃ bs d', Run (X.drive (handler V text)) anyStep d bs d' ∧
        (∀ a, X.drive (handler V text) d' a = none) ∧ d'.memory.outcomes = outs

/-- **What the client prints**, on a machine that realises the blocking calls. -/
theorem reads {X : Machine T ι Outcome α} {idle : Implementation M → T → Prop}
    {busy : Implementation M → Outcome → T → Prop} (hR : Realises X C ok idle busy)
    (hS : Speaks L V C ok) (hL : Obliging L held) {i : Implementation M} {t : T} (hst : idle i t)
    (hc : multiResults c.flags = true) : ReportsAll L held V C X i t c text := by
  obtain ⟨n, outs, hrep, hend, houts⟩ := ends text (i := i) hS hL hc
  have hat : Reading V text c (Play.begin i main (V.asyncConnect c) : Play _ _ ι Outcome) :=
    .connecting rfl rfl rfl
  refine ⟨outs, hrep, fun as d hrun => ?_⟩
  refine hR.puts hst (fun m => (hat.rounds hS m).allowed hS) BatchReader.outcomes (fun m => ?_)
    hend houts hrun
  rw [Function.iterate_succ_apply']
  exact ((hat.rounds hS m).round hS).2

end Rounds

end BatchReader

end Amy
