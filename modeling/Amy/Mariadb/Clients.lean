import Amy.Mariadb.Refine
import Amy.Mariadb.System
import Amy.BatchReader
import Amy.Reset

/-!
# Handlers that start the next operation, on `mariadb_service`

The same for a client of `mariadb_service`, however often its native calls are
suspended, while its waits complete without error. Its `async_connect` sets the
option that the non-blocking calls need, so the blocking program it makes connects
on a handle that has the option set. A handler may be invoked before the call that
initiated its operation returns; it starts the next operation from in there, and no
wait completes until it is done.
-/

namespace Amy

open Base

variable {M σ : Type} {L : Library M} {susp : NbCall → M → List UInt32}

/-- On a handle that has the option set, a connect settles as the blocking connect
on that handle. -/
structure Settling (L : Library M) (susp : NbCall → M → List UInt32) : Prop
    extends NonBlocking L susp where
  prepared : ∀ a m, ∃ ws, Settles L.connectCont (Suspends L) ready
    (L.connectStart a (L.options MariadbService.nonblockDefault m).2) ws
    (L.realConnect a (L.options MariadbService.nonblockDefault m).2).1
    (L.realConnect a (L.options MariadbService.nonblockDefault m).2).2

theorem Script.settling : Settling library fun _ m => (m.waits.headD []).map WaitMask.status where
  toNonBlocking := nonBlocking
  prepared a m :=
    ⟨_, suspendable_settles realConnect_unsuspended { m with connecting := a.clientFlag }⟩

namespace MariadbService

/-- `open`, `set_option(nonblock_default)` and `connect`, one after the other. -/
def preparedConnect (L : Library M) (i : Implementation M) (c : ConnectRequest) : Done M :=
  let o := MariadbService.open L i .clear
  if o.ec.failed then o
  else
    let p := setOption L o.impl nonblockDefault .clear
    if p.ec.failed then p else MariadbService.connect L p.impl c .clear

def calls (L : Library M) : Calls (Implementation M) Request Outcome where
  exec i
    | .connect c => let o := preparedConnect L i c; (o.impl, o.outcome)
    | r => blocking L i r
  ask i :=
    let h := MariadbService.hasMoreResults L i
    (h.2, h.1)

/-- A connector and how many of its handlers have run. -/
structure Attended (M : Type) where
  world : World M
  handled : Nat

def Attended.start (i : Implementation M) : Attended M := ⟨World.start { i with ev := -1 }, 0⟩

/-- A connector as a client's handlers use it: waits complete without error, and
not while a handler that was invoked has still to run. -/
def machine (L : Library M) : Machine (Attended M) Request Outcome Nat where
  submit t r := { t with world := t.world.initiate L r }
  step t k :=
    if t.handled = t.world.invoked.length then
      (t.world.step L (.fire k .clear)).map fun w => { t with world := w }
    else none
  answer t :=
    match t.world.invoked[t.handled]? with
    | some c => some ({ t with handled := t.handled + 1 }, c.outcome)
    | none => t.world.posted.head?.bind fun c =>
      (t.world.step L .deliver).map fun w => (⟨w, t.handled + 1⟩, c.outcome)
  ask t :=
    let h := MariadbService.hasMoreResults L t.world.impl.toImplementation
    ({ t with world := { t.world with impl := t.world.impl.update h.2 } }, h.1)

/-- A result is asked for on an open connector only. -/
def Askable (i : Implementation M) (r : Request) : Prop :=
  r = .storeResult → i.initialized = true

instance (i : Implementation M) (r : Request) : Decidable (Askable i r) :=
  inferInstanceAs (Decidable (_ → _))

/-- Nothing is pending on a connector that is the same as `i`. -/
structure Attended.Idle (i : Implementation M) (t : Attended M) : Prop where
  same : Same t.world.impl.toImplementation i
  waits : t.world.waits = []
  posted : t.world.posted = []
  handled : t.handled = t.world.invoked.length

/-- One operation is under way, and will leave a connector the same as `i` and
outcome `o`: its handler is posted, was invoked and has still to run, or waits. -/
inductive Attended.Busy (L : Library M) (i : Implementation M) (o : Outcome) (t : Attended M) :
    Prop where
  | posted (n : Nat) : Same t.world.impl.toImplementation i → t.world.waits = [] →
      t.world.posted = [⟨n, o⟩] → t.handled = t.world.invoked.length → Busy L i o t
  | invoked (n : Nat) (before : List Completion) : Same t.world.impl.toImplementation i →
      t.world.waits = [] → t.world.posted = [] → t.world.invoked = before ++ [⟨n, o⟩] →
      t.handled = before.length → Busy L i o t
  | waiting (x : Wait) (j : MariadbImplementation M) : t.world.waits = [x] → t.world.posted = [] →
      t.handled = t.world.invoked.length →
      Handler.EndsAt L (x.handler.call L t.world.impl .clear x.on.status) j o →
      Same j.toImplementation i → Busy L i o t

/-! ## An operation and its blocking call -/

theorem Mirrors.same {j : MariadbImplementation M} {b : Implementation M} (h : Mirrors j b) :
    Same j.toImplementation b :=
  ⟨h.st, h.initialized, h.first, by rw [h.flags]⟩

theorem preparedConnect_same {i i' : Implementation M} (h : Same i i') (c : ConnectRequest) :
    (preparedConnect L i c).Same (preparedConnect L i' c) := by
  obtain ⟨hec, ho⟩ := h.open (L := L) .clear
  obtain ⟨hpec, hp⟩ := ho.setOption (L := L) .mariadb nonblockDefault .clear
  simp only [Connector.setOptionEc] at hpec hp
  simp only [preparedConnect, ← hec, ← hpec]
  split_ifs
  · exact ⟨hec, ho⟩
  · exact ⟨hpec, hp⟩
  · exact hp.connect c .clear

theorem exec_same {i i' : Implementation M} (h : Same i i') (r : Request) :
    ((calls L).exec i r).2 = ((calls L).exec i' r).2 ∧
      Same ((calls L).exec i r).1 ((calls L).exec i' r).1 := by
  cases r with
  | connect c =>
    obtain ⟨hec, ho⟩ := preparedConnect_same (L := L) h c
    exact ⟨congrArg (Outcome.mk · none) hec, ho⟩
  | query stmt =>
    obtain ⟨hec, ho⟩ := h.query (L := L) stmt .clear
    simp only [calls, blocking, Connector.queryEc_eq, Done.outcome, ← hec]
    exact ⟨trivial, ho⟩
  | storeResult =>
    obtain ⟨hec, hrs, ho⟩ := h.storeResult (L := L) .clear
    simp only [calls, blocking, Connector.storeResultEc_eq, Stored.outcome, ← hec, ← hrs]
    exact ⟨trivial, ho⟩
  | queryResult stmt =>
    obtain ⟨hec, hq⟩ := h.query (L := L) stmt .clear
    simp only [calls, blocking, Connector.queryResultEc, Connector.queryEc_eq,
      Connector.storeResultEc_eq, Stored.outcome, ← hec]
    split_ifs
    · exact ⟨rfl, hq⟩
    · obtain ⟨hec', hrs, ho⟩ := hq.storeResult (L := L) (Service.query L i stmt .clear).ec
      exact ⟨by rw [hec', hrs], ho⟩

/-- An initiating call from `i` that ends with outcome `o` in a connector the
same as `b`, its handler posted or run. -/
def Settles (L : Library M) (i : MariadbImplementation M) (r : Request) (b : Implementation M)
    (o : Outcome) : Prop :=
  (∃ j, initiate L i r = .posted j o ∧ Same j.toImplementation b) ∨
    ∃ t j, initiate L i r = .ran t ∧ Handler.EndsAt L t j o ∧ Same j.toImplementation b

theorem connect_settles (hL : Settling L susp) {i : MariadbImplementation M}
    (hopen : i.initialized = true) (c : ConnectRequest) :
    MariadbService.Settles L i (.connect c) (preparedConnect L i.toImplementation c).impl
      (preparedConnect L i.toImplementation c).outcome := by
  obtain ⟨ws, hsettle⟩ := hL.prepared c.args i.mysql.st
  obtain ⟨t, j, ht, hj, hset⟩ := connect_ends hL.toNonBlocking hopen c hsettle
  have hcall : preparedConnect L i.toImplementation c =
      ⟨{ i.toImplementation with
          mysql := (i.mysql.call (.options nonblockDefault.option)
            (L.options nonblockDefault i.mysql.st).2).call (.realConnect c.args)
            (L.realConnect c.args (L.options nonblockDefault i.mysql.st).2).2
          flags := c.flags },
        errorWrapper (L.realConnect c.args (L.options nonblockDefault i.mysql.st).2).1
          (L.errno (L.realConnect c.args (L.options nonblockDefault i.mysql.st).2).2) .clear⟩ := by
    simp [preparedConnect, Service.open_initialized hopen, setOption, hopen, Service.applyOption,
      mysqlOptions, wrapped, errorWrapper, hL.nonblock, Service.connect, Service.connectOpen,
      mysqlRealConnect]
    rfl
  refine .inr ⟨t, j, ht, ?_, ?_⟩
  · rw [hcall]
    exact hj
  · rw [hcall]
    exact ⟨hset.st, hset.initialized, hset.first, by rw [hset.flags]⟩

/-- **An operation settles as its blocking call.** -/
theorem initiate_settles (hL : Settling L susp) (i : MariadbImplementation M) {r : Request}
    (hr : Askable i.toImplementation r) :
    MariadbService.Settles L i r ((calls L).exec i.toImplementation r).1
      ((calls L).exec i.toImplementation r).2 := by
  cases hi : i.initialized with
  | true =>
    cases r with
    | connect c => exact connect_settles hL hi c
    | query stmt =>
      obtain ⟨t, j, ht, hj, hm⟩ := query_mirrors hL.toNonBlocking hi stmt
      exact .inr ⟨t, j, ht, hj, hm.same⟩
    | storeResult =>
      obtain ⟨t, j, ht, hj, hm⟩ := storeResult_mirrors hL.toNonBlocking hi
      exact .inr ⟨t, j, ht, hj, hm.same⟩
    | queryResult stmt =>
      obtain ⟨t, j, ht, hj, hm⟩ := queryResult_mirrors hL.toNonBlocking hi stmt
      exact .inr ⟨t, j, ht, hj, hm.same⟩
  | false =>
    cases r with
    | storeResult => simp [hr rfl] at hi
    | query stmt =>
      refine .inl ⟨i, ?_, ?_⟩
      · simp [initiate, asyncQuery, hi, calls, blocking, Service.query, Done.outcome]
      · simpa [calls, blocking, Service.query, hi] using Same.refl _
    | queryResult stmt =>
      refine .inl ⟨i, ?_, ?_⟩
      · simp [initiate, asyncQueryResult, hi, calls, blocking, Service.query,
          Connector.queryResultEc, Stored.outcome]
      · simpa [calls, blocking, Service.query, Connector.queryResultEc, hi] using Same.refl _
    | connect c =>
      cases hec : (MariadbService.open L i.toImplementation .clear).ec.failed with
      | true =>
        refine .inl ⟨i.update (MariadbService.open L i.toImplementation .clear).impl, ?_, ?_⟩
        · simp [initiate, asyncConnect, hi, hec, calls, preparedConnect, Done.outcome]
        · simpa [calls, preparedConnect, hec] using Same.refl _
      | false =>
        -- the rest is the connect of the connector that was opened
        set i' := i.update (MariadbService.open L i.toImplementation .clear).impl with hi'
        have hopen : i'.initialized = true := Amy.open_initialized hec
        have hinit : initiate L i (.connect c) = initiate L i' (.connect c) := by
          simp [initiate, asyncConnect, hi, hec, hopen, ← hi']
        have hcall : preparedConnect L i.toImplementation c =
            preparedConnect L i'.toImplementation c := by
          have ho : MariadbService.open L i'.toImplementation .clear =
              ⟨i'.toImplementation, .clear⟩ := Service.open_initialized hopen _
          simp only [preparedConnect, ho, ErrorCode.failed_clear, Bool.false_eq_true, if_false]
          rw [if_neg (by simp [hec])]
          rfl
        have hset := connect_settles hL hopen c
        unfold MariadbService.Settles at hset ⊢
        rw [hinit]
        simpa only [calls, hcall] using hset

/-! ## A connector and its client -/

variable {i : Implementation M} {o : Outcome} {t : Attended M}

/-- A turn that ends with outcome `o`, in a connector nothing else is pending on. -/
theorem Attended.Busy.settle {w : World M} (hw : w.waits = []) (hp : w.posted = [])
    {turn : Turn M Handler} {j : MariadbImplementation M} (hend : Handler.EndsAt L turn j o)
    (hs : Same j.toImplementation i) (n : Nat) :
    Busy L i o ⟨w.settle n turn, w.invoked.length⟩ := by
  cases hend with
  | invoke => exact .invoked n w.invoked hs hw hp rfl rfl
  | @wait k _ p on _ hend => exact .waiting ⟨n, p, on⟩ j (by simp [World.settle, hw]) hp rfl hend hs

theorem Attended.Idle.initiate (hL : Settling L susp) (h : t.Idle i) {r : Request}
    (hr : Askable i r) :
    Busy L ((calls L).exec i r).1 ((calls L).exec i r).2
      ⟨t.world.initiate L r, t.handled⟩ := by
  obtain ⟨hs, hw, hp, hn⟩ := h
  obtain ⟨heq, hse⟩ := exec_same (L := L) hs r
  rw [← heq, hn]
  rcases initiate_settles hL t.world.impl (r := r) (fun hst => hs.initialized.trans (hr hst)) with
    ⟨j, hinit, hj⟩ | ⟨turn, j, hinit, hend, hj⟩
  · refine .posted t.world.next (by simpa only [World.initiate, hinit] using hj.trans hse) ?_ ?_ ?_
    · simp [World.initiate, hinit, hw]
    · simp [World.initiate, hinit, hp]
    · simp [World.initiate, hinit]
  · simp only [World.initiate, hinit]
    exact Busy.settle (w := { t.world with next := t.world.next + 1 }) hw hp hend (hj.trans hse) _

/-- One more of an operation's waits completes, until its handler is invoked. -/
theorem Attended.invokes {turn : Turn M Handler} {j : MariadbImplementation M}
    (hend : Handler.EndsAt L turn j o) (n : Nat) {w : World M} (hw : w.waits = []) :
    ∃ ks t', Run (machine L).step anyStep (⟨w.settle n turn, w.invoked.length⟩ : Attended M) ks t' ∧
      ((machine L).answer t').isSome := by
  induction hend generalizing w with
  | invoke j o => exact ⟨[], _, .start, by simp [machine, World.settle]⟩
  | @wait i _ p on _ _ ih =>
    obtain ⟨ks, t', hrun, ht⟩ := ih (w := { w with impl := i }) hw
    refine ⟨0 :: ks, t', (Run.single trivial ?_).trans hrun, ht⟩
    simp [machine, World.settle, World.step, hw]

/-- **The waits realise the blocking calls.** -/
theorem realises (hL : Settling L susp) :
    Realises (machine L) (calls L) Askable Attended.Idle (Attended.Busy L) where
  submit h hr := h.initiate hL hr
  step {i o t k t'} h hs := by
    simp only [machine] at hs
    split_ifs at hs with hn
    obtain ⟨w', hw', rfl⟩ := Option.map_eq_some_iff.mp hs
    obtain ⟨x, hx, rfl⟩ := World.step_fire hw'
    cases h with
    | posted n hsame hw => simp [hw] at hx
    | invoked n before hsame hw => simp [hw] at hx
    | waiting y j hw hp _ hend hsame =>
      rw [hw] at hx
      obtain ⟨rfl, rfl⟩ : k = 0 ∧ x = y := by
        cases k with
        | zero => exact ⟨rfl, (by simpa using hx.symm)⟩
        | succ k => simp at hx
      rw [hn]
      exact .settle (w := { t.world with waits := t.world.waits.eraseIdx 0 }) (by simp [hw]) hp hend
        hsame _
  answer {i o t t' o'} h hs := by
    simp only [machine] at hs
    cases h with
    | posted n hsame hw hp hn =>
      obtain ⟨rfl, rfl⟩ : _ = t' ∧ o = o' := by simpa [hn, hp, World.step] using hs
      exact ⟨rfl, hsame, hw, rfl, by simp⟩
    | invoked n before hsame hw hp hi hn =>
      obtain ⟨rfl, rfl⟩ : _ = t' ∧ o = o' := by simpa [hn, hi] using hs
      exact ⟨rfl, hsame, hw, hp, by simp [hi]⟩
    | waiting x j hw hp hn => simp [hn, hp] at hs
  ask {i t} h := by
    obtain ⟨hs, hw, hp, hn⟩ := h
    obtain ⟨hmore, hsame⟩ := hs.hasMoreResults (L := L)
    exact ⟨hmore, hsame, hw, hp, hn⟩
  rests {i t} h := by
    obtain ⟨-, hw, hp, hn⟩ := h
    exact ⟨fun k => by simp [machine, World.step, hw], by simp [machine, hn, hp]⟩
  finishes {i o t} h := by
    cases h with
    | posted n _ _ hp hn => exact ⟨[], t, .start, by simp [machine, hn, hp, World.step]⟩
    | invoked n before _ _ _ hi hn => exact ⟨[], t, .start, by simp [machine, hn, hi]⟩
    | waiting x j hw hp hn hend =>
      obtain ⟨ks, t', hrun, ht⟩ := Attended.invokes hend x.id (w := { t.world with waits := [] }) rfl
      refine ⟨0 :: ks, t', (Run.single trivial ?_).trans hrun, ht⟩
      simp [machine, hn, World.step, hw]

/-- **A client of `mariadb_service` makes its blocking program**, however often
its calls are suspended for an event other than `MYSQL_WAIT_EXCEPT`, and whichever
of its handlers are invoked before the initiating call returns. -/
theorem client_resumes (hL : Settling L susp) {i : Implementation M}
    {handler : σ → Outcome → Next σ Request} {m : σ} {r : Request}
    (hok : (calls L).Allowed handler Askable (Play.begin i m r))
    {as : List (DrivenAction Nat)} {d : Driven (Attended M) σ Outcome}
    (hrun : Run ((machine L).drive handler) anyStep ((machine L).begin (.start i) m r) as d) :
    ∃ n, let p := ((calls L).round handler)^[n] (Play.begin i m r)
      d.memory = p.memory ∧ d.seen = p.seen ∧
        (p.request = none → Same d.machine.world.impl.toImplementation p.service) ∧
        ((∀ a, (machine L).drive handler d a = none) → p.request = none) ∧
        ∀ k, ∃ bs d', Run ((machine L).drive handler) anyStep d bs d' ∧
          d'.seen = (((calls L).round handler)^[k + n] (Play.begin i m r)).seen := by
  obtain ⟨n, hmem, hseen, hidle, hstuck, hfar⟩ :=
    (realises hL).plays (t := .start i) ⟨.refl _, rfl, rfl, rfl⟩ hok hrun
  exact ⟨n, hmem, hseen, fun hnone => (hidle hnone).same, hstuck, hfar⟩

def verbs : Verbs Request := ⟨.connect, .query, .storeResult⟩

/-- That client, suspended in its connect and twice in the store of its first
result. -/
theorem client_resumes_multi_query :
    ∃ d n, exec ((machine Script.library).drive (BatchReader.handler verbs "select 1; oops"))
        ((machine Script.library).begin (.start (BatchReader.multiQuery verbs).service)
          BatchReader.main (verbs.asyncConnect (Script.login clientMultiStatements)))
        [.step 0, .handle, .handle, .step 0, .step 0, .handle] = some d ∧
      d.memory.printed = [.ofRes Script.oneRow.val] ∧
      d.memory = (((calls Script.library).round (BatchReader.handler verbs "select 1; oops"))^[n]
        (BatchReader.multiQuery verbs)).memory := by
  obtain ⟨d, hd, hprinted⟩ : ∃ d,
      exec ((machine Script.library).drive (BatchReader.handler verbs "select 1; oops"))
        ((machine Script.library).begin (.start (BatchReader.multiQuery verbs).service)
          BatchReader.main (verbs.asyncConnect (Script.login clientMultiStatements)))
        [.step 0, .handle, .handle, .step 0, .step 0, .handle] = some d ∧
      d.memory.printed = [.ofRes Script.oneRow.val] := ⟨_, rfl, rfl⟩
  have hok : (calls Script.library).Allowed (BatchReader.handler verbs "select 1; oops") Askable
      (BatchReader.multiQuery verbs) := .of_ended (n := 4) (by decide) (by decide)
  obtain ⟨n, hmem, -⟩ := client_resumes Script.settling hok (run_of_exec (fun _ _ _ => trivial) hd)
  exact ⟨d, n, hd, hprinted, hmem⟩

end MariadbService

end Amy
