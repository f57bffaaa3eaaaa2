import Amy.Mysql.Ordered
import Amy.BatchReader

/-!
# Handlers that start the next operation, on `mysql_service`

A client of `mysql_service` that makes an operation, and goes on in its handler,
makes the blocking calls one after the other: the same outcomes, in the same
order, with the connector left alike.
-/

namespace Amy

namespace MysqlService

open Base

variable {M σ : Type}

def askMore (L : Library M) (i : Implementation M) : Implementation M × Bool :=
  let h := MysqlService.hasMoreResults L i
  (h.2, h.1)

def calls (L : Library M) : Calls (Implementation M) Request Outcome where
  exec := blockingJob L
  ask := askMore L

/-- The connector with its queues, as a client's handlers use it: the worker
steps, and the io_service invokes. -/
def machine (L : Library M) : Machine (World M) Request Outcome Unit where
  submit w r := w.initiate L r
  step w _ := w.step L .work
  answer w := w.io.head?.bind fun c => (w.step L .deliver).map fun w' => (w', c.outcome)
  ask w :=
    let a := askMore L w.impl
    ({ w with impl := a.1 }, a.2)

/-- A result is asked for on an open connector only. -/
def Askable (i : Implementation M) (r : Request) : Prop :=
  r = .storeResult → i.initialized = true

instance (i : Implementation M) (r : Request) : Decidable (Askable i r) :=
  inferInstanceAs (Decidable (_ → _))

def World.Idle (i : Implementation M) (w : World M) : Prop :=
  w.impl = i ∧ w.work = [] ∧ w.io = []

/-- One operation is under way, and will leave connector `i` and outcome `o`. -/
def World.Busy (L : Library M) (i : Implementation M) (o : Outcome) (w : World M) : Prop :=
  (∃ j, w.work = [j] ∧ w.io = [] ∧ j.run L w.impl = ⟨i, o⟩) ∨
    (w.work = [] ∧ w.impl = i ∧ ∃ n, w.io = [⟨n, o⟩])

variable {L : Library M} {i : Implementation M} {w : World M}

theorem World.Idle.post (h : w.Idle i) (hopen : i.initialized = true) (r : Request) :
    (w.post r).Busy L (blockingJob L i r).1 (blockingJob L i r).2 := by
  obtain ⟨rfl, hw, hio⟩ := h
  refine .inl ⟨⟨w.next, r, w.impl.cancelationToken⟩, by simp [World.post, hw], hio, ?_⟩
  exact Job.run_eq_blocking rfl hopen

theorem World.Idle.postHandler (h : w.Idle i) (o : Outcome) :
    (w.postHandler o).Busy L i o := by
  obtain ⟨rfl, hw, hio⟩ := h
  exact .inr ⟨hw, rfl, w.next, by simp [World.postHandler, hio]⟩

theorem World.Idle.initiate (h : w.Idle i) {r : Request} (hr : Askable i r) :
    (w.initiate L r).Busy L (blockingJob L i r).1 (blockingJob L i r).2 := by
  cases hi : i.initialized with
  | true =>
    rw [World.initiate_open (by rw [h.1]; exact hi)]
    exact h.post hi r
  | false =>
    obtain ⟨rfl, hw, hio⟩ := h
    cases r with
    | storeResult => simp [hr rfl] at hi
    | query stmt =>
      have hcall : blockingJob L w.impl (.query stmt) = (w.impl, ⟨.notInitialized, none⟩) := by
        simp [blockingJob, blocking, Service.query, hi, Done.outcome]
      rw [hcall, World.initiate, World.asyncQuery, if_pos (by simp [hi])]
      exact World.Idle.postHandler ⟨rfl, hw, hio⟩ _
    | connect c =>
      set o := Service.open L w.impl .clear with ho
      have hidle : World.Idle o.impl { w with impl := o.impl } := ⟨rfl, hw, hio⟩
      have hclosed : (!w.impl.initialized) = true := by simp [hi]
      rw [World.initiate, World.asyncConnect, if_pos hclosed]
      by_cases hec : o.ec.failed = true
      · have hcall : blockingJob L w.impl (.connect c) = (o.impl, ⟨o.ec, none⟩) := by
          simp [blockingJob, blocking, Service.connect, hi, ← ho, hec, Done.outcome]
        rw [hcall]
        simp only [MysqlService.open, ← ho, if_pos hec]
        exact hidle.postHandler _
      · have hopened : o.impl.initialized = true := Amy.open_initialized (by simpa using hec)
        have hcall : blockingJob L w.impl (.connect c) = blockingJob L o.impl (.connect c) := by
          simp [blockingJob, blocking, Service.connect, hi, ← ho, hec, hopened, Service.connectOpen,
            mysqlRealConnect, wrapped, Done.outcome]
        rw [hcall]
        simp only [MysqlService.open, ← ho, if_neg hec]
        exact hidle.post hopened _

/-- **The queues realise the blocking calls.** -/
theorem realises (L : Library M) :
    Realises (machine L) (calls L) Askable World.Idle (World.Busy L) where
  submit h hr := h.initiate hr
  step {i o w a w'} h hs := by
    obtain ⟨j, js, hw, rfl⟩ := World.step_work hs
    rcases h with ⟨k, hk, hio, hrun⟩ | ⟨hnil, -, -⟩
    · obtain ⟨rfl, rfl⟩ := List.cons.inj (hw.symm.trans hk)
      exact .inr ⟨rfl, by rw [hrun], j.id, by simp [hio, hrun]⟩
    · simp [hw] at hnil
  answer {i o w w' o'} h hs := by
    obtain ⟨c, hc, hs⟩ := Option.bind_eq_some_iff.mp hs
    obtain ⟨v, hv, heq⟩ := Option.map_eq_some_iff.mp hs
    obtain ⟨d, ds, hio, rfl⟩ := World.step_deliver hv
    obtain ⟨rfl, rfl⟩ := Prod.mk.inj heq
    rcases h with ⟨-, -, hnil, -⟩ | ⟨hw, himpl, n, hn⟩
    · simp [hio] at hnil
    · obtain ⟨rfl, rfl⟩ := List.cons.inj (hio.symm.trans hn)
      obtain rfl : ⟨n, o⟩ = c := by simpa [hio] using hc
      exact ⟨rfl, himpl, hw, rfl⟩
  ask {i w} h := by
    obtain ⟨rfl, hw, hio⟩ := h
    exact ⟨rfl, rfl, hw, hio⟩
  rests {i w} h := by
    obtain ⟨-, hw, hio⟩ := h
    exact ⟨fun a => by simp [machine, World.step, hw], by simp [machine, hio]⟩
  finishes {i o w} h := by
    rcases h with ⟨j, hw, hio, hrun⟩ | ⟨-, -, n, hn⟩
    · exact ⟨[()], _, .single trivial (by simp only [machine, World.step, hw]; rfl),
        by simp [machine, World.step, hio]⟩
    · exact ⟨[], w, .start, by simp [machine, World.step, hn]⟩

/-- **A client of `mysql_service` makes its blocking program.** In every state
of every interleaving of the worker, the io_service and the client's handlers
the handlers have been called with what the first `n` blocking calls of the
program return, and have come as far; once the program has ended the connector
is the program's. The client is stuck only there, and otherwise gets as far as
the program does. -/
theorem client_plays {handler : σ → Outcome → Next σ Request} {m : σ} {r : Request}
    (hok : (calls L).Allowed handler Askable (Play.begin i m r))
    {as : List (DrivenAction Unit)} {d : Driven (World M) σ Outcome}
    (hrun : Run ((machine L).drive handler) anyStep ((machine L).begin (World.start i) m r) as d) :
    ∃ n, let p := ((calls L).round handler)^[n] (Play.begin i m r)
      d.memory = p.memory ∧ d.seen = p.seen ∧ (p.request = none → d.machine.impl = p.service) ∧
        ((∀ a, (machine L).drive handler d a = none) → p.request = none) ∧
        ∀ k, ∃ bs d', Run ((machine L).drive handler) anyStep d bs d' ∧
          d'.seen = (((calls L).round handler)^[k + n] (Play.begin i m r)).seen := by
  obtain ⟨n, hmem, hseen, hidle, hstuck, hfar⟩ :=
    (realises L).plays (t := World.start i) ⟨rfl, rfl, rfl⟩ hok hrun
  exact ⟨n, hmem, hseen, fun hnone => (hidle hnone).1, hstuck, hfar⟩

def verbs : Verbs Request := ⟨.connect, .query, .storeResult⟩

theorem client_plays_multi_query :
    ∃ d n, exec ((machine Script.library).drive (BatchReader.handler verbs "select 1; oops"))
        ((machine Script.library).begin (.start (BatchReader.multiQuery verbs).service)
          BatchReader.main (verbs.asyncConnect (Script.login clientMultiStatements)))
        [.step (), .handle, .step (), .handle, .step (), .handle] = some d ∧
      d.memory.printed = [.ofRes Script.oneRow.val] ∧
      d.memory = (((calls Script.library).round (BatchReader.handler verbs "select 1; oops"))^[n]
        (BatchReader.multiQuery verbs)).memory := by
  obtain ⟨d, hd, hprinted⟩ : ∃ d,
      exec ((machine Script.library).drive (BatchReader.handler verbs "select 1; oops"))
        ((machine Script.library).begin (.start (BatchReader.multiQuery verbs).service)
          BatchReader.main (verbs.asyncConnect (Script.login clientMultiStatements)))
        [.step (), .handle, .step (), .handle, .step (), .handle] = some d ∧
      d.memory.printed = [.ofRes Script.oneRow.val] := ⟨_, rfl, rfl⟩
  have hok : (calls Script.library).Allowed (BatchReader.handler verbs "select 1; oops") Askable
      (BatchReader.multiQuery verbs) := .of_ended (n := 4) (by decide) (by decide)
  obtain ⟨n, hmem, -⟩ := client_plays hok (run_of_exec (fun _ _ _ => trivial) hd)
  exact ⟨d, n, hd, hprinted, hmem⟩

end MysqlService

end Amy
