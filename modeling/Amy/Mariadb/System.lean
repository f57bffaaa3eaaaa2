import Amy.Mariadb.Turns

/-!
# A connector of `mariadb_service` and its waits

`World` is a connector with the waits its operations have registered and the
handlers posted to the io_service; `step` are the actions on it: initiations,
waits that complete, handler invocations, `cancel`, `close` and blocking calls.
One `operator()` is one step.

A pending wait may complete at any time and with any code. This covers a
descriptor or timer that is ready, one that fails, and the waits canceled by
`async_wait_mysql` or `close`, which complete with `operation_aborted` unless
their event was queued before.
-/

namespace Amy

open Base

namespace MariadbService

variable {M : Type}

/-- A registered wait, with the handler it will run. -/
structure Wait where
  id : Nat
  handler : Handler
  on : WaitFor

structure World (M : Type) where
  impl : MariadbImplementation M
  waits : List Wait
  /-- Handlers posted to the io_service, oldest first. -/
  posted : List Completion
  /-- Handlers invoked, oldest first. -/
  invoked : List Completion
  /-- The number of the next operation. -/
  next : Nat

def World.start (i : MariadbImplementation M) : World M := ⟨i, [], [], [], 0⟩

inductive Action where
  | initiate (r : Request)
  /-- The `k`th of the registered waits completes with a code. -/
  | fire (k : Nat) (ec : ErrorCode)
  /-- The io_service invokes the oldest posted handler. -/
  | deliver
  | cancel
  | close
  | call (ec : ErrorCode) (op : Operation)
  deriving DecidableEq, Repr

def Action.initiates : Action → Bool
  | .initiate _ => true
  | _ => false

def Action.cuts : Action → Bool
  | .cancel | .close => true
  | _ => false

namespace World

/-- The end of a turn of operation `id`. One that fails an assertion or spins
does not come back. -/
def settle (w : World M) (id : Nat) : Turn M Handler → World M
  | .wait i h on => { w with impl := i, waits := w.waits ++ [⟨id, h, on⟩] }
  | .dropped i => { w with impl := i }
  | .invoke i o => { w with impl := i, invoked := w.invoked ++ [⟨id, o⟩] }
  | .assertion | .spinning => w

@[simp] theorem settle_next (w : World M) (id : Nat) (t : Turn M Handler) :
    (w.settle id t).next = w.next := by
  cases t <;> rfl

variable (L : Library M)

def initiate (w : World M) (r : Request) : World M :=
  match MariadbService.initiate L w.impl r with
  | .posted i o =>
    { w with impl := i, posted := w.posted ++ [⟨w.next, o⟩], next := w.next + 1 }
  | .ran t => { w with next := w.next + 1 }.settle w.next t

def step (w : World M) : Action → Option (World M)
  | .initiate r => some (w.initiate L r)
  | .fire k ec => match w.waits[k]? with
    | none => none
    | some x =>
      some ({ w with waits := w.waits.eraseIdx k }.settle x.id
        (x.handler.call L w.impl ec x.on.status))
  | .deliver => match w.posted with
    | [] => none
    | c :: cs => some { w with posted := cs, invoked := w.invoked ++ [c] }
  | .cancel => some { w with impl := w.impl.update w.impl.cancel }
  | .close => some { w with impl := if w.impl.initialized then w.impl.close L else w.impl }
  | .call ec op => some { w with impl := w.impl.update (perform .mariadb L w.impl.toImplementation ec op).1 }

variable {L} {w w' : World M}

theorem step_fire {k : Nat} {ec : ErrorCode} (h : w.step L (.fire k ec) = some w') :
    ∃ x, w.waits[k]? = some x ∧ w' = { w with waits := w.waits.eraseIdx k }.settle x.id
      (x.handler.call L w.impl ec x.on.status) := by
  simp only [step] at h
  cases hx : w.waits[k]? with
  | none => rw [hx] at h; cases h
  | some x =>
    rw [hx] at h
    exact ⟨x, rfl, (Option.some_inj.mp h).symm⟩

theorem step_deliver (h : w.step L .deliver = some w') : ∃ c cs, w.posted = c :: cs ∧
    w' = { w with posted := cs, invoked := w.invoked ++ [c] } := by
  simp only [step] at h
  cases hp : w.posted with
  | nil => rw [hp] at h; cases h
  | cons c cs =>
    rw [hp] at h
    exact ⟨c, cs, rfl, (Option.some_inj.mp h).symm⟩

end World

/-! ## What starts and resumes an operation -/

variable {L : Library M} {i : MariadbImplementation M}

/-- **What `open` and `set_option` keep, an initiating call keeps** up to where it
posts its handler, with no rows, or launches its operation on an open connector. -/
theorem initiate_cases (L : Library M) {I : MariadbImplementation M → Prop}
    {i : MariadbImplementation M} (h0 : I i) (r : Request)
    (hopen : ∀ c, r = .connect c → I (i.update (MariadbService.open L i.toImplementation .clear).impl))
    (hset : ∀ c, r = .connect c → ∀ j, I j →
      I (j.update (setOption L j.toImplementation nonblockDefault .clear).impl)) :
    ∃ j, I j ∧ ((∃ o : Outcome, (∀ x ∈ o.rs, x = .emptySet) ∧ initiate L i r = .posted j o) ∨
      (j.initialized = true ∧ ∃ ec, ec.failed = false ∧ initiate L i r = launch L j r ec)) := by
  have hready : ∀ j : MariadbImplementation M, j.initialized = true → I j → ∀ c, r = .connect c →
      ∃ k, I k ∧ ((∃ o : Outcome, (∀ x ∈ o.rs, x = .emptySet) ∧
          asyncConnectOpen L j c = .posted k o) ∨
        (k.initialized = true ∧ ∃ ec, ec.failed = false ∧
          asyncConnectOpen L j c = launch L k r ec)) := by
    intro j hj hI c hr
    have hkept : (setOption L j.toImplementation nonblockDefault .clear).impl.initialized = true := by
      simp [setOption, hj, Service.applyOption]
    refine ⟨_, hset c hr j hI, ?_⟩
    simp only [asyncConnectOpen]
    split_ifs with hec
    · exact .inl ⟨_, by simp, rfl⟩
    · exact .inr ⟨hkept, _, Bool.not_eq_true _ ▸ hec, by rw [hr]⟩
  cases hi : i.initialized with
  | true =>
    cases r with
    | connect c =>
      obtain ⟨k, hk, hend⟩ := hready i hi h0 c rfl
      exact ⟨k, hk, by simpa [initiate, asyncConnect, hi] using hend⟩
    | query stmt => exact ⟨i, h0, .inr ⟨hi, .clear, rfl, by simp [initiate, asyncQuery, hi]⟩⟩
    | storeResult => exact ⟨i, h0, .inr ⟨hi, .clear, rfl, by simp [initiate, asyncStoreResult, hi]⟩⟩
    | queryResult stmt =>
      exact ⟨i, h0, .inr ⟨hi, .clear, rfl, by simp [initiate, asyncQueryResult, hi]⟩⟩
  | false =>
    cases r with
    | connect c =>
      cases hec : (MariadbService.open L i.toImplementation .clear).ec.failed with
      | true =>
        exact ⟨_, hopen c rfl, .inl ⟨⟨(MariadbService.open L i.toImplementation .clear).ec, none⟩,
          by simp, by simp [initiate, asyncConnect, hi, hec]⟩⟩
      | false =>
        obtain ⟨k, hk, hend⟩ := hready _ (open_initialized hec) (hopen c rfl) c rfl
        exact ⟨k, hk, by simpa [initiate, asyncConnect, hi, hec] using hend⟩
    | query stmt =>
      exact ⟨i, h0, .inl ⟨⟨.notInitialized, none⟩, by simp, by simp [initiate, asyncQuery, hi]⟩⟩
    | storeResult =>
      exact ⟨i, h0, .inl ⟨⟨.notInitialized, some .emptySet⟩, by simp,
        by simp [initiate, asyncStoreResult, hi]⟩⟩
    | queryResult stmt =>
      exact ⟨i, h0, .inl ⟨⟨.notInitialized, some .emptySet⟩, by simp,
        by simp [initiate, asyncQueryResult, hi]⟩⟩

/-- How an initiating call can end: a handler runs on an open connector only. -/
def Started.Post (i : MariadbImplementation M) : Started M → Prop
  | .posted j _ => i.Moves j none none 0
  | .ran t => ∃ j, j.initialized = true ∧ i.Moves j none none 0 ∧
      t.Post (Handler.Rests j.cancelationToken) j none

theorem launch_post {j : MariadbImplementation M} (hopen : j.initialized = true)
    (hm : i.Moves j none none 0) (r : Request) {ec : ErrorCode} (hec : ec.failed = false) :
    (launch L j r ec).Post i :=
  ⟨j, hopen, hm, Handler.construct_post r hec WaitType.finish⟩

/-- **An initiating call** posts its handler, or runs it from nothing suspended. -/
theorem initiate_post (L : Library M) (i : MariadbImplementation M) (r : Request) :
    (initiate L i r).Post i := by
  have hopen : i.Moves (i.update (MariadbService.open L i.toImplementation .clear).impl)
      none none 0 := open_moves L i.toImplementation .clear
  have hset : ∀ j, i.Moves j none none 0 →
      i.Moves (j.update (setOption L j.toImplementation nonblockDefault .clear).impl)
        none none 0 := fun j hj =>
    hj.then (perform_moves .mariadb L j.toImplementation .clear (.setOption nonblockDefault))
  obtain ⟨j, hj, ⟨o, -, heq⟩ | ⟨hinit, ec, hec, heq⟩⟩ :=
    initiate_cases L (I := fun j => i.Moves j none none 0) (.refl i.toImplementation none) r
      (fun _ _ => hopen) fun _ _ => hset
  · rw [heq]
    exact hj
  · rw [heq]
    exact launch_post hinit hj r hec

end MariadbService

end Amy
