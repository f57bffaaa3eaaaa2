import Amy.Async

/-!
# Waiting for the library

MariaDB's `implementation` adds the event descriptor `ev_` (the timer is always
there). `asyncWaitMysql` points the descriptor at the library's socket and
registers one wait for a suspended call: the first of read, write and timeout
that its status names. A status that names none of them registers nothing.
-/

namespace Amy

variable {M P : Type}

structure MariadbImplementation (M : Type) extends Implementation M where
  /-- `ev_->native_handle()`, `-1` when no descriptor is assigned. -/
  ev : Int

namespace MariadbImplementation

def construct (st : M) : MariadbImplementation M := { Implementation.construct st with ev := -1 }

/-- The shared fields replaced. -/
def update (i : MariadbImplementation M) (j : Implementation M) : MariadbImplementation M :=
  { i with toImplementation := j }

/-- `implementation::close()`: the descriptor is released as well. -/
def close (L : Library M) (i : MariadbImplementation M) : MariadbImplementation M :=
  { i.update (i.toImplementation.close L) with ev := -1 }

@[simp] theorem update_toImplementation (i : MariadbImplementation M) (j : Implementation M) :
    (i.update j).toImplementation = j := rfl

/-- `log` called without changing the handle, and `ev` assigned. -/
def recorded (i : MariadbImplementation M) (log : List Call) (ev : Int) :
    MariadbImplementation M :=
  { i with mysql := ⟨i.mysql.st, i.mysql.calls ++ log⟩, ev := ev }

section Fields

variable (i : MariadbImplementation M) (log log' : List Call) (ev ev' : Int)

@[simp] theorem recorded_st : (i.recorded log ev).mysql.st = i.mysql.st := rfl
@[simp] theorem recorded_calls : (i.recorded log ev).mysql.calls = i.mysql.calls ++ log := rfl
@[simp] theorem recorded_flags : (i.recorded log ev).flags = i.flags := rfl
@[simp] theorem recorded_initialized : (i.recorded log ev).initialized = i.initialized := rfl
@[simp] theorem recorded_first :
    (i.recorded log ev).firstResultStored = i.firstResultStored := rfl
@[simp] theorem recorded_last : (i.recorded log ev).lastResult = i.lastResult := rfl
@[simp] theorem recorded_token :
    (i.recorded log ev).cancelationToken = i.cancelationToken := rfl
theorem recorded_recorded :
    (i.recorded log ev).recorded log' ev' = i.recorded (log ++ log') ev' := by
  simp [recorded]
theorem recorded_nil : i.recorded [] i.ev = i := by simp [recorded]

end Fields

end MariadbImplementation

/-! ## Turns of a handler -/

/-- The event a wait is registered for. -/
inductive WaitFor where
  | read
  | write
  | timeout
  deriving DecidableEq, Repr

/-- The status bound to the wait's handler. -/
def WaitFor.status : WaitFor → UInt32
  | .read => WaitType.read
  | .write => WaitType.write
  | .timeout => WaitType.timeout

/-- How one execution of an `operator()` ends; `P` is the handler's state. -/
inductive Turn (M P : Type) where
  /-- A wait is registered that will run the handler again. -/
  | wait (i : MariadbImplementation M) (p : P) (on : WaitFor)
  /-- `async_wait_mysql` returned without registering a wait. -/
  | dropped (i : MariadbImplementation M)
  /-- The user's handler is invoked. -/
  | invoke (i : MariadbImplementation M) (o : Outcome)
  /-- `BOOST_ASSERT` fails. -/
  | assertion
  /-- The `for (;;)` did not end in the passes allowed. -/
  | spinning

def Turn.map {P Q : Type} (f : P → Q) : Turn M P → Turn M Q
  | .wait i p on => .wait i (f p) on
  | .dropped i => .dropped i
  | .invoke i o => .invoke i o
  | .assertion => .assertion
  | .spinning => .spinning

variable (L : Library M)

/-- The descriptor is pointed at the library's socket, for a status that needs it. -/
def assignSocket (status : UInt32) (i : MariadbImplementation M) : MariadbImplementation M :=
  if status &&& WaitType.readOrWrite ≠ 0 then
    let fd := L.getSocket i.mysql.st
    { i with mysql := i.mysql.read .getSocket, ev := if i.ev ≠ fd then fd else i.ev }
  else i

/-- `async_wait_mysql`. That it cancels the connector's earlier waits is part of
`MariadbService.World.step`. -/
def asyncWaitMysql (status : UInt32) (i : MariadbImplementation M) (p : P) : Turn M P :=
  let i := assignSocket L status i
  if status &&& WaitType.read ≠ 0 then .wait i p .read
  else if status &&& WaitType.write ≠ 0 then .wait i p .write
  else if status &&& WaitType.timeout ≠ 0 then
    .wait { i with mysql := i.mysql.read .getTimeoutValue } p .timeout
  else .dropped i

/-- The event waited for, of a status. -/
def WaitFor.of (status : UInt32) : Option WaitFor :=
  if status &&& WaitType.read ≠ 0 then some .read
  else if status &&& WaitType.write ≠ 0 then some .write
  else if status &&& WaitType.timeout ≠ 0 then some .timeout
  else none

/-- The connector once a wait for `status` is registered. -/
def waitingFor (status : UInt32) (i : MariadbImplementation M) : MariadbImplementation M :=
  let i := assignSocket L status i
  if WaitFor.of status = some .timeout then { i with mysql := i.mysql.read .getTimeoutValue } else i

theorem asyncWaitMysql_eq (status : UInt32) (i : MariadbImplementation M) (p : P) :
    asyncWaitMysql L status i p = match WaitFor.of status with
      | some on => .wait (waitingFor L status i) p on
      | none => .dropped (waitingFor L status i) := by
  unfold asyncWaitMysql waitingFor WaitFor.of
  split_ifs <;> simp_all

/-- Only the descriptor and the list of calls change. -/
theorem assignSocket_eq (status : UInt32) (i : MariadbImplementation M) :
    ∃ log ev, assignSocket L status i = i.recorded log ev ∧ ∀ c ∈ log, c = .getSocket := by
  unfold assignSocket
  split
  · exact ⟨[.getSocket], _, rfl, by simp⟩
  · exact ⟨[], i.ev, i.recorded_nil.symm, by simp⟩

theorem waitingFor_eq (status : UInt32) (i : MariadbImplementation M) :
    ∃ log ev, waitingFor L status i = i.recorded log ev ∧
      ∀ c ∈ log, c = .getSocket ∨ c = .getTimeoutValue := by
  obtain ⟨log, ev, h, hlog⟩ := assignSocket_eq L status i
  unfold waitingFor
  rw [h]
  split_ifs
  · refine ⟨log ++ [.getTimeoutValue], ev, ?_, fun c hc => ?_⟩
    · exact i.recorded_recorded log [.getTimeoutValue] ev ev
    rcases List.mem_append.mp hc with hc | hc
    · exact .inl (hlog c hc)
    · exact .inr (List.mem_singleton.mp hc)
  · exact ⟨log, ev, rfl, fun c hc => .inl (hlog c hc)⟩

end Amy
