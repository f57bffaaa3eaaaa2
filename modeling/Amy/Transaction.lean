import Amy.Connector
import Amy.Script
import Amy.Base.Ledger

/-!
# `basic_scoped_transaction`

A scope switches autocommit off, remembers in `committed_` whether to roll back
at its end, and switches autocommit on again in its destructor. What the scope
does to its statements on the server is a `Ledger`: with autocommit off a
statement is a pending write, and switching autocommit on makes the pending
writes durable as a commit does.

`committed_` is the code of the last `commit(ec)` read as a truth value, so a
failed `commit(ec)` keeps the destructor from rolling back and a successful one
makes it roll back; `commit()` sets it and nothing clears it again.
-/

namespace Amy

open Base

variable {M : Type}

/-- What happened in a scope, with the form of the call and whether it succeeded. -/
inductive ScopeEvent where
  | executed
  | commit (ok : Bool)
  | commitEc (ok : Bool)
  | rollback (ok : Bool)
  | rollbackEc (ok : Bool)
  deriving DecidableEq, Repr

/-- The server's side of an event. -/
def ScopeEvent.entry : ScopeEvent → Ledger.Event
  | .executed => .write
  | .commit ok | .commitEc ok => .commit ok
  | .rollback ok | .rollbackEc ok => .rollback ok

/-- A live scope: its connector, `committed_`, and the history so far. -/
structure Scope (M : Type) where
  impl : Implementation M
  committed : Bool
  events : List ScopeEvent

/-- What the caller does inside a scope. A form with an `error_code&` is given
the code that variable holds. -/
inductive ScopeOp where
  | statement (stmt : String)
  | commit
  | commitEc (ec : ErrorCode)
  | rollback
  | rollbackEc (ec : ErrorCode)
  deriving DecidableEq, Repr

namespace Scope

variable (svc : MySQLService) (L : Library M)

/-- The constructor; it throws when autocommit cannot be switched off. -/
def enter (i : Implementation M) : Except SystemError (Scope M) :=
  let t := Connector.autocommit svc L i false
  t.out.map fun _ => ⟨t.impl, false, []⟩

def statement (s : Scope M) (stmt : String) : Scope M :=
  let o := Connector.queryEc svc L s.impl stmt .clear
  { s with
    impl := o.impl
    events := if o.ec.failed then s.events else s.events ++ [.executed] }

def commit (s : Scope M) : Scope M :=
  let t := Connector.commit svc L s.impl
  match t.out with
  | .ok _ => ⟨t.impl, true, s.events ++ [.commit true]⟩
  -- the exception leaves before `committed_` is set
  | .error _ => ⟨t.impl, s.committed, s.events ++ [.commit false]⟩

def commitEc (s : Scope M) (ec : ErrorCode) : Scope M :=
  let o := Connector.commitEc svc L s.impl ec
  -- `committed_ = !!connector_.commit(ec)`
  ⟨o.impl, o.ec.failed, s.events ++ [.commitEc (!o.ec.failed)]⟩

def rollback (s : Scope M) : Scope M :=
  let t := Connector.rollback svc L s.impl
  ⟨t.impl, s.committed, s.events ++ [.rollback (match t.out with | .ok _ => true | .error _ => false)]⟩

def rollbackEc (s : Scope M) (ec : ErrorCode) : Scope M :=
  let o := Connector.rollbackEc svc L s.impl ec
  ⟨o.impl, s.committed, s.events ++ [.rollbackEc (!o.ec.failed)]⟩

def step (s : Scope M) : ScopeOp → Scope M
  | .statement stmt => s.statement svc L stmt
  | .commit => s.commit svc L
  | .commitEc ec => s.commitEc svc L ec
  | .rollback => s.rollback svc L
  | .rollbackEc ec => s.rollbackEc svc L ec

def run (s : Scope M) (ops : List ScopeOp) : Scope M := ops.foldl (step svc L) s

/-- What the destructor leaves: the connector, its calls as the server saw
them, and whether its `autocommit(true)` threw (which ends the program). -/
structure Destroyed (M : Type) where
  impl : Implementation M
  entries : List Ledger.Event
  terminated : Bool

def destruct (s : Scope M) : Destroyed M :=
  let r : Implementation M × List Ledger.Event :=
    if !s.committed then
      let o := Connector.rollbackEc svc L s.impl .clear
      (o.impl, [.rollback (!o.ec.failed)])
    else (s.impl, [])
  let t := Connector.autocommit svc L r.1 true
  match t.out with
  | .ok _ => ⟨t.impl, r.2 ++ [.commit true], false⟩
  | .error _ => ⟨t.impl, r.2 ++ [.commit false], true⟩

/-- The history of a scope as the server saw it. -/
def history (s : Scope M) : List Ledger.Event := s.events.map ScopeEvent.entry

/-- The ledger once the destructor has run. -/
def settled (s : Scope M) : Ledger := Ledger.run (s.history ++ (s.destruct svc L).entries)

/-- **Durability**: the durable statements are those executed before the last
successful commit of the scope and not rolled back before it. -/
def Durability (s : Scope M) : Prop :=
  ∀ n, n ∈ (s.settled svc L).durable ↔ Ledger.Kept s.history n

/-- The destructor's rollback is skipped: the last of the successful `commit()`
calls and of the `commit(ec)` calls is a successful `commit()` or a failed `commit(ec)`. -/
def SkipsRollback (evs : List ScopeEvent) : Prop :=
  ∃ before e after, evs = before ++ e :: after ∧ (e = .commit true ∨ e = .commitEc false) ∧
    ∀ d ∈ after, d ≠ .commit true ∧ ∀ ok, d ≠ .commitEc ok

/-! ## Native outcomes -/

def RollbackFails (st : M) : Prop := (L.rollback st).1 = true

def AutocommitFails (st : M) : Prop := (L.autocommit true st).1 = true

/-- The destructor makes what is still pending durable: it does not roll back
(or fails to), and its switch back to autocommit succeeds. -/
def FlushesPending (s : Scope M) : Prop :=
  (SkipsRollback s.events ∧ ¬ AutocommitFails L s.impl.mysql.st) ∨
  (¬ SkipsRollback s.events ∧ RollbackFails L s.impl.mysql.st ∧
    ¬ AutocommitFails L (L.rollback s.impl.mysql.st).2)

/-! ## What the calls of a scope do to an open connector -/

section Step

variable {svc L} {s : Scope M}

theorem commit_open (h : s.impl.initialized = true) :
    s.commit svc L = ⟨{ s.impl with mysql := s.impl.mysql.call .commit (L.commit s.impl.mysql.st).2 },
      !(L.commit s.impl.mysql.st).1 || s.committed,
      s.events ++ [.commit (!(L.commit s.impl.mysql.st).1)]⟩ := by
  unfold commit
  rw [Connector.commit_open h]
  cases (L.commit s.impl.mysql.st).1 <;> rfl

theorem commitEc_open (h : s.impl.initialized = true) (ec : ErrorCode) :
    s.commitEc svc L ec =
      ⟨{ s.impl with mysql := s.impl.mysql.call .commit (L.commit s.impl.mysql.st).2 },
        (L.commit s.impl.mysql.st).1, s.events ++ [.commitEc (!(L.commit s.impl.mysql.st).1)]⟩ := by
  unfold commitEc
  rw [Connector.commitEc_eq, Service.commit_open h]
  cases hf : (L.commit s.impl.mysql.st).1 <;> simp

theorem step_initialized (h : s.impl.initialized = true) (op : ScopeOp) :
    (s.step svc L op).impl.initialized = true := by
  cases op with
  | statement stmt => simp [step, statement, Service.query_open h, h]
  | commit => simp [step, commit_open h, h]
  | commitEc ec => simp [step, commitEc_open h, h]
  | rollback => simp [step, rollback, Connector.rollback_open h, h]
  | rollbackEc ec => simp [step, rollbackEc, Service.rollback_open h, h]

theorem run_initialized (h : s.impl.initialized = true) (ops : List ScopeOp) :
    (s.run svc L ops).impl.initialized = true := by
  induction ops generalizing s with
  | nil => exact h
  | cons op ops ih => exact ih (step_initialized h op)

theorem skipsRollback_snoc (evs : List ScopeEvent) (e : ScopeEvent) :
    SkipsRollback (evs ++ [e]) ↔ (e = .commit true ∨ e = .commitEc false) ∨
      ((e ≠ .commit true ∧ ∀ ok, e ≠ .commitEc ok) ∧ SkipsRollback evs) := by
  constructor
  · rintro ⟨before, d, after, heq, hd, hafter⟩
    rcases List.eq_nil_or_concat after with rfl | ⟨after, x, rfl⟩
    · obtain ⟨-, rfl⟩ := List.append_inj' heq rfl |>.imp id (fun h => by simpa using h)
      exact .inl hd
    · rw [List.concat_eq_append, ← List.cons_append, ← List.append_assoc] at heq
      obtain ⟨rfl, hx⟩ := List.append_inj' heq rfl
      obtain rfl : e = x := by simpa using hx
      exact .inr ⟨hafter e (by simp), before, d, after, rfl, hd, fun c hc => hafter c (by simp [hc])⟩
  · rintro (he | ⟨he, before, d, after, rfl, hd, hafter⟩)
    · exact ⟨evs, e, [], rfl, he, by simp⟩
    · refine ⟨before, d, after ++ [e], by simp, hd, fun c hc => ?_⟩
      rcases List.mem_append.mp hc with hc | hc
      · exact hafter c hc
      · rw [List.mem_singleton.mp hc]; exact he

/-- `committed_` says whether the destructor will skip its rollback. -/
def FlagRight (s : Scope M) : Prop := s.committed = true ↔ SkipsRollback s.events

theorem step_flagRight (hopen : s.impl.initialized = true) (h : s.FlagRight) (op : ScopeOp) :
    (s.step svc L op).FlagRight := by
  unfold FlagRight at h ⊢
  cases op with
  | statement stmt =>
    simp only [step, statement]
    split
    · exact h
    · simp [skipsRollback_snoc, h]
  | commit =>
    simp only [step, commit_open hopen, skipsRollback_snoc]
    cases (L.commit s.impl.mysql.st).1 <;> simp [h]
  | commitEc ec =>
    simp only [step, commitEc_open hopen, skipsRollback_snoc]
    cases (L.commit s.impl.mysql.st).1 <;> simp
  | rollback => simp [step, rollback, skipsRollback_snoc, h]
  | rollbackEc ec => simp [step, rollbackEc, skipsRollback_snoc, h]

theorem run_flagRight (hopen : s.impl.initialized = true) (h : s.FlagRight) (ops : List ScopeOp) :
    (s.run svc L ops).FlagRight := by
  induction ops generalizing s with
  | nil => exact h
  | cons op ops ih => exact ih (step_initialized hopen op) (step_flagRight hopen h op)

theorem enter_ok {i : Implementation M} (hopen : i.initialized = true)
    (h : enter svc L i = .ok s) : s.impl.initialized = true ∧ s.FlagRight := by
  simp only [enter, Connector.autocommit_eq] at h
  cases hf : (L.autocommit false i.mysql.st).1
  · rw [hf] at h
    cases h
    exact ⟨hopen, by simp [FlagRight, SkipsRollback]⟩
  · rw [hf] at h
    cases h

theorem destruct_entries (h : s.impl.initialized = true) :
    (s.destruct svc L).entries =
      if s.committed then [.commit (!(L.autocommit true s.impl.mysql.st).1)]
      else [.rollback (!(L.rollback s.impl.mysql.st).1),
        .commit (!(L.autocommit true (L.rollback s.impl.mysql.st).2).1)] := by
  simp only [destruct, Connector.rollbackEc_eq, Service.rollback_open h, Connector.autocommit_eq]
  cases s.committed
  · cases (L.rollback s.impl.mysql.st).1 <;>
      cases ha : (L.autocommit true (L.rollback s.impl.mysql.st).2).1 <;> simp [ha]
  · cases ha : (L.autocommit true s.impl.mysql.st).1 <;> simp [ha]

/-- What the destructor leaves durable. -/
theorem mem_settled (hopen : s.impl.initialized = true) (hflag : s.FlagRight) (n : Nat) :
    n ∈ (s.settled svc L).durable ↔
      Ledger.Kept s.history n ∨ (s.FlushesPending L ∧ Ledger.Leftover s.history n) := by
  rw [← Ledger.mem_durable, ← Ledger.mem_pending]
  unfold settled FlushesPending RollbackFails AutocommitFails
  unfold FlagRight at hflag
  rw [destruct_entries hopen, ← hflag]
  cases hc : s.committed
  · cases hr : (L.rollback s.impl.mysql.st).1 <;>
      cases ha : (L.autocommit true (L.rollback s.impl.mysql.st).2).1 <;>
      simp [Ledger.run_two, Ledger.step]
  · cases ha : (L.autocommit true s.impl.mysql.st).1 <;> simp [Ledger.step]

/-- **When a scope is durable.** Exactly the kept statements survive the
destructor if and only if it finds nothing pending to make durable. -/
theorem durability_iff {i : Implementation M} (hopen : i.initialized = true)
    (henter : enter svc L i = .ok s) (ops : List ScopeOp) :
    (s.run svc L ops).Durability svc L ↔
      ((s.run svc L ops).FlushesPending L →
        ∀ n, ¬ Ledger.Leftover (s.run svc L ops).history n) := by
  obtain ⟨hi, hf⟩ := enter_ok hopen henter
  have hmem : ∀ n, n ∈ ((s.run svc L ops).settled svc L).durable ↔ _ := fun n =>
    mem_settled (run_initialized hi ops) (run_flagRight hi hf ops) n
  constructor
  · intro hd hflush n hl
    exact hl.not_kept ((hd n).mp ((hmem n).mpr (.inr ⟨hflush, hl⟩)))
  · intro h n
    rw [hmem]
    constructor
    · rintro (hk | ⟨hflush, hl⟩)
      · exact hk
      · exact absurd hl (h hflush n)
    · exact .inl

end Step

/-! ## A scope on the scripted library -/

/-- The scope entered on a connector whose later calls fail as listed. -/
def entered (failures : List Bool) : Scope Script where
  impl := { Script.opened {} defaultFlags with
    mysql := ⟨{ failures := failures }, [.autocommit false]⟩ }
  committed := false
  events := []

theorem durability_iff_committed :
    enter .mysql Script.library (Script.opened {} defaultFlags) = .ok (entered []) ∧
    (((entered []).run .mysql Script.library [.statement "insert", .commit]).Durability .mysql
        Script.library ↔
      (((entered []).run .mysql Script.library [.statement "insert", .commit]).FlushesPending
          Script.library →
        ∀ n, ¬ Ledger.Leftover
          ((entered []).run .mysql Script.library [.statement "insert", .commit]).history n)) :=
  ⟨rfl, durability_iff (i := Script.opened {} defaultFlags) rfl rfl _⟩

/-- A statement whose only commit failed is durable all the same: `commit(ec)`
took the failure for a commitment, and `autocommit(true)` flushed the statement. -/
theorem commitEc_failed_durable :
    enter .mysql Script.library (Script.opened { failures := [false, true] } defaultFlags) =
      .ok (entered [true]) ∧
    ¬ ((entered [true]).run .mysql Script.library
        [.statement "insert", .commitEc .clear]).Durability .mysql Script.library := by
  refine ⟨rfl, fun hd => ?_⟩
  obtain ⟨-, j, ⟨hc, -⟩, -⟩ := (hd 0).mp (by decide)
  have hh : ((entered [true]).run .mysql Script.library
      [.statement "insert", .commitEc .clear]).history = [.write, .commit false] := by decide
  rw [Ledger.CommittedAt, hh] at hc
  rcases j with _ | _ | j
  · cases hc
  · cases hc
  · cases hc

end Scope

end Amy
