import Amy.Transaction

/-!
# Scopes inside scopes

The autocommit mode belongs to the session, so every scope on a connector has
the same one: a constructor switches it off and a destructor switches it on,
whatever it found. `Scopes` is a connector with the scopes that are alive on it,
innermost first, and the server's ledger; `Nest` is what may happen between a
scope's constructor and its destructor, whole inner scopes included.

The library's part is `Library.Modal`: `mode` tells the mode a handle's session
is in.
-/

namespace Amy

open Base

variable {M : Type}

/-- `mysql_autocommit` sets the session's mode, where it succeeds. -/
structure Library.Modal (L : Library M) (mode : M → Bool) : Prop where
  autocommit : ∀ b m, (L.autocommit b m).1 = false → mode (L.autocommit b m).2 = b

/-- A scope that is alive. -/
structure Alive where
  committed : Bool
  events : List ScopeEvent
  deriving DecidableEq, Repr

def Alive.scope (f : Alive) (i : Implementation M) : Scope M := ⟨i, f.committed, f.events⟩

structure Scopes (M : Type) where
  impl : Implementation M
  /-- The scopes alive, innermost first. -/
  scopes : List Alive
  ledger : Ledger

namespace Scopes

variable (svc : MySQLService) (L : Library M) (mode : M → Bool)

/-- What the server makes of an event: with autocommit on, a statement is committed at once. -/
def entries (on : Bool) (e : ScopeEvent) : List Ledger.Event :=
  if on && e = .executed then [.write, .commit true] else [e.entry]

/-- The ledger once a statement that does not fail is executed through some scope. -/
def executed (w : Scopes M) : Ledger :=
  (entries (mode w.impl.mysql.st) .executed).foldl Ledger.step w.ledger

/-- The constructor of a scope; it throws if autocommit cannot be switched off. -/
def enter (w : Scopes M) : Option (Scopes M) :=
  match Scope.enter svc L w.impl with
  | .ok s => some { w with impl := s.impl, scopes := ⟨s.committed, s.events⟩ :: w.scopes }
  | .error _ => none

def act (w : Scopes M) (k : Nat) (op : ScopeOp) : Option (Scopes M) :=
  (w.scopes[k]?).map fun f =>
    let s := (f.scope w.impl).step svc L op
    { impl := s.impl
      scopes := w.scopes.set k ⟨s.committed, s.events⟩
      ledger := ((s.events.drop f.events.length).flatMap
        (entries (mode w.impl.mysql.st))).foldl Ledger.step w.ledger }

/-- The destructor of the innermost scope; the program ends if autocommit cannot be
switched on. -/
def leave (w : Scopes M) : Option (Scopes M) :=
  match w.scopes with
  | [] => none
  | f :: fs =>
    let d := (f.scope w.impl).destruct svc L
    if d.terminated then none
    else some ⟨d.impl, fs, d.entries.foldl Ledger.step w.ledger⟩

/-- What happens between a constructor and its destructor: calls, and whole scopes. -/
inductive Nest : Scopes M → Scopes M → Prop where
  | done (w : Scopes M) : Nest w w
  | act {w w₁ w' : Scopes M} (k : Nat) (op : ScopeOp) : w.act svc L mode k op = some w₁ →
      Nest w₁ w' → Nest w w'
  | scope {w w₁ w₂ w₃ w' : Scopes M} : w.enter svc L = some w₁ → Nest w₁ w₂ →
      w₂.leave svc L = some w₃ → Nest w₃ w' → Nest w w'

/-- The scope constructed on `w` and destroyed at `w'` restores the mode it found, and
a statement that an outer scope then executes is pending. -/
def Restores (w w' : Scopes M) : Prop :=
  mode w'.impl.mysql.st = mode w.impl.mysql.st ∧
    (w'.scopes ≠ [] → w'.ledger.clock ∈ (w'.executed mode).pending)

variable {svc L mode} {w w₁ w₂ w₃ w' : Scopes M}

theorem enter_scopes (h : w.enter svc L = some w₁) : ∃ f, w₁.scopes = f :: w.scopes := by
  unfold enter at h
  split at h
  · cases h
    exact ⟨_, rfl⟩
  · cases h

theorem act_scopes {k : Nat} {op : ScopeOp} (h : w.act svc L mode k op = some w₁) :
    w₁.scopes.length = w.scopes.length := by
  obtain ⟨f, -, rfl⟩ := Option.map_eq_some_iff.mp h
  simp

theorem leave_scopes (h : w.leave svc L = some w₁) : ∃ f, w.scopes = f :: w₁.scopes := by
  unfold leave at h
  split at h
  · cases h
  · rename_i f fs hs
    dsimp only at h
    split_ifs at h
    cases h
    exact ⟨f, hs⟩

/-- **Whatever happens in a scope, it is the innermost one again afterwards.** -/
theorem Nest.depth (h : Nest svc L mode w w') : w'.scopes.length = w.scopes.length := by
  induction h with
  | done w => rfl
  | act k op hact _ ih => rw [ih, act_scopes hact]
  | scope henter _ hleave _ ihin ihout =>
    obtain ⟨f, hf⟩ := enter_scopes henter
    obtain ⟨g, hg⟩ := leave_scopes hleave
    rw [hf, hg, List.length_cons, List.length_cons] at ihin
    omega

/-- A destructor that does not end the program leaves autocommit on. -/
theorem destruct_mode (hM : L.Modal mode) {s : Scope M}
    (h : (s.destruct svc L).terminated = false) :
    mode (s.destruct svc L).impl.mysql.st = true := by
  simp only [Scope.destruct, Connector.autocommit_eq] at h ⊢
  generalize (if !s.committed then _ else (s.impl, [])) = r at h ⊢
  cases hf : (L.autocommit true r.1.mysql.st).1
  · simpa [hf] using hM.autocommit true _ hf
  · simp [hf] at h

theorem leave_mode (hM : L.Modal mode) (h : w.leave svc L = some w') :
    mode w'.impl.mysql.st = true := by
  unfold leave at h
  split at h
  · cases h
  · rename_i f fs hs
    dsimp only at h
    split_ifs at h with hterm
    cases h
    exact destruct_mode hM (by simpa using hterm)

theorem executed_on (hon : mode w.impl.mysql.st = true) :
    w.ledger.clock ∈ (w.executed mode).durable ∧ w.ledger.clock ∉ (w.executed mode).pending := by
  simp [executed, entries, hon, Ledger.step]

theorem scope_depth (henter : w.enter svc L = some w₁) (hin : Nest svc L mode w₁ w₂)
    (hleave : w₂.leave svc L = some w') : w'.scopes.length = w.scopes.length := by
  obtain ⟨f, hf⟩ := enter_scopes henter
  obtain ⟨g, hg⟩ := leave_scopes hleave
  have hdepth := hin.depth
  rw [hf, hg, List.length_cons, List.length_cons] at hdepth
  omega

/-- **A scope leaves autocommit on**, whatever it found and whatever happened in it, and
with it every statement of an outer scope is durable at once. So it restores the mode it
found, and an outer scope's statements stay pending, exactly if autocommit was on and
there is no outer scope. -/
theorem scope_leaves_on (svc : MySQLService) (L : Library M) (mode : M → Bool)
    (hM : L.Modal mode) (w w₁ w₂ w' : Scopes M) (henter : w.enter svc L = some w₁)
    (hin : Nest svc L mode w₁ w₂) (hleave : w₂.leave svc L = some w') :
    mode w'.impl.mysql.st = true ∧ w'.ledger.clock ∈ (w'.executed mode).durable ∧
      (Restores mode w w' ↔ mode w.impl.mysql.st = true ∧ w.scopes = []) := by
  have hon := leave_mode hM hleave
  have hdepth := scope_depth henter hin hleave
  refine ⟨hon, (executed_on hon).1, ?_⟩
  unfold Restores
  rw [hon]
  constructor
  · rintro ⟨hmode, hpending⟩
    refine ⟨hmode.symm, ?_⟩
    by_contra hne
    refine (executed_on hon).2 (hpending fun hnil => hne ?_)
    exact List.length_eq_zero_iff.mp (by rw [← hdepth, hnil]; rfl)
  · rintro ⟨hmode, hnil⟩
    refine ⟨hmode.symm, fun hne => absurd ?_ hne⟩
    exact List.length_eq_zero_iff.mp (by rw [hdepth, hnil]; rfl)

/-! ## Scopes on a session that keeps its mode -/

/-- The scripted library, with the mode of its session beside. -/
def modal : Library (Script × Bool) :=
  { Script.library.beside Bool with
    autocommit := fun b m =>
      let r := Script.outcome m.1
      (r.1, r.2, if r.1 then m.2 else b) }

theorem modal_modal : modal.Modal Prod.snd where
  autocommit b m h := by
    simp only [modal] at h ⊢
    simp [h]

/-- A connector without a scope, autocommit on. -/
def unscoped : Scopes (Script × Bool) where
  impl := { Implementation.construct ({}, true) with initialized := true, flags := defaultFlags }
  scopes := []
  ledger := .empty

theorem scope_leaves_on_outermost :
    ∃ w₁ w₂ w', unscoped.enter .mysql modal = some w₁ ∧ Nest .mysql modal Prod.snd w₁ w₂ ∧
      w₂.leave .mysql modal = some w' ∧ Prod.snd w'.impl.mysql.st = true ∧
      w'.ledger.clock ∈ (w'.executed Prod.snd).durable ∧
      (Restores Prod.snd unscoped w' ↔
        Prod.snd unscoped.impl.mysql.st = true ∧ unscoped.scopes = []) :=
  have hin := .act 0 (.statement "insert") rfl
    (.scope rfl (.done _) rfl (.act 0 .commit rfl (.done _)))
  ⟨_, _, _, rfl, hin, rfl,
    scope_leaves_on .mysql modal Prod.snd modal_modal unscoped _ _ _ rfl hin rfl⟩

/-- An empty inner scope: the outer scope's next statement is not pending but durable. -/
theorem inner_scope_ends_outer :
    ∃ w w₁ w', unscoped.enter .mysql modal = some w ∧ w.enter .mysql modal = some w₁ ∧
      Nest .mysql modal Prod.snd w₁ w₁ ∧ w₁.leave .mysql modal = some w' ∧
      Prod.snd w.impl.mysql.st = false ∧ Prod.snd w'.impl.mysql.st = true ∧
      w'.ledger.clock ∈ (w'.executed Prod.snd).durable ∧ ¬ Restores Prod.snd w w' :=
  ⟨_, _, _, rfl, rfl, .done _, rfl, rfl, rfl, by decide, fun h => by cases h.1⟩

end Scopes

end Amy
