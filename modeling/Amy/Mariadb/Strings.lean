import Amy.Mariadb.Reentry
import Amy.Base.Loans

/-!
# The strings that a suspended call was given

A `_start` is given pointers to strings, and the library may read them until the
call is done. The user, the password, the database and the statement live in the
handler's state, which is freed when the user's handler is about to be invoked or
the operation is dropped. The host and the socket's path live in the
`endpoint_traits` of `case 0`, a block that is left before the operation waits.

`strings_lent` is what follows for each resumption: the former are there and the
latter are not, so that a connect that is suspended goes on with a destroyed host
unless its endpoint names none.
-/

namespace Amy

open Base

namespace MariadbService

variable {M : Type}

/-! ## What is lent -/

inductive StringArg where
  | host
  | user
  | password
  | database
  | unixSocket
  | stmt
  deriving DecidableEq, Repr

def strings : NbCall → List StringArg
  | .realConnect a => (a.host.map fun _ => StringArg.host).toList ++ [.user] ++
      (a.password.map fun _ => StringArg.password).toList ++ [.database] ++
      (a.unixSocket.map fun _ => StringArg.unixSocket).toList
  | .realQuery _ => [.stmt]
  | .storeResult | .nextResult => []

inductive Block where
  /-- The state of operation `id`'s handler. -/
  | state (id : Nat)
  /-- The `endpoint_traits` in its `operator()`. -/
  | traits (id : Nat)
  deriving DecidableEq, Repr

/-- A string of operation `id`. -/
structure StringPtr where
  arg : StringArg
  id : Nat
  deriving DecidableEq, Repr

/-- It is a member of the handler's state. -/
def StringPtr.inState (p : StringPtr) : Bool := p.arg != .host && p.arg != .unixSocket

def StringPtr.home (p : StringPtr) : Block := if p.inState then .state p.id else .traits p.id

/-- What operation `id` lends to call `c`. -/
def lends (id : Nat) (c : NbCall) : List StringPtr := (strings c).map (⟨·, id⟩)

/-- What a call of operation `id` does to what is lent. -/
def callLoans (id : Nat) : Call → List (Loan Block StringPtr)
  -- `case 0 { endpoint_traits traits; mysql_real_connect_start(..); }`
  | .start (.realConnect a) _ =>
    [.alloc (.traits id), .lend (lends id (.realConnect a)), .free (.traits id)]
  | .start c _ => [.lend (lends id c)]
  | .cont .. => [.use]
  | _ => []

/-- The calls made from connector `i` on to connector `j`. -/
def madeSince (i j : MariadbImplementation M) : List Call :=
  j.mysql.calls.drop i.mysql.calls.length

/-- A turn of operation `id`, whose state is freed unless it waits. -/
def turnLoans (id : Nat) (i : MariadbImplementation M) :
    Turn M Handler → List (Loan Block StringPtr)
  | .wait j _ _ => (madeSince i j).flatMap (callLoans id)
  | .dropped j | .invoke j _ => (madeSince i j).flatMap (callLoans id) ++ [.free (.state id)]
  | .assertion | .spinning => []

variable (L : Library M)

def actionLoans (w : World M) : Action → List (Loan Block StringPtr)
  | .initiate r => match initiate L w.impl r with
    | .posted _ _ => []
    | .ran t => .alloc (.state w.next) :: turnLoans w.next w.impl t
  | .fire k ec => match w.waits[k]? with
    | none => []
    | some x => turnLoans x.id w.impl (x.handler.call L w.impl ec x.on.status)
  | .deliver | .cancel | .close | .call _ _ => []

/-- A connector with its waits, and the strings of its operations. -/
structure LendingWorld (M : Type) where
  world : World M
  loans : Loans Block StringPtr

namespace LendingWorld

def start (i : MariadbImplementation M) : LendingWorld M := ⟨.start i, .start⟩

def step (s : LendingWorld M) (a : Action) : Option (LendingWorld M) :=
  (s.world.step L a).map fun w => ⟨w, s.loans.run StringPtr.home (actionLoans L s.world a)⟩

def Unbroken (s : LendingWorld M) (a : Action) : Prop := s.world.Unbroken a

instance (s : LendingWorld M) (a : Action) : Decidable (s.Unbroken a) :=
  inferInstanceAs (Decidable (s.world.Unbroken a))

end LendingWorld

variable {L} {id : Nat} {l : Loans Block StringPtr} {s s' : Option NbCall}

/-! ## What a turn lends -/

theorem home_inState {p : StringPtr} {c : NbCall} (hp : p ∈ lends id c) :
    p.home = .state id ↔ p.inState = true := by
  obtain ⟨arg, -, rfl⟩ := List.mem_map.mp hp
  unfold StringPtr.home
  split_ifs with h <;> simp [h]

/-- Operation `id` is the only one, its state is there and call `s` was given its
strings, as all that was used before was given by its own operation. -/
structure OnLoan (id : Nat) (s : Option NbCall) (l : Loans Block StringPtr) : Prop where
  alive : l.alive = [.state id]
  lent : ∀ c, s = some c → l.lent = lends id c
  uses : l.Uses StringPtr.inState

theorem callLoans_unheard {c : Call} (h : c.heard? = none) (id : Nat) : callLoans id c = [] := by
  cases c <;> first | rfl | cases h

/-- A call that is neither a start nor a continuation leaves what is suspended, or
finds or leaves nothing suspended. -/
theorem Talk.step_other {c : Call} (h : c.heard? = none) (hs : Talk.step s c = some s') :
    s' = s ∨ s' = none := by
  cases c with
  | start c a => cases h
  | cont c status a => cases h
  | init => exact .inr (Option.some_inj.mp hs).symm
  | options | fieldCount | moreResults | affectedRows | errno | error | freeResult | getSocket
  | getTimeoutValue => exact .inl (Option.some_inj.mp hs).symm
  | close | realConnect | realQuery | storeResult | nextResult | autocommit | commit | rollback =>
    simp only [Talk.step] at hs
    split_ifs at hs
    exact .inr (Option.some_inj.mp hs).symm

theorem Talk.step_start {c : NbCall} {a : Heard} (hs : Talk.step s (.start c a) = some s') :
    s = none ∧ ∀ d, s' = some d → c = d := by
  simp only [Talk.step] at hs
  by_cases hnone : s = none
  · rw [if_pos hnone] at hs
    refine ⟨hnone, fun d hd => ?_⟩
    rw [← Option.some_inj.mp hs] at hd
    exact (Option.ite_none_left_eq_some.mp hd).2 |> Option.some_inj.mp
  · rw [if_neg hnone] at hs
    cases hs

theorem Talk.step_cont {c : NbCall} {status : UInt32} {a : Heard}
    (hs : Talk.step s (.cont c status a) = some s') : s = some c ∧ ∀ d, s' = some d → c = d := by
  simp only [Talk.step] at hs
  by_cases hsome : s = some c
  · rw [if_pos hsome] at hs
    refine ⟨hsome, fun d hd => ?_⟩
    rw [← Option.some_inj.mp hs] at hd
    exact (Option.ite_none_left_eq_some.mp hd).2 |> Option.some_inj.mp
  · rw [if_neg hsome] at hs
    cases hs

theorem callLoans_start (halive : l.alive = [.state id]) (c : NbCall) (a : Heard) :
    l.run StringPtr.home (callLoans id (.start c a)) = { l with lent := lends id c } := by
  cases c with
  | realConnect r => simp [callLoans, Loans.step, halive]
  | _ => rfl

theorem OnLoan.call (h : OnLoan id s l) {c : Call} (hs : Talk.step s c = some s') :
    OnLoan id s' (l.run StringPtr.home (callLoans id c)) := by
  obtain ⟨halive, hlent, huses⟩ := h
  cases hc : c.heard? with
  | none =>
    rw [callLoans_unheard hc]
    refine ⟨halive, fun d hd => ?_, huses⟩
    rcases Talk.step_other hc hs with rfl | rfl
    · exact hlent d hd
    · cases hd
  | some a =>
    cases c with
    | start c a =>
      obtain ⟨-, hc'⟩ := Talk.step_start hs
      rw [callLoans_start halive]
      exact ⟨halive, fun d hd => hc' d hd ▸ rfl, huses⟩
    | cont c status a =>
      obtain ⟨hsome, hc'⟩ := Talk.step_cont hs
      refine ⟨halive, fun d hd => hc' d hd ▸ hlent c hsome, huses.use fun p hp => ?_⟩
      rw [hlent c hsome] at hp
      rw [halive, List.mem_singleton, home_inState hp]
    | _ => cases hc

theorem OnLoan.calls (h : OnLoan id s l) {log : List Call} (hs : exec Talk.step s log = some s') :
    OnLoan id s' (l.run StringPtr.home (log.flatMap (callLoans id))) := by
  induction log generalizing s l with
  | nil =>
    obtain rfl := Option.some_inj.mp hs
    exact h
  | cons c log ih =>
    obtain ⟨t, ht, hs⟩ := Option.bind_eq_some_iff.mp hs
    rw [List.flatMap_cons, Loans.run_append]
    exact ih (h.call ht) hs

theorem madeSince_moves {i j : MariadbImplementation M} {n : Nat} (hm : i.Moves j s s' n)
    (hcalm : ∀ c ∈ j.mysql.calls, c.calm = true) :
    exec Talk.step s (madeSince i j) = some s' := by
  obtain ⟨-, -, log, hlog, -, hrun⟩ := hm
  have hmade : madeSince i j = log := by simp [madeSince, hlog]
  rw [hmade]
  exact hrun fun c hc => hcalm c (by simp [hlog, hc])

/-! ## Every resumption -/

section Runs

variable {w : World M} {t : Turn M Handler} {k : Nat}

/-- The states that are there are those of the waits, and the call that is suspended
was given its operation's strings. -/
def LendingWorld.Held (s : LendingWorld M) : Prop :=
  (∀ c ∈ s.world.impl.mysql.calls, c.calm = true) →
    s.loans.alive = s.world.waits.map (fun x => .state x.id) ∧
      s.loans.Uses StringPtr.inState ∧
      ∀ x ∈ s.world.waits, ∃ c, x.handler.Rests x.handler.token c ∧
        exec Talk.step none s.world.impl.mysql.calls = some (some c) ∧ s.loans.lent = lends x.id c

theorem calm_before {i j : MariadbImplementation M} {n : Nat} (hm : i.Moves j s s' n)
    (hcalm : ∀ c ∈ j.mysql.calls, c.calm = true) : ∀ c ∈ i.mysql.calls, c.calm = true := by
  obtain ⟨-, -, log, hlog, -⟩ := hm
  exact fun c hc => hcalm c (by simp [hlog, hc])

theorem calm_before_turn {rests : Handler → NbCall → Prop} (hpost : t.Post rests w.impl s)
    (hcalm : ∀ c ∈ (w.settle id t).impl.mysql.calls, c.calm = true) :
    ∀ c ∈ w.impl.mysql.calls, c.calm = true := by
  cases t with
  | wait j h on =>
    obtain ⟨c, -, hm⟩ := hpost
    exact calm_before hm hcalm
  | dropped j =>
    obtain ⟨c, hm⟩ := hpost
    exact calm_before hm hcalm
  | invoke j o => exact calm_before hpost hcalm
  | assertion => exact hpost.elim
  | spinning => exact hpost.elim

theorem turn_held (hw : w.waits = []) (hs : w.Suspended s)
    (hpost : t.Post (Handler.Rests k) w.impl s) (hl : OnLoan id s l) :
    LendingWorld.Held ⟨w.settle id t, l.run StringPtr.home (turnLoans id w.impl t)⟩ := by
  -- where the operation ends its state is freed
  have hfreed : ∀ {j : MariadbImplementation M} {s' : Option NbCall} {n : Nat},
      w.impl.Moves j s s' n → (∀ c ∈ j.mysql.calls, c.calm = true) →
      (l.run StringPtr.home ((madeSince w.impl j).flatMap (callLoans id) ++
          [.free (.state id)])).alive = [] ∧
        (l.run StringPtr.home ((madeSince w.impl j).flatMap (callLoans id) ++
          [.free (.state id)])).Uses StringPtr.inState := by
    intro j s' n hm hcalm
    have hend := hl.calls (madeSince_moves hm hcalm)
    rw [Loans.run_append]
    exact ⟨by simp [Loans.step, hend.alive], hend.uses⟩
  intro hcalm
  cases t with
  | wait j h on =>
    obtain ⟨c, hc, hm⟩ := hpost
    have hend := hl.calls (madeSince_moves hm hcalm)
    refine ⟨by simpa [World.settle, turnLoans, hw] using hend.alive, hend.uses, fun x hx => ?_⟩
    simp only [World.settle, hw, List.nil_append, List.mem_singleton] at hx
    subst hx
    exact ⟨c, hc.token ▸ hc, hs.moves hm hcalm, hend.lent c rfl⟩
  | dropped j =>
    obtain ⟨c, hm⟩ := hpost
    obtain ⟨halive, huses⟩ := hfreed hm hcalm
    exact ⟨by simpa [World.settle, turnLoans, hw] using halive, huses, by simp [World.settle, hw]⟩
  | invoke j o =>
    obtain ⟨halive, huses⟩ := hfreed hpost hcalm
    exact ⟨by simpa [World.settle, turnLoans, hw] using halive, huses, by simp [World.settle, hw]⟩
  | assertion => exact hpost.elim
  | spinning => exact hpost.elim

theorem idle_held {i : MariadbImplementation M} (h : LendingWorld.Held ⟨w, l⟩) (hw : w.waits = [])
    (hcalm : (∀ c ∈ i.mysql.calls, c.calm = true) → ∀ c ∈ w.impl.mysql.calls, c.calm = true)
    {w' : World M} (himpl : w'.impl = i) (hwaits : w'.waits = []) :
    LendingWorld.Held ⟨w', l⟩ := by
  intro hc
  obtain ⟨halive, huses, -⟩ := h (hcalm (himpl ▸ hc))
  rw [hw] at halive
  exact ⟨by simpa [hwaits] using halive, huses, by simp [hwaits]⟩

/-- Of the waits only one was there if none is left without it. -/
theorem waits_only {x : Wait} (hx : w.waits[k]? = some x) (hw : w.waits.eraseIdx k = []) :
    w.waits = [x] := by
  obtain ⟨hk, hget⟩ := List.getElem?_eq_some_iff.mp hx
  have hlen : w.waits.length = 1 := by
    have := List.length_eraseIdx_of_lt hk
    rw [hw, List.length_nil] at this
    omega
  obtain ⟨y, hy⟩ := List.length_eq_one_iff.mp hlen
  simp only [hy, List.getElem_singleton] at hget
  rw [hy, hget]

/-- A new operation's state is there before its first turn. -/
theorem held_initiate (h : LendingWorld.Held ⟨w, l⟩) (ho : w.Orderly) {r : Request}
    (hok : w.Unbroken (.initiate r)) : LendingWorld.Held
      ⟨World.initiate L w r, l.run StringPtr.home (actionLoans L w (.initiate r))⟩ := by
  obtain ⟨hw, -, hs⟩ := ho.idle hok.1
  have hp := initiate_post L w.impl r
  cases hi : MariadbService.initiate L w.impl r with
  | posted j o =>
    rw [hi] at hp
    simp only [World.initiate, actionLoans, hi, Loans.run_nil]
    exact idle_held h hw (calm_before hp) rfl hw
  | ran t =>
    rw [hi] at hp
    obtain ⟨j, -, hm, hp⟩ := hp
    have hpost := Turn.Post.of_moves hm hp
    simp only [World.initiate, actionLoans, hi, Loans.run_cons]
    intro hcalm
    obtain ⟨halive, huses, -⟩ :=
      h (calm_before_turn (w := { w with next := w.next + 1 }) hpost hcalm)
    have hl : OnLoan w.next none (l.step StringPtr.home (.alloc (.state w.next))) :=
      ⟨by simpa [Loans.step, hw] using halive, nofun, huses⟩
    exact turn_held (w := { w with next := w.next + 1 }) hw hs hpost hl hcalm

/-- The only wait of a connector lends what its operation's call was given. -/
theorem LendingWorld.Held.onLoan {x : Wait} {c : NbCall} (h : LendingWorld.Held ⟨w, l⟩)
    (hw : w.waits = [x]) (hs : exec Talk.step none w.impl.mysql.calls = some (some c))
    (hcalm : ∀ c ∈ w.impl.mysql.calls, c.calm = true) : OnLoan x.id (some c) l := by
  obtain ⟨halive, huses, hrest⟩ := h hcalm
  obtain ⟨d, -, hd, hlent⟩ := hrest x (by simp [hw])
  have hcd : c = d := Option.some_inj.mp (Option.some_inj.mp (hs.symm.trans hd))
  refine ⟨by simpa [hw] using halive, fun e he => ?_, huses⟩
  rw [← Option.some_inj.mp he, hcd]
  exact hlent

/-- The call that is resumed is the one that the wait's operation lent its strings to. -/
theorem held_fire {w' : World M} (h : LendingWorld.Held ⟨w, l⟩) (ho : w.Orderly) {ec : ErrorCode}
    (hok : w.Unbroken (.fire k ec)) (hstep : w.step L (.fire k ec) = some w') :
    LendingWorld.Held ⟨w', l.run StringPtr.home (actionLoans L w (.fire k ec))⟩ := by
  obtain ⟨hec, hexp⟩ := hok.2
  obtain ⟨x, hx, rfl⟩ := World.step_fire hstep
  obtain ⟨hw, -, c, hc, hs⟩ := ho.waiting hx
  have htoken : x.handler.token = w.impl.cancelationToken := by
    simpa [hx, Handler.expired] using hexp
  have hck : (checkToken x.handler.token w.impl ec).failed = false := by
    rw [checkToken_of_eq htoken, hec]
  have hpost := Handler.resumed_post (L := L) hc hck x.on.status
  simp only [actionLoans, hx]
  intro hcalm
  have hcalm' := calm_before_turn (w := { w with waits := w.waits.eraseIdx k }) hpost hcalm
  have hl : OnLoan x.id (some c) l := h.onLoan (waits_only hx hw) (hs hcalm') hcalm'
  exact turn_held (w := { w with waits := w.waits.eraseIdx k }) hw hs hpost hl hcalm

/-- `close()` continues no call, and nothing is suspended for it to end. -/
theorem held_close (h : LendingWorld.Held ⟨w, l⟩) (ho : w.Orderly) {w' : World M}
    (hok : w.Unbroken .close) (hstep : w.step L .close = some w') :
    LendingWorld.Held ⟨w', l.run StringPtr.home (actionLoans L w .close)⟩ := by
  cases hstep
  obtain ⟨hw, -, -⟩ := ho.idle hok.1
  refine idle_held h hw (fun hc => ?_) rfl hw
  split_ifs at hc
  · obtain ⟨log, hlog, -⟩ := close_calls L w.impl.toImplementation
    intro c hm
    have hmem : c ∈ (w.impl.close L).mysql.calls := by
      rw [show (w.impl.close L).mysql.calls = _ from hlog]
      exact List.mem_append_left _ hm
    exact hc c hmem
  · exact hc

theorem held_step {w' : World M} (h : LendingWorld.Held ⟨w, l⟩) (ho : w.Orderly) {a : Action}
    (hok : w.Unbroken a) (hstep : w.step L a = some w') :
    LendingWorld.Held ⟨w', l.run StringPtr.home (actionLoans L w a)⟩ := by
  cases a with
  | initiate r =>
    obtain rfl := Option.some_inj.mp hstep
    exact held_initiate h ho hok
  | fire k ec => exact held_fire h ho hok hstep
  | deliver =>
    obtain ⟨c, cs, hp, rfl⟩ := World.step_deliver hstep
    exact h
  | cancel =>
    cases hstep
    exact h
  | close => exact held_close h ho hok hstep
  | call ec op =>
    cases hstep
    obtain ⟨hw, -, -⟩ := ho.idle hok.1
    have hm : w.impl.Moves (w.impl.update (perform .mariadb L w.impl.toImplementation ec op).1)
      none none 0 := perform_moves ..
    exact idle_held h hw (calm_before hm) rfl hw

/-- **What a suspended call was given.** In every run of a patient caller whose
operations do not end early and whose suspended answers are all calm, the states
that are there are those of the operations that wait, and at every resumption of a
native call the user, the password, the database and the statement it was given are
alive, while a host and a socket's path are not. -/
theorem strings_lent {st : M} {as : List Action} {s : LendingWorld M}
    (hrun : Run (LendingWorld.step L) LendingWorld.Unbroken
      (.start (MariadbImplementation.construct st)) as s)
    (hcalm : ∀ c ∈ s.world.impl.mysql.calls, c.calm = true) :
    s.loans.alive = s.world.waits.map (fun x => .state x.id) ∧
      (∀ u ∈ s.loans.uses, ∀ p ∈ u, p.2 = p.1.inState) ∧
      ∀ x ∈ s.world.waits, ∃ c, x.handler.Rests x.handler.token c ∧ s.loans.lent = lends x.id c := by
  have h : s.world.Orderly ∧ s.Held := by
    refine hrun.invariant (I := fun s => s.world.Orderly ∧ s.Held)
      ⟨World.start_orderly st, fun _ => ⟨rfl, Loans.Uses.start _, nofun⟩⟩
      fun u a v ⟨ho, hu⟩ hok hstep => ?_
    obtain ⟨w, hw, rfl⟩ := Option.map_eq_some_iff.mp hstep
    exact ⟨ho.step hok hw, held_step hu ho hok hw⟩
  obtain ⟨halive, huses, hlent⟩ := h.2 hcalm
  refine ⟨halive, huses, fun x hx => ?_⟩
  obtain ⟨c, hc, -, hl⟩ := hlent x hx
  exact ⟨c, hc, hl⟩

end Runs

/-- A connect over TCP that is suspended goes on with a host that was destroyed. -/
theorem strings_lent_host :
    ∃ s : LendingWorld Script,
      exec (allowed (LendingWorld.step Script.library) LendingWorld.Unbroken)
        (.start (MariadbImplementation.construct { waits := [[⟨true, false, false⟩]] }))
        [.initiate (.connect (Script.login defaultFlags)), .fire 0 .clear] = some s ∧
      s.loans.uses = [[(⟨.host, 0⟩, false), (⟨.user, 0⟩, true), (⟨.database, 0⟩, true)]] ∧
      s.loans.alive = s.world.waits.map fun x => .state x.id := by
  obtain ⟨s, hs, huses, hcalm⟩ : ∃ s : LendingWorld Script,
      exec (allowed (LendingWorld.step Script.library) LendingWorld.Unbroken)
        (.start (MariadbImplementation.construct { waits := [[⟨true, false, false⟩]] }))
        [.initiate (.connect (Script.login defaultFlags)), .fire 0 .clear] = some s ∧
      s.loans.uses = [[(⟨.host, 0⟩, false), (⟨.user, 0⟩, true), (⟨.database, 0⟩, true)]] ∧
      ∀ c ∈ s.world.impl.mysql.calls, c.calm = true :=
    ⟨_, rfl, by decide, by decide⟩
  exact ⟨s, hs, huses, (strings_lent (run_of_exec_allowed hs) hcalm).1⟩

end MariadbService

end Amy
