import Amy.Mariadb.System
import Amy.Base.Tickets
import Amy.Script

/-!
# Completions of `mariadb_service`

An operation is a ticket: it is held by the wait that will resume it, by the
handler posted for it, or by its invocation. A step moves one ticket at most,
and loses it exactly when the library answered bare: a suspended call whose
status names only events `async_wait_mysql` has no wait for.
-/

namespace Amy

open Base

namespace MariadbService

variable {M : Type} {L : Library M}

namespace World

def ids (w : World M) : List Nat :=
  w.waits.map Wait.id ++ (w.posted.map Completion.id ++ w.invoked.map Completion.id)

def bares (w : World M) : Nat := w.impl.mysql.calls.countP Call.bare

/-- Every wait belongs to a handler that can be resumed. -/
def Resting (w : World M) : Prop := ∀ x ∈ w.waits, ∃ c, x.handler.Rests x.handler.token c

structure Sound (w : World M) : Prop where
  tickets : Tickets w.next w.bares w.ids
  resting : w.Resting

/-- Operation `id` is about to be resumed by its one wait, or its handler is
posted or was invoked, once. -/
def Accounted (w : World M) (id : Nat) : Prop :=
  let waits := (w.waits.map Wait.id).count id
  let posted := (w.posted.map Completion.id).count id
  let invoked := (w.invoked.map Completion.id).count id
  (waits = 1 ∧ posted = 0 ∧ invoked = 0) ∨ (waits = 0 ∧ posted = 1 ∧ invoked = 0) ∨
    (waits = 0 ∧ posted = 0 ∧ invoked = 1)

theorem accounted_iff (w : World M) (id : Nat) : w.Accounted id ↔ w.ids.count id = 1 := by
  simp only [Accounted, ids, List.count_append]
  omega

variable {w w' : World M} {id k : Nat} {t : Turn M Handler} {s : Option NbCall}

theorem start_sound (st : M) : Sound (.start (MariadbImplementation.construct st)) :=
  ⟨.start, fun x hx => by cases hx⟩

/-- The end of a turn holds the operation's ticket, or has heard one more bare answer. -/
theorem settle_sound (ht : Tickets w.next w.bares (id :: w.ids)) (hr : w.Resting)
    (hpost : t.Post (Handler.Rests k) w.impl s) : (w.settle id t).Sound := by
  cases t with
  | wait j h on =>
    obtain ⟨c, hc, hm⟩ := hpost
    refine ⟨?_, fun x hx => ?_⟩
    · have hb : (w.settle id (.wait j h on)).bares = w.bares := hm.bares
      rw [hb]
      refine ht.perm ?_
      simp only [settle, ids, List.map_append, List.map_cons, List.map_nil]
      exact perm_first id _ _ _
    · rcases List.mem_append.mp hx with hx | hx
      · exact hr x hx
      · obtain rfl := List.mem_singleton.mp hx
        exact ⟨c, hc.token ▸ hc⟩
  | dropped j =>
    obtain ⟨c, hm⟩ := hpost
    have hb : (w.settle id (.dropped j : Turn M Handler)).bares = w.bares + 1 := hm.bares
    exact ⟨by rw [hb]; exact ht.lose, hr⟩
  | invoke j o =>
    have hb : (w.settle id (.invoke j o : Turn M Handler)).bares = w.bares := hpost.bares
    refine ⟨?_, hr⟩
    rw [hb]
    refine ht.perm ?_
    simp only [settle, ids, List.map_append, List.map_cons, List.map_nil]
    exact perm_third id _ _ _
  | assertion => exact hpost.elim
  | spinning => exact hpost.elim

theorem settle_stopped (ht : Tickets w.next w.bares (id :: w.ids)) (hr : w.Resting) (o : Outcome) :
    (w.settle id (.invoke w.impl o)).Sound :=
  settle_sound (k := 0) (s := none) ht hr (.refl w.impl.toImplementation none)

theorem Sound.of_impl {i : MariadbImplementation M} (h : w.Sound) {l : List Call}
    (hlog : i.mysql.calls = w.impl.mysql.calls ++ l) (hu : ∀ c ∈ l, c.heard? = none) :
    Sound { w with impl := i } := by
  refine ⟨?_, h.resting⟩
  have hb : World.bares { w with impl := i } = w.bares := by
    unfold bares
    rw [hlog, List.countP_append, Nat.add_eq_left, List.countP_eq_zero]
    intro c hc
    simp [Call.bare, hu c hc]
  rw [hb]
  exact h.tickets

theorem Sound.step (h : w.Sound) {a : Action} (hstep : w.step L a = some w') : w'.Sound := by
  cases a with
  | initiate r =>
    simp only [World.step, Option.some.injEq] at hstep
    subst hstep
    have hp := initiate_post L w.impl r
    unfold World.initiate
    cases hs : MariadbService.initiate L w.impl r with
    | posted j o =>
      rw [hs] at hp
      have hb : j.mysql.calls.countP Call.bare = w.bares := hp.bares
      refine ⟨?_, h.resting⟩
      unfold bares
      rw [hb]
      refine h.tickets.issue.perm ?_
      simp only [ids, List.map_append, List.map_cons, List.map_nil]
      exact perm_second w.next _ _ _
    | ran t =>
      rw [hs] at hp
      obtain ⟨j, -, hm, hp⟩ := hp
      exact settle_sound (w := { w with next := w.next + 1 }) h.tickets.issue h.resting
        (Turn.Post.of_moves hm hp)
  | fire k ec =>
    obtain ⟨x, hx, rfl⟩ := World.step_fire hstep
    obtain ⟨hk, hget⟩ := List.getElem?_eq_some_iff.mp hx
    have hperm : (x :: w.waits.eraseIdx k).Perm w.waits :=
      hget ▸ List.getElem_cons_eraseIdx_perm hk
    obtain ⟨c, hc⟩ := h.resting x (hget ▸ List.getElem_mem hk)
    set w1 : World M := { w with waits := w.waits.eraseIdx k } with hw1
    have ht1 : Tickets w1.next w1.bares (x.id :: w1.ids) :=
      h.tickets.perm ((hperm.map Wait.id).append_right _)
    have hr1 : w1.Resting := fun y hy => h.resting y (List.mem_of_mem_eraseIdx hy)
    cases hck : (checkToken x.handler.token w.impl ec).failed with
    | true =>
      rw [Handler.call_stopped hck]
      exact settle_stopped ht1 hr1 _
    | false => exact settle_sound ht1 hr1 (Handler.resumed_post hc hck _)
  | deliver =>
    obtain ⟨c, cs, hp, rfl⟩ := World.step_deliver hstep
    refine ⟨h.tickets.perm ?_, h.resting⟩
    simp only [ids, hp, List.map_append, List.map_cons, List.map_nil]
    exact perm_second_third c.id _ _ _
  | cancel =>
    cases hstep
    exact h.of_impl (l := []) (by simp [Implementation.cancel]) (by simp)
  | close =>
    cases hstep
    split_ifs
    · obtain ⟨log, hlog, hu⟩ := close_calls L w.impl.toImplementation
      exact h.of_impl hlog hu
    · exact h
  | call ec op =>
    cases hstep
    have hm := (perform_moves .mariadb L w.impl.toImplementation ec op).bares
    exact ⟨by unfold bares; rw [MariadbImplementation.update_toImplementation, hm]; exact h.tickets, h.resting⟩

end World

/-- **Completions are lost to bare answers only.** In every reachable state every
operation initiated so far has exactly one wait, posted handler or invocation
if and only if no `_start` or `_cont` call has answered bare. -/
theorem accounted_iff_not_bare {st : M} {as : List Action} {w : World M}
    (hrun : Run (World.step L) anyStep (.start (MariadbImplementation.construct st)) as w) :
    (∀ id < w.next, w.Accounted id) ↔ ∀ c ∈ w.impl.mysql.calls, c.bare = false := by
  have hs : w.Sound := hrun.invariant (World.start_sound st) fun _ _ _ h _ hstep => h.step hstep
  simp only [World.accounted_iff, hs.tickets.count_eq_one_iff, World.bares, List.countP_eq_zero,
    Bool.not_eq_true]

theorem accounted_iff_not_bare_resumed :
    ∃ w : World Script, w.next = 1 ∧ w.invoked = [⟨0, .clear, none⟩] ∧
      ∀ id < w.next, w.Accounted id := by
  obtain ⟨w, hw, hnext, hinv, hcalls⟩ : ∃ w : World Script,
      exec (World.step Script.library)
        (.start (MariadbImplementation.construct { waits := [[], [⟨true, false, false⟩]] }))
        [.call .clear (.connect (Script.login defaultFlags)), .initiate (.query "do 1"),
          .fire 0 .clear] = some w ∧
      w.next = 1 ∧ w.invoked = [⟨0, .clear, none⟩] ∧ ∀ c ∈ w.impl.mysql.calls, c.bare = false :=
    ⟨_, rfl, rfl, by decide, by decide⟩
  have hrun : Run (World.step Script.library) anyStep _ _ w := run_of_exec (fun _ _ _ => trivial) hw
  exact ⟨w, hnext, hinv, (accounted_iff_not_bare hrun).mpr hcalls⟩

/-- The scripted library, but a query suspends for `MYSQL_WAIT_EXCEPT`. -/
def exceptLibrary : Library Script :=
  { Script.library with queryStart := fun _ m => ⟨WaitType.except, none, { m with errno := 0 }⟩ }

/-- A query that suspends for `MYSQL_WAIT_EXCEPT` is nowhere afterwards. -/
theorem query_except_lost :
    ∃ w : World Script,
      Run (World.step exceptLibrary) anyStep (.start (MariadbImplementation.construct {}))
        [.call .clear (.connect (Script.login defaultFlags)), .initiate (.query "do 1")] w ∧
      w.next = 1 ∧ w.waits.length = 0 ∧ w.posted = [] ∧ w.invoked = [] ∧ ¬ w.Accounted 0 := by
  obtain ⟨w, hw, h⟩ : ∃ w : World Script,
      exec (World.step exceptLibrary) (.start (MariadbImplementation.construct {}))
        [.call .clear (.connect (Script.login defaultFlags)), .initiate (.query "do 1")] = some w ∧
      w.next = 1 ∧ w.waits.length = 0 ∧ w.posted = [] ∧ w.invoked = [] ∧ ¬ w.Accounted 0 :=
    ⟨_, rfl, rfl, rfl, rfl, rfl, by unfold World.Accounted; decide⟩
  exact ⟨w, run_of_exec (fun _ _ _ => trivial) hw, h⟩

end MariadbService

end Amy
