import Amy.Mysql.Shared

/-!
# Connectors that share a service take turns

While no connector is canceled or closed, the operations of all connectors of a
`mysql_service` finish in the order they were initiated in, whichever connector
they are on, and for each connector they are the blocking calls it would have
made by itself.
-/

namespace Amy

namespace MysqlService

open Base

variable {M : Type} {L : Library M} {i : Implementation M}

/-! ## One connector -/

section One

variable {rs : List Request} {w : World M}

theorem numbered_outputs (L : Library M) (i : Implementation M) (rs : List Request) :
    (runSeq (numberedJob L) i (numbered rs)).1 = (sequential L i rs).1 ∧
      (runSeq (numberedJob L) i (numbered rs)).2.map Completion.id = List.range rs.length ∧
      (runSeq (numberedJob L) i (numbered rs)).2.map Completion.outcome = (sequential L i rs).2 := by
  have hlen : (sequential L i rs).2.length = rs.length := runSeq_length i rs
  rw [numbered, runSeq_numbered (by simp), List.map_map, List.map_map]
  exact ⟨rfl, List.map_fst_zip (by simp [hlen]), List.map_snd_zip (by simp [hlen])⟩

theorem InOrder.delivered (h : InOrder L i rs w) :
    w.invoked.map Completion.id <+: List.range rs.length ∧
      w.invoked.map Completion.outcome <+: (sequential L i rs).2 := by
  obtain ⟨-, -, -, ran, hfed⟩ := h
  have hpre : w.invoked <+: (runSeq (numberedJob L) i (numbered rs)).2 := hfed.out_prefix
  obtain ⟨-, hids, houts⟩ := numbered_outputs L i rs
  rw [← hids, ← houts]
  exact ⟨hpre.map _, hpre.map _⟩

theorem InOrder.finished (h : InOrder L i rs w) (hwork : w.work = []) (hio : w.io = []) :
    w.impl = (sequential L i rs).1 ∧ w.invoked.map Completion.outcome = (sequential L i rs).2 := by
  obtain ⟨-, -, -, ran, hfed⟩ := h
  have hdone := hfed.emptied (by simp [World.pipe, hwork]) (by simp [World.pipe, hio])
  obtain ⟨himpl, -, houts⟩ := numbered_outputs L i rs
  rw [← himpl, ← houts, ← hdone]
  exact ⟨rfl, rfl⟩

end One

/-! ## All of them -/

def sharedRequests (as : List SharedAction) : List (Nat × Request) :=
  as.flatMap SharedAction.requested

namespace SharedWorld

def Queued : SharedWorld M → SharedAction → Prop
  | _, .initiate _ _ | _, .work | _, .workEnds | _, .deliver => True
  | _, _ => False

theorem Queued.up {s : SharedWorld M} {a : SharedAction} (h : s.Queued a) : a ≠ .shutdown := by
  rintro rfl
  exact h

theorem Queued.sees {s : SharedWorld M} {a : SharedAction} (h : s.Queued a) (k : Nat) {b : Action}
    (hb : b ∈ s.sees k a) (w : World M) : MysqlService.Queued w b := by
  cases a with
  | initiate j r =>
    simp only [SharedWorld.sees] at hb
    split_ifs at hb with hj
    · obtain rfl := List.mem_singleton.mp hb
      trivial
    · cases hb
  | work =>
    simp only [SharedWorld.sees] at hb
    split_ifs at hb with hj
    · obtain rfl := List.mem_singleton.mp hb
      trivial
    · cases hb
  | deliver =>
    simp only [SharedWorld.sees] at hb
    split_ifs at hb with hj
    · obtain rfl := List.mem_singleton.mp hb
      trivial
    · cases hb
  | workEnds => cases hb
  | cancel j => exact h.elim
  | close j => exact h.elim
  | call j ec op => exact h.elim
  | shutdown => exact h.elim

variable {impls : Nat → Implementation M} {as : List SharedAction} {s : SharedWorld M}

/-- Each connector is as its own operations, made one after the other, left it. -/
theorem view_inOrder (hopen : ∀ k, (impls k).initialized = true)
    (hrun : Run (step L) Queued (start impls) as s) (k : Nat) :
    InOrder L (impls k) (restrict k (sharedRequests as)) (s.view k) := by
  have hwithin : Run (step L) (fun u a => Queued u a ∧ u.workIoService.isSome) (start impls) as s :=
    hrun.within rfl fun u a v hu ha hstep => step_up hu ha.up hstep
  have hseen : Run (World.step L) MysqlService.Queued ((start impls).view k)
      (seenBy L impls k as) (s.view k) :=
    hwithin.seen fun u a v hok hstep =>
      step_view hok.2 hok.1.up hstep k fun b hb => hok.1.sees k hb _
  have hreq : requests (seenBy L impls k as) = restrict k (sharedRequests as) := by
    rw [sharedRequests, restrict_flatMap]
    refine hrun.seen_flatMap fun u a => ?_
    cases a <;> simp only [SharedWorld.sees, SharedAction.requested, restrict_cons] <;>
      first | rfl | (split_ifs <;> rfl)
  rw [← hreq]
  exact inOrder_of_run (hopen k) (by simpa using hseen)

/-- **In every state the operations stand in their order**: those delivered
before those on their way, and those before the ones still to run. -/
theorem in_turn (hopen : ∀ k, (impls k).initialized = true)
    (hrun : Run (step L) Queued (start impls) as s) :
    s.invoked.map Prod.fst ++ (s.io.map Prod.fst ++ s.queue.map Prod.fst) =
      (sharedRequests as).map Prod.fst := by
  induction hrun with
  | start => rfl
  | @snoc as u v a hr hok hs ih =>
    have hu : u.workIoService.isSome :=
      hr.invariant (I := fun u => u.workIoService.isSome) rfl
        fun u a v hu ha hstep => step_up hu ha.up hstep
    obtain ⟨q, hq⟩ := Option.isSome_iff_exists.mp hu
    simp only [sharedRequests, List.flatMap_append, List.map_append] at ih ⊢
    rw [← ih]
    cases a with
    | initiate k r =>
      cases hs
      have hk : (u.impls k).initialized = true := (view_inOrder hopen hr k).opened
      rw [initiate_open hk]
      simp [post_some hq, count, queue, hq, SharedAction.requested]
    | work =>
      obtain ⟨k, j, q', -, hq', rfl⟩ := step_work hs
      simp [queue, hq', update, SharedAction.requested]
    | workEnds =>
      obtain ⟨-, -, rfl⟩ := step_workEnds hs
      simp [queue, SharedAction.requested]
    | deliver =>
      obtain ⟨k, c, cs, hio, rfl⟩ := step_deliver hs
      simp [queue, hio, SharedAction.requested]
    | cancel k => exact hok.elim
    | close k => exact hok.elim
    | call k ec op => exact hok.elim
    | shutdown => exact hok.elim

/-- **Operations of all connectors finish in the order they were initiated in**,
and each connector's are its own blocking calls made one after the other. Once
nothing is outstanding this is all operations. -/
theorem finished_in_turn (hopen : ∀ k, (impls k).initialized = true)
    (hrun : Run (step L) Queued (start impls) as s) :
    s.invoked.map Prod.fst <+: (sharedRequests as).map Prod.fst ∧
      (∀ k, (restrict k s.invoked).map Completion.id <+:
          List.range (restrict k (sharedRequests as)).length ∧
        (restrict k s.invoked).map Completion.outcome <+:
          (sequential L (impls k) (restrict k (sharedRequests as))).2) ∧
      (s.outstanding = 0 →
        s.invoked.map Prod.fst = (sharedRequests as).map Prod.fst ∧
        ∀ k, s.impls k = (sequential L (impls k) (restrict k (sharedRequests as))).1 ∧
          (restrict k s.invoked).map Completion.outcome =
            (sequential L (impls k) (restrict k (sharedRequests as))).2) := by
  have hturn := in_turn hopen hrun
  refine ⟨⟨_, hturn⟩, fun k => (view_inOrder hopen hrun k).delivered, fun hout => ?_⟩
  have hqueue : s.queue = [] := List.eq_nil_of_length_eq_zero (by unfold outstanding at hout; omega)
  have hio : s.io = [] := List.eq_nil_of_length_eq_zero (by unfold outstanding at hout; omega)
  refine ⟨by simpa [hqueue, hio] using hturn, fun k => ?_⟩
  have hdone := (view_inOrder hopen hrun k).finished (by simp [view, hqueue]) (by simp [view, hio])
  exact hdone

/-- The queries of two connectors, and the store of the first one's result. -/
theorem finished_in_turn_two :
    let impls := fun _ : Nat =>
      Script.opened { verdicts := [.batch (some Script.oneRow) [] 0] } defaultFlags
    ∃ s : SharedWorld Script,
      exec (step Script.library) (start impls)
        [.initiate 1 (.query "select 2"), .work, .initiate 0 (.query "select 1"),
          .initiate 1 .storeResult, .work, .work, .deliver, .deliver, .deliver] = some s ∧
      s.invoked.map Prod.fst = [1, 0, 1] ∧
      s.impls 1 =
        (sequential Script.library (impls 1) [.query "select 2", .storeResult]).1 := by
  intro impls
  obtain ⟨s, hs, hout⟩ : ∃ s : SharedWorld Script,
      exec (step Script.library) (start impls)
        [.initiate 1 (.query "select 2"), .work, .initiate 0 (.query "select 1"),
          .initiate 1 .storeResult, .work, .work, .deliver, .deliver, .deliver] = some s ∧
      s.outstanding = 0 := ⟨_, rfl, rfl⟩
  have hrun : Run (step Script.library) Queued (start impls) _ s :=
    run_of_exec (by simp [Queued]) hs
  obtain ⟨-, -, hdone⟩ := finished_in_turn (fun _ => rfl) hrun
  exact ⟨s, hs, (hdone hout).1, ((hdone hout).2 1).1⟩

end SharedWorld

end MysqlService

end Amy
