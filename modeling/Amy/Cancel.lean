import Amy.Mysql.Queue
import Amy.Mariadb.Completion
import Amy.Base.Epochs

/-!
# Cancellation separates old operations from new ones

A cancelation token is an epoch: `cancel` and the `close` of an open connector
begin the next one. In both services the pending work is `Base.Stamped`, with
the epoch that began at the last `cancel` or `close`, and the operations are
`Base.Tickets`. Stale work that takes its step leaves the connector as it is.
-/

namespace Amy

open Base

variable {M : Type} {L : Library M}

/-! ## `mysql_service` -/

namespace MysqlService

theorem Job.run_moves (j : Job) (L : Library M) (i : Implementation M) :
    Moves i (j.run L i).impl none none 0 := by
  unfold Job.run
  split_ifs
  · exact .refl i none
  · cases j.request with
    | connect c => exact .once (c := .realConnect c.args) rfl (by rfl) (by rfl) (by rfl)
    | query stmt =>
      have hfree : Moves i i.freeResult none none 0 := .resetResult i none none
      exact hfree.then (.once (c := .realQuery stmt) rfl (by rfl) (by rfl) (by rfl))
    | storeResult =>
      rw [storeResultHandler_eq]
      exact storeResult_moves L i .clear

namespace World

variable {w w' : World M} {as : List Action}

/-- The operations that are queued, posted, or were invoked. -/
def ids (w : World M) : List Nat :=
  w.work.map Job.id ++ (w.io.map Completion.id ++ w.invoked.map Completion.id)

def stamps (w : World M) : List (Nat × Nat) := w.work.map fun j => (j.id, j.token)

structure Marked (as : List Action) (w : World M) : Prop where
  tickets : Tickets w.next 0 w.ids
  next : w.next = initiations Action.initiates as
  stamped : Stamped (cutoff Action.initiates Action.cuts as) w.next w.impl.cancelationToken
    (w.impl.initialized = false) w.stamps

theorem start_marked (i : Implementation M) : Marked [] (.start i) :=
  ⟨.start, rfl, .start i.cancelationToken _⟩

/-- An initiating call posts the handler at once, with no rows, or a handler object on
an open connector. -/
theorem initiate_cases (L : Library M) (w : World M) (r : Request) :
    ∃ j, Moves w.impl j none none 0 ∧ j.lastResult = w.impl.lastResult ∧
      ((∃ o, (∀ x ∈ o.rs, x = .emptySet) ∧ w.initiate L r = { w with impl := j }.postHandler o) ∨
        (j.initialized = true ∧ w.initiate L r = { w with impl := j }.post r)) := by
  have hrefl : Moves w.impl w.impl none none 0 := .refl w.impl none
  cases hi : w.impl.initialized with
  | true =>
    refine ⟨w.impl, hrefl, rfl, .inr ⟨hi, ?_⟩⟩
    cases r <;> simp [initiate, asyncConnect, asyncQuery, asyncStoreResult, hi]
  | false =>
    cases r with
    | connect c =>
      refine ⟨(Service.open L w.impl .clear).impl, open_moves L w.impl .clear,
        Service.open_last L w.impl .clear, ?_⟩
      cases hec : (Service.open L w.impl .clear).ec.failed with
      | true => exact .inl ⟨⟨_, none⟩, by simp, by simp [initiate, asyncConnect, hi, hec]; rfl⟩
      | false => exact .inr ⟨open_initialized hec, by simp [initiate, asyncConnect, hi, hec]⟩
    | query stmt =>
      exact ⟨w.impl, hrefl, rfl, .inl ⟨⟨.notInitialized, none⟩, by simp,
        by simp [initiate, asyncQuery, hi]⟩⟩
    | storeResult =>
      exact ⟨w.impl, hrefl, rfl, .inl ⟨⟨.notInitialized, some .emptySet⟩, by simp,
        by simp [initiate, asyncStoreResult, hi]⟩⟩

theorem Marked.keep (h : w.Marked as) {a : Action} (hi : a.initiates = false)
    (hc : a.cuts = false) (hids : w'.ids.Perm w.ids) (hnext : w'.next = w.next)
    (hstamps : w'.stamps ⊆ w.stamps) {s s' : Option NbCall} {n : Nat}
    (hm : Moves w.impl w'.impl s s' n) : w'.Marked (as ++ [a]) := by
  refine ⟨?_, ?_, ?_⟩
  · rw [hnext]
    exact h.tickets.perm hids
  · simp [hi, hnext, h.next]
  · rw [cutoff_snoc, hc, if_neg Bool.false_ne_true, hnext, hm.token]
    exact h.stamped.keep hstamps hm.closed

theorem Marked.step (h : w.Marked as) {a : Action} (hstep : w.step L a = some w') :
    w'.Marked (as ++ [a]) := by
  cases a with
  | initiate r =>
    simp only [World.step, Option.some.injEq] at hstep
    subst hstep
    obtain ⟨j, hm, -, ⟨o, -, heq⟩ | ⟨hopen, heq⟩⟩ := initiate_cases L w r
    · rw [heq]
      refine ⟨?_, by simp [postHandler, Action.initiates, h.next], ?_⟩
      · refine h.tickets.issue.perm ?_
        simp only [postHandler, ids, List.map_append, List.map_cons, List.map_nil]
        exact perm_second w.next _ _ _
      · simp only [postHandler, cutoff_snoc, Action.cuts, Bool.false_eq_true, if_false, hm.token]
        exact h.stamped.skip.keep (fun _ hp => hp) hm.closed
    · rw [heq]
      refine ⟨?_, by simp [post, Action.initiates, h.next], ?_⟩
      · refine h.tickets.issue.perm ?_
        simp only [post, ids, List.map_append, List.map_cons, List.map_nil]
        exact perm_first w.next _ _ _
      · simp only [post, stamps, cutoff_snoc, Action.cuts, Bool.false_eq_true, if_false,
          List.map_append, List.map_cons, List.map_nil, hm.token]
        exact h.stamped.issue (by simp [hopen])
  | work =>
    obtain ⟨j, js, hw, rfl⟩ := World.step_work hstep
    refine h.keep rfl rfl ?_ rfl ?_ (j.run_moves L w.impl)
    · simp only [ids, hw, List.map_append, List.map_cons, List.map_nil]
      exact perm_second j.id _ _ _
    · simp [stamps, hw]
  | deliver =>
    obtain ⟨c, cs, hio, rfl⟩ := World.step_deliver hstep
    refine h.keep rfl rfl ?_ rfl (fun _ hp => hp) (.refl w.impl none)
    simp only [ids, hio, List.map_append, List.map_cons, List.map_nil]
    exact perm_second_third c.id _ _ _
  | cancel =>
    cases hstep
    refine ⟨h.tickets, by simp [Action.initiates, h.next], ?_⟩
    rw [cutoff_snoc, if_pos (by rfl), ← h.next]
    exact h.stamped.advance _
  | close =>
    cases hstep
    refine ⟨h.tickets, by simp [Action.initiates, h.next], ?_⟩
    rw [cutoff_snoc, if_pos (by rfl), ← h.next]
    cases hi : w.impl.initialized with
    | true =>
      simp only [MysqlService.close, Service.close, hi, if_true, Implementation.close_token]
      exact h.stamped.advance _
    | false =>
      simp only [MysqlService.close, Service.close, hi, Bool.false_eq_true, if_false]
      exact (h.stamped.advance_closed hi).keep (fun _ hp => hp) fun _ => hi
  | call ec op =>
    cases hstep
    exact h.keep rfl rfl (.refl _) rfl (fun _ hp => hp) (perform_moves .mysql L w.impl ec op)

/-- **What cancellation leaves of `mysql_service`** once the actions `as` were taken. -/
structure Separated (L : Library M) (as : List Action) (w : World M) : Prop where
  /-- A job from before the last `cancel` or `close` leaves the connector as it
  is and posts its handler with `operation_aborted`. -/
  old : ∀ j js, w.work = j :: js → j.id < cutoff Action.initiates Action.cuts as →
    w.step L .work = some { w with work := js, io := w.io ++ [⟨j.id, aborted j.request⟩] }
  /-- The token of a later one has not expired. -/
  new : ∀ j ∈ w.work, cutoff Action.initiates Action.cuts as ≤ j.id → j.expired w.impl = false
  /-- No operation has two jobs, or a job and an outcome, or two outcomes. -/
  once : w.ids.Nodup
  /-- Outcomes stay as they are. -/
  kept : ∀ bs w', Run (World.step L) anyStep w bs w' →
    ∀ c ∈ w.io ++ w.invoked, c ∈ w'.io ++ w'.invoked

theorem step_kept {a : Action} (hstep : w.step L a = some w') {c : Completion}
    (hc : c ∈ w.io ++ w.invoked) : c ∈ w'.io ++ w'.invoked := by
  cases a with
  | initiate r =>
    cases hstep
    obtain ⟨j, -, -, ⟨o, -, heq⟩ | ⟨-, heq⟩⟩ := initiate_cases L w r
    · rw [heq]
      simp only [postHandler, List.mem_append] at hc ⊢
      tauto
    · rw [heq]
      exact hc
  | work =>
    obtain ⟨j, js, hw, rfl⟩ := World.step_work hstep
    simp only [List.mem_append] at hc ⊢
    tauto
  | deliver =>
    obtain ⟨d, ds, hio, rfl⟩ := World.step_deliver hstep
    rw [hio] at hc
    simp only [List.mem_append, List.mem_cons, List.not_mem_nil, or_false] at hc ⊢
    tauto
  | cancel => cases hstep; exact hc
  | close => cases hstep; exact hc
  | call ec op => cases hstep; exact hc

theorem Marked.separated (h : w.Marked as) : w.Separated L as := by
  have hstamp : ∀ j ∈ w.work, j.token = w.impl.cancelationToken ↔
      cutoff Action.initiates Action.cuts as ≤ j.id := fun j hj =>
    (h.stamped.stamp (j.id, j.token) (List.mem_map_of_mem hj)).2
  refine ⟨fun j js hw hlt => ?_, fun j hj hle => ?_, h.tickets.nodup,
    fun bs w' hrun c hc => hrun.invariant hc fun _ _ _ hu _ hstep => step_kept hstep hu⟩
  · have hexp : j.expired w.impl = true := by
      simp only [Job.expired, bne_iff_ne, ne_eq, hstamp j (by simp [hw])]
      omega
    simp [World.step, hw, Job.run_expired hexp]
  · simp [Job.expired, (hstamp j hj).mpr hle]

end World

theorem separated_of_run {i : Implementation M} {as : List Action} {w : World M}
    (hrun : Run (World.step L) anyStep (.start i) as w) : w.Separated L as :=
  (hrun.invariantAlong (I := World.Marked) (World.start_marked i)
    fun _ _ _ _ h _ hstep => h.step hstep).separated

end MysqlService

/-! ## `mariadb_service` -/

namespace MariadbService

namespace World

variable {w w' : World M} {as : List Action}

def stamps (w : World M) : List (Nat × Nat) := w.waits.map fun x => (x.id, x.handler.token)

structure Marked (as : List Action) (w : World M) : Prop where
  sound : w.Sound
  next : w.next = initiations Action.initiates as
  stamped : Stamped (cutoff Action.initiates Action.cuts as) w.next w.impl.cancelationToken
    (w.impl.initialized = false) w.stamps

theorem start_marked (st : M) : Marked [] (.start (MariadbImplementation.construct st)) :=
  ⟨start_sound st, rfl, .start 0 _⟩

theorem settle_stamped {cut next id k : Nat} {i : MariadbImplementation M} {t : Turn M Handler}
    {s : Option NbCall} (hpost : t.Post (Handler.Rests k) i s)
    (h : Stamped cut next i.cancelationToken (i.initialized = false) (w.stamps ++ [(id, k)])) :
    Stamped cut next (w.settle id t).impl.cancelationToken
      ((w.settle id t).impl.initialized = false) (w.settle id t).stamps := by
  have hsub : w.stamps ⊆ w.stamps ++ [(id, k)] := List.subset_append_left _ _
  cases t with
  | wait j p on =>
    obtain ⟨c, hp, hm⟩ := hpost
    have hst : (w.settle id (.wait j p on)).stamps = w.stamps ++ [(id, k)] := by
      simp [settle, stamps, hp.token]
    rw [hst, show (w.settle id (.wait j p on)).impl.cancelationToken = _ from hm.token]
    exact h.keep (fun _ hp => hp) hm.closed
  | dropped j =>
    obtain ⟨c, hm⟩ := hpost
    rw [show (w.settle id (.dropped j : Turn M Handler)).impl.cancelationToken = _ from hm.token]
    exact h.keep hsub hm.closed
  | invoke j o =>
    rw [show (w.settle id (.invoke j o : Turn M Handler)).impl.cancelationToken = _ from hpost.token]
    exact h.keep hsub hpost.closed
  | assertion => exact hpost.elim
  | spinning => exact hpost.elim

theorem Marked.keep (h : w.Marked as) {a : Action} (hi : a.initiates = false)
    (hc : a.cuts = false) (hsound : w'.Sound) (hnext : w'.next = w.next)
    (hstamped : Stamped (cutoff Action.initiates Action.cuts as) w.next w'.impl.cancelationToken
      (w'.impl.initialized = false) w'.stamps) : w'.Marked (as ++ [a]) := by
  refine ⟨hsound, by simp [hi, hnext, h.next], ?_⟩
  rw [cutoff_snoc, hc, if_neg Bool.false_ne_true, hnext]
  exact hstamped

/-- A handler that is resumed waits again under its own stamp, or no more. -/
theorem Marked.fire (h : w.Marked as) {k : Nat} {ec : ErrorCode} (hsound : w'.Sound)
    (hstep : w.step L (.fire k ec) = some w') : w'.Marked (as ++ [.fire k ec]) := by
  obtain ⟨x, hx, rfl⟩ := World.step_fire hstep
  obtain ⟨hk, hget⟩ := List.getElem?_eq_some_iff.mp hx
  have hmem : x ∈ w.waits := hget ▸ List.getElem_mem hk
  obtain ⟨c, hc⟩ := h.sound.resting x hmem
  set w1 : World M := { w with waits := w.waits.eraseIdx k } with hw1
  have hsub : w1.stamps ⊆ w.stamps := List.map_subset _ (List.eraseIdx_subset)
  refine h.keep rfl rfl hsound (by simp [hw1]) ?_
  cases hck : (checkToken x.handler.token w.impl ec).failed with
  | true =>
    rw [Handler.call_stopped hck]
    exact h.stamped.keep hsub id
  | false =>
    refine settle_stamped (Handler.resumed_post hc hck _) (h.stamped.keep ?_ id)
    refine List.append_subset.mpr ⟨hsub, List.cons_subset.mpr ⟨?_, List.nil_subset _⟩⟩
    exact List.mem_map_of_mem (f := fun x : Wait => (x.id, x.handler.token)) hmem

theorem Marked.step (h : w.Marked as) {a : Action} (hstep : w.step L a = some w') :
    w'.Marked (as ++ [a]) := by
  have hsound := h.sound.step hstep
  cases a with
  | initiate r =>
    simp only [World.step, Option.some.injEq] at hstep
    subst hstep
    have hp := initiate_post L w.impl r
    refine ⟨hsound, ?_, ?_⟩
    · rw [initiations_snoc, ← h.next]
      unfold World.initiate
      cases MariadbService.initiate L w.impl r <;> simp [Action.initiates]
    · rw [cutoff_snoc, if_neg (by simp [Action.cuts])]
      unfold World.initiate
      cases hs : MariadbService.initiate L w.impl r with
      | posted j o =>
        rw [hs] at hp
        simp only [hp.token]
        exact h.stamped.skip.keep (fun _ hp => hp) hp.closed
      | ran t =>
        rw [hs] at hp
        obtain ⟨j, hopen, hm, hp⟩ := hp
        simp only [settle_next]
        refine settle_stamped (w := { w with next := w.next + 1 }) hp ?_
        rw [hm.token]
        exact h.stamped.issue (by simp [hopen])
  | fire k ec => exact h.fire hsound hstep
  | deliver =>
    obtain ⟨c, cs, hp, rfl⟩ := World.step_deliver hstep
    exact h.keep rfl rfl hsound rfl h.stamped
  | cancel =>
    cases hstep
    refine ⟨hsound, by simp [Action.initiates, h.next], ?_⟩
    rw [cutoff_snoc, if_pos (by rfl), ← h.next]
    exact h.stamped.advance _
  | close =>
    cases hstep
    refine ⟨hsound, by simp [Action.initiates, h.next], ?_⟩
    rw [cutoff_snoc, if_pos (by rfl), ← h.next]
    cases hi : w.impl.initialized with
    | true =>
      simp only [if_true]
      have ht : (w.impl.close L).cancelationToken = w.impl.cancelationToken + 1 :=
        Implementation.close_token ..
      rw [ht]
      exact h.stamped.advance _
    | false =>
      simp only [hi, Bool.false_eq_true, if_false]
      exact (h.stamped.advance_closed hi).keep (fun _ hp => hp) fun _ => hi
  | call ec op =>
    cases hstep
    have hm : w.impl.Moves (w.impl.update (perform .mariadb L w.impl.toImplementation ec op).1)
      none none 0 := perform_moves ..
    refine h.keep rfl rfl hsound rfl ?_
    rw [show (w.impl.update _).cancelationToken = _ from hm.token]
    exact h.stamped.keep (fun _ hp => hp) hm.closed

/-- **What cancellation leaves of `mariadb_service`** once the actions `as` were taken. -/
structure Separated (L : Library M) (as : List Action) (w : World M) : Prop where
  /-- An operation from before the last `cancel` or `close` that is resumed,
  whatever its wait says, leaves the connector as it is and invokes its handler
  with `operation_aborted`. -/
  old : ∀ k x ec, w.waits[k]? = some x → x.id < cutoff Action.initiates Action.cuts as →
    w.step L (.fire k ec) = some { w with
      waits := w.waits.eraseIdx k
      invoked := w.invoked ++ [⟨x.id, x.handler.stopped .operationAborted⟩] }
  /-- The token of a later one has not expired. -/
  new : ∀ x ∈ w.waits, cutoff Action.initiates Action.cuts as ≤ x.id →
    x.handler.expired w.impl = false
  /-- No operation has two waits, or a wait and an outcome, or two outcomes. -/
  once : w.ids.Nodup
  /-- Outcomes stay as they are. -/
  kept : ∀ bs w', Run (World.step L) anyStep w bs w' →
    ∀ c ∈ w.posted ++ w.invoked, c ∈ w'.posted ++ w'.invoked

theorem settle_kept (w : World M) (id : Nat) (t : Turn M Handler) :
    (w.settle id t).posted = w.posted ∧ w.invoked ⊆ (w.settle id t).invoked := by
  cases t <;> simp [settle]

theorem step_kept {a : Action} (hstep : w.step L a = some w') {c : Completion}
    (hc : c ∈ w.posted ++ w.invoked) : c ∈ w'.posted ++ w'.invoked := by
  have hsettle : ∀ (w1 : World M) id t, w1.posted = w.posted → w1.invoked = w.invoked →
      c ∈ (w1.settle id t).posted ++ (w1.settle id t).invoked := by
    intro w1 id t hp hi
    obtain ⟨hp', hi'⟩ := settle_kept w1 id t
    rw [hp', hp]
    rcases List.mem_append.mp hc with hc | hc
    · exact List.mem_append_left _ hc
    · exact List.mem_append_right _ (hi' (hi ▸ hc))
  cases a with
  | initiate r =>
    cases hstep
    unfold World.initiate
    cases MariadbService.initiate L w.impl r with
    | posted j o =>
      simp only [List.mem_append] at hc ⊢
      tauto
    | ran t => exact hsettle _ _ _ rfl rfl
  | fire k ec =>
    obtain ⟨x, hx, rfl⟩ := World.step_fire hstep
    exact hsettle _ _ _ rfl rfl
  | deliver =>
    obtain ⟨d, ds, hp, rfl⟩ := World.step_deliver hstep
    rw [hp] at hc
    simp only [List.mem_append, List.mem_cons, List.not_mem_nil, or_false] at hc ⊢
    tauto
  | cancel => cases hstep; exact hc
  | close => cases hstep; exact hc
  | call ec op => cases hstep; exact hc

theorem Marked.separated (h : w.Marked as) : w.Separated L as := by
  have hstamp : ∀ x ∈ w.waits, x.handler.token = w.impl.cancelationToken ↔
      cutoff Action.initiates Action.cuts as ≤ x.id := fun x hx =>
    (h.stamped.stamp (x.id, x.handler.token)
      (List.mem_map_of_mem (f := fun x : Wait => (x.id, x.handler.token)) hx)).2
  refine ⟨fun k x ec hx hlt => ?_, fun x hx hle => ?_, h.sound.tickets.nodup,
    fun bs w' hrun c hc => hrun.invariant hc fun _ _ _ hu _ hstep => step_kept hstep hu⟩
  · have hne : x.handler.token ≠ w.impl.cancelationToken := fun he => by
      have := (hstamp x (List.mem_of_getElem? hx)).mp he
      omega
    have hck : checkToken x.handler.token w.impl ec = .operationAborted := by
      simp [checkToken, hne]
    simp only [World.step, hx]
    rw [Handler.call_stopped (by rw [hck]; rfl), hck]
    rfl
  · simp [Handler.expired, (hstamp x hx).mpr hle]

end World

theorem separated_of_run {st : M} {as : List Action} {w : World M}
    (hrun : Run (World.step L) anyStep (.start (MariadbImplementation.construct st)) as w) :
    w.Separated L as :=
  (hrun.invariantAlong (I := World.Marked) (World.start_marked st)
    fun _ _ _ _ h _ hstep => h.step hstep).separated

end MariadbService

/-! ## Both services -/

/-- **Cancellation separates old operations from new ones**, in every state of
every run of either service. -/
theorem cancel_separates :
    (∀ {M : Type} (L : Library M) (i : Implementation M) (as : List MysqlService.Action)
      (w : MysqlService.World M),
      Run (MysqlService.World.step L) anyStep (.start i) as w → w.Separated L as) ∧
    (∀ {M : Type} (L : Library M) (st : M) (as : List MariadbService.Action)
      (w : MariadbService.World M),
      Run (MariadbService.World.step L) anyStep
        (.start (MariadbImplementation.construct st)) as w → w.Separated L as) :=
  ⟨fun _ _ _ _ hrun => MysqlService.separated_of_run hrun,
    fun _ _ _ _ hrun => MariadbService.separated_of_run hrun⟩

/-- A query from before a `cancel` is aborted by the worker, the one after it is not. -/
theorem cancel_separates_queued :
    ∃ w : MysqlService.World Script,
      exec (MysqlService.World.step Script.library) (.start (Script.opened {} defaultFlags))
        [.initiate (.query "do 1"), .cancel, .initiate (.query "do 2")] = some w ∧
      w.step Script.library .work = some
        { w with
          work := [⟨1, .query "do 2", 1⟩]
          io := [⟨0, .operationAborted, none⟩] } ∧
      ∀ j ∈ w.work, j.id = 1 → j.expired w.impl = false := by
  obtain ⟨w, hw, hwork, hio⟩ : ∃ w : MysqlService.World Script,
      exec (MysqlService.World.step Script.library) (.start (Script.opened {} defaultFlags))
        [.initiate (.query "do 1"), .cancel, .initiate (.query "do 2")] = some w ∧
      w.work = [⟨0, .query "do 1", 0⟩, ⟨1, .query "do 2", 1⟩] ∧ w.io = [] := ⟨_, rfl, rfl, rfl⟩
  have h := cancel_separates.1 Script.library (Script.opened {} defaultFlags) _ w
    (run_of_exec (fun _ _ _ => trivial) hw)
  refine ⟨w, hw, ?_, fun j hj hid => h.new j hj (by rw [hid]; decide)⟩
  rw [h.old _ _ hwork (by decide), hio]
  rfl

end Amy
