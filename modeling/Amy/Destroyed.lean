import Amy.Ownership

/-!
# After a connector is destroyed

The handlers of a connector outlive it: the worker thread and the io_service
still run them. Whatever becomes of the connector's memory, they do not write it
and what they hand over does not depend on it. All they see of the connector is
the weak pointer to its token, which has expired, and each calls its handler
once, with `operation_aborted`. A handler's `operator()` is one step: the connector
is destroyed before it or after it.
-/

namespace Amy

open Base

variable {M : Type} {L : Library M}

theorem destroy_token (L : Library M) (i : Implementation M) :
    i.cancelationToken < (i.destroy L).cancelationToken := by
  unfold Implementation.destroy Service.close
  split_ifs <;> simp only [Implementation.close_token] <;> omega

/-! ## `mysql_service` -/

namespace MysqlService

/-- What the handler of a canceled job is called with. -/
def Job.aborts (j : Job) : Completion := ⟨j.id, aborted j.request⟩

/-- The worker and the io_service, which go on. -/
def Action.winding : Action → Bool
  | .work | .deliver => true
  | _ => false

namespace World

variable {w v : World M} {as bs : List Action} {k : Implementation M}

/-- The handlers invoked and those to be invoked, in turn. -/
def owed (w : World M) : List Completion := w.invoked ++ (w.io ++ w.work.map Job.aborts)

/-- No job has the token of `k`. -/
def Forgotten (w : World M) (k : Implementation M) : Prop := ∀ j ∈ w.work, j.expired k = true

theorem Marked.forgotten (h : w.Marked as)
    (hk : k.cancelationToken = (w.impl.destroy L).cancelationToken) : w.Forgotten k := by
  intro j hj
  have hmem : (j.id, j.token) ∈ w.stamps := List.mem_map_of_mem (f := fun j => (j.id, j.token)) hj
  have hle := (h.stamped.stamp _ hmem).1
  have hlt := destroy_token L w.impl
  simp only [Job.expired, bne_iff_ne, ne_eq, hk]
  omega

/-- A step leaves the memory as it is and owes the same handlers. -/
theorem Forgotten.step (h : w.Forgotten w.impl) {a : Action} (ha : a.winding = true)
    (hstep : w.step L a = some v) : v.Forgotten v.impl ∧ v.impl = w.impl ∧ v.owed = w.owed := by
  cases a with
  | work =>
    obtain ⟨j, js, hw, rfl⟩ := World.step_work hstep
    have hexp : j.expired w.impl = true := h j (by simp [hw])
    simp only [Job.run_expired hexp]
    refine ⟨fun x hx => h x (by simp [hw, show x ∈ js from hx]), trivial, ?_⟩
    simp [owed, hw, Job.aborts]
  | deliver =>
    obtain ⟨c, cs, hio, rfl⟩ := World.step_deliver hstep
    exact ⟨h, rfl, by simp [owed, hio]⟩
  | initiate r => cases ha
  | cancel => cases ha
  | close => cases ha
  | call ec op => cases ha

theorem Forgotten.run (h : w.Forgotten w.impl)
    (hrun : Run (World.step L) (fun _ a => a.winding = true) w bs v) :
    v.impl = w.impl ∧ v.owed = w.owed :=
  (hrun.invariant (I := fun u => u.Forgotten u.impl ∧ u.impl = w.impl ∧ u.owed = w.owed)
    ⟨h, rfl, rfl⟩ fun _ _ _ ⟨hu, hi, ho⟩ ha hstep => by
      obtain ⟨hv, hvi, hvo⟩ := hu.step ha hstep
      exact ⟨hv, hvi.trans hi, hvo.trans ho⟩).2

/-- The worker and the io_service come to an end, every handler invoked. -/
theorem Forgotten.ends (h : w.Forgotten w.impl) :
    ∃ bs v, Run (World.step L) (fun _ a => a.winding = true) w bs v ∧ v.invoked = w.owed := by
  let n : World M → Nat := fun u => 2 * u.work.length + u.io.length
  have hgo : ∀ u : World M, True → ¬ (u.work = [] ∧ u.io = []) → ∃ (a : Action) (v : World M),
      a.winding = true ∧ u.step L a = some v ∧ True ∧ n v < n u := by
    rintro ⟨i, work, io, invoked, next⟩ - hne
    cases work with
    | cons j js =>
      refine ⟨.work, _, rfl, rfl, trivial, ?_⟩
      simp only [n, List.length_cons, List.length_append, List.length_nil]
      omega
    | nil =>
      cases io with
      | nil => exact absurd ⟨rfl, rfl⟩ hne
      | cons c cs => exact ⟨.deliver, _, rfl, rfl, trivial, by simp [n]⟩
  obtain ⟨bs, v, hrun, -, hwork, hio⟩ := exists_end n hgo trivial
  refine ⟨bs, v, hrun, ?_⟩
  rw [← (h.run hrun).2]
  simp [owed, hwork, hio]

end World

end MysqlService

/-! ## `mariadb_service` -/

namespace MariadbService

/-- What the handler of a canceled operation is called with. -/
def Wait.aborts (x : Wait) : Completion := ⟨x.id, x.handler.stopped .operationAborted⟩

def Action.winding : Action → Bool
  | .fire _ _ | .deliver => true
  | _ => false

namespace World

variable {w v : World M} {as bs : List Action} {k : MariadbImplementation M}

def owed (w : World M) : List Completion := w.invoked ++ (w.posted ++ w.waits.map Wait.aborts)

def Forgotten (w : World M) (k : MariadbImplementation M) : Prop :=
  ∀ x ∈ w.waits, x.handler.expired k = true

theorem Marked.forgotten (h : w.Marked as)
    (hk : k.cancelationToken = (w.impl.toImplementation.destroy L).cancelationToken) :
    w.Forgotten k := by
  intro x hx
  have hmem : (x.id, x.handler.token) ∈ w.stamps :=
    List.mem_map_of_mem (f := fun x : Wait => (x.id, x.handler.token)) hx
  have hle := (h.stamped.stamp _ hmem).1
  have hlt := destroy_token L w.impl.toImplementation
  simp only [Handler.expired, bne_iff_ne, ne_eq, hk]
  omega

theorem Forgotten.step (h : w.Forgotten w.impl) {a : Action} (ha : a.winding = true)
    (hstep : w.step L a = some v) :
    v.Forgotten v.impl ∧ v.impl = w.impl ∧ v.owed.Perm w.owed := by
  cases a with
  | fire n ec =>
    obtain ⟨x, hx, rfl⟩ := World.step_fire hstep
    have hexp : x.handler.token ≠ w.impl.cancelationToken := by
      simpa [Handler.expired] using h x (List.mem_of_getElem? hx)
    have hck : checkToken x.handler.token w.impl ec = .operationAborted := if_pos hexp
    rw [Handler.call_stopped (by rw [hck]; rfl), hck]
    refine ⟨fun y hy => h y (List.mem_of_mem_eraseIdx hy), rfl, ?_⟩
    obtain ⟨hn, rfl⟩ := List.getElem?_eq_some_iff.mp hx
    -- the wait that completes is invoked, the others are owed still
    have hwaits := ((List.getElem_cons_eraseIdx_perm hn).map Wait.aborts).symm
    have hfirst := perm_first w.waits[n].aborts w.invoked w.posted
      ((w.waits.eraseIdx n).map Wait.aborts)
    have hthird : (w.invoked ++ (w.posted ++
        w.waits[n].aborts :: (w.waits.eraseIdx n).map Wait.aborts)).Perm
        (w.waits[n].aborts :: (w.invoked ++ (w.posted ++
          (w.waits.eraseIdx n).map Wait.aborts))) := by
      rw [← List.append_assoc, ← List.append_assoc]
      exact List.perm_middle
    exact hfirst.trans (hthird.symm.trans ((hwaits.symm.append_left _).append_left _))
  | deliver =>
    obtain ⟨c, cs, hp, rfl⟩ := World.step_deliver hstep
    exact ⟨h, rfl, by simp [owed, hp]⟩
  | initiate r => cases ha
  | cancel => cases ha
  | close => cases ha
  | call ec op => cases ha

theorem Forgotten.run (h : w.Forgotten w.impl)
    (hrun : Run (World.step L) (fun _ a => a.winding = true) w bs v) :
    v.impl = w.impl ∧ v.owed.Perm w.owed :=
  (hrun.invariant (I := fun u => u.Forgotten u.impl ∧ u.impl = w.impl ∧ u.owed.Perm w.owed)
    ⟨h, rfl, .refl _⟩ fun _ _ _ ⟨hu, hi, ho⟩ ha hstep => by
      obtain ⟨hv, hvi, hvo⟩ := hu.step ha hstep
      exact ⟨hv, hvi.trans hi, hvo.trans ho⟩).2

theorem Forgotten.ends (h : w.Forgotten w.impl) :
    ∃ bs v, Run (World.step L) (fun _ a => a.winding = true) w bs v ∧ v.invoked.Perm w.owed := by
  let n : World M → Nat := fun u => 2 * u.waits.length + u.posted.length
  have hgo : ∀ u : World M, u.Forgotten u.impl → ¬ (u.waits = [] ∧ u.posted = []) →
      ∃ (a : Action) (v : World M), a.winding = true ∧ u.step L a = some v ∧
        v.Forgotten v.impl ∧ n v < n u := by
    intro u hu hne
    cases hw : u.waits with
    | cons x xs =>
      obtain ⟨v, hstep⟩ : ∃ v, u.step L (.fire 0 .clear) = some v := by
        simp only [World.step, hw, List.getElem?_cons_zero]
        exact ⟨_, rfl⟩
      refine ⟨.fire 0 .clear, v, rfl, hstep, (hu.step rfl hstep).1, ?_⟩
      obtain ⟨y, hy, rfl⟩ := World.step_fire hstep
      obtain rfl : x = y := by simpa [hw] using hy
      have hexp : x.handler.token ≠ u.impl.cancelationToken := by
        simpa [Handler.expired] using hu x (by simp [hw])
      rw [Handler.call_stopped (by rw [checkToken, if_pos hexp]; rfl)]
      simp [n, settle, hw]
    | nil =>
      cases hp : u.posted with
      | nil => exact absurd ⟨hw, hp⟩ hne
      | cons c cs =>
        obtain ⟨v, hstep⟩ : ∃ v, u.step L .deliver = some v := by
          simp only [World.step, hp]
          exact ⟨_, rfl⟩
        refine ⟨.deliver, v, rfl, hstep, (hu.step rfl hstep).1, ?_⟩
        obtain ⟨d, ds, hd, rfl⟩ := World.step_deliver hstep
        simp [n, hw, hd]
  obtain ⟨bs, v, hrun, -, hwaits, hposted⟩ := exists_end n hgo h
  refine ⟨bs, v, hrun, ?_⟩
  have howed := (h.run hrun).2
  simpa [owed, hwaits, hposted] using howed

end World

end MariadbService

/-- **A destroyed connector is left alone.** Destroyed in any state of a run of
either service, a connector leaves handlers behind. Whatever `k` is in its
memory then, running them leaves it as it is, and each is invoked once, with
what it had been handed or with `operation_aborted`; on `mysql_service` in turn. -/
theorem destroyed_untouched (L : Library M) (i : Implementation M) (st : M) :
    (∀ as w, Run (MysqlService.World.step L) anyStep (.start i) as w →
      ∀ k : Implementation M, k.cancelationToken = (w.impl.destroy L).cancelationToken →
        (∀ bs v, Run (MysqlService.World.step L) (fun _ a => a.winding = true)
          { w with impl := k } bs v → v.impl = k ∧ v.owed = w.owed) ∧
        ∃ bs v, Run (MysqlService.World.step L) (fun _ a => a.winding = true)
          { w with impl := k } bs v ∧ v.invoked = w.owed) ∧
    (∀ as w, Run (MariadbService.World.step L) anyStep
        (.start (MariadbImplementation.construct st)) as w →
      ∀ k : MariadbImplementation M,
        k.cancelationToken = (w.impl.toImplementation.destroy L).cancelationToken →
        (∀ bs v, Run (MariadbService.World.step L) (fun _ a => a.winding = true)
          { w with impl := k } bs v → v.impl = k ∧ v.owed.Perm w.owed) ∧
        ∃ bs v, Run (MariadbService.World.step L) (fun _ a => a.winding = true)
          { w with impl := k } bs v ∧ v.invoked.Perm w.owed) := by
  refine ⟨fun as w hrun k hk => ?_, fun as w hrun k hk => ?_⟩
  · have hm : w.Marked as := hrun.invariantAlong (MysqlService.World.start_marked i)
      fun _ _ _ _ h _ hstep => h.step hstep
    have hf : MysqlService.World.Forgotten { w with impl := k } k := hm.forgotten hk
    exact ⟨fun bs v hrest => hf.run hrest, hf.ends⟩
  · have hm : w.Marked as := hrun.invariantAlong (MariadbService.World.start_marked st)
      fun _ _ _ _ h _ hstep => h.step hstep
    have hf : MariadbService.World.Forgotten { w with impl := k } k := hm.forgotten hk
    exact ⟨fun bs v hrest => hf.run hrest, hf.ends⟩

theorem destroyed_untouched_queued :
    ∃ w : MysqlService.World Script,
      exec (MysqlService.World.step Script.library) (.start (.construct {}))
        [.initiate (.connect (Script.login defaultFlags)), .initiate .storeResult] = some w ∧
      w.owed = [⟨0, ⟨.operationAborted, none⟩⟩, ⟨1, ⟨.operationAborted, some .emptySet⟩⟩] ∧
      ∃ bs v, Run (MysqlService.World.step Script.library) (fun _ a => a.winding = true)
        { w with impl := w.impl.destroy Script.library } bs v ∧ v.invoked = w.owed := by
  obtain ⟨w, hw, howed⟩ : ∃ w : MysqlService.World Script,
      exec (MysqlService.World.step Script.library) (.start (.construct {}))
        [.initiate (.connect (Script.login defaultFlags)), .initiate .storeResult] = some w ∧
      w.owed = [⟨0, ⟨.operationAborted, none⟩⟩, ⟨1, ⟨.operationAborted, some .emptySet⟩⟩] :=
    ⟨_, rfl, by decide⟩
  have hrun : Run (MysqlService.World.step Script.library) anyStep _ _ w :=
    run_of_exec (fun _ _ _ => trivial) hw
  exact ⟨w, hw, howed,
    ((destroyed_untouched Script.library (.construct {}) {}).1 _ w hrun _ rfl).2⟩

end Amy
