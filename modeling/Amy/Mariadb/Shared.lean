import Amy.Mariadb.Refine
import Amy.Mariadb.System
import Amy.Base.Shared

/-!
# Several connectors on one `mariadb_service`

The connectors of an io_service have a descriptor and a timer each, and share the
queue of handlers posted. `SharedWorld` is the io_service with all of them: any
wait of any connector may complete next, and what is posted is invoked in the
order it was posted in. A connector is `seen` through `view` as a connector on an
io_service of its own.
-/

namespace Amy

namespace MariadbService

open Base

variable {M : Type}

structure SharedWorld (M : Type) where
  /-- The connectors, by number. -/
  impls : Nat → MariadbImplementation M
  /-- What waits on the descriptor and the timer of each. -/
  waits : Nat → List Wait
  /-- Handlers posted to the io_service, oldest first. -/
  posted : List (Nat × Completion)
  /-- Handlers invoked, oldest first. -/
  invoked : List (Nat × Completion)
  /-- The number of the next operation of each connector. -/
  next : Nat → Nat

inductive SharedAction where
  | initiate (k : Nat) (r : Request)
  /-- The `n`th wait of connector `k` completes with a code. -/
  | fire (k n : Nat) (ec : ErrorCode)
  /-- The io_service invokes the oldest posted handler. -/
  | deliver
  | cancel (k : Nat)
  | close (k : Nat)
  | call (k : Nat) (ec : ErrorCode) (op : Operation)
  deriving DecidableEq, Repr

/-- What the caller does to connector `k` by an action. -/
def SharedAction.on (k : Nat) : SharedAction → List Action
  | .initiate j r => if j = k then [.initiate r] else []
  | .cancel j => if j = k then [.cancel] else []
  | .close j => if j = k then [.close] else []
  | .call j ec op => if j = k then [.call ec op] else []
  | .fire .. | .deliver => []

/-- The actions of a connector that are the caller's. -/
def Action.called : Action → List Action
  | .fire .. | .deliver => []
  | a => [a]

namespace SharedWorld

def start (impls : Nat → MariadbImplementation M) : SharedWorld M :=
  ⟨impls, fun _ => [], [], [], fun _ => 0⟩

variable (L : Library M) (s : SharedWorld M)

def update (k : Nat) (i : MariadbImplementation M) : SharedWorld M :=
  { s with impls := Function.update s.impls k i }

def count (k : Nat) : SharedWorld M := { s with next := Function.update s.next k (s.next k + 1) }

def settle (k id : Nat) : Turn M Handler → SharedWorld M
  | .wait i h on =>
    { s.update k i with waits := Function.update s.waits k (s.waits k ++ [⟨id, h, on⟩]) }
  | .dropped i => s.update k i
  | .invoke i o => { s.update k i with invoked := s.invoked ++ [(k, ⟨id, o⟩)] }
  | .assertion | .spinning => s

def initiate (k : Nat) (r : Request) : SharedWorld M :=
  match MariadbService.initiate L (s.impls k) r with
  | .posted i o => count { s.update k i with posted := s.posted ++ [(k, ⟨s.next k, o⟩)] } k
  | .ran t => (s.count k).settle k (s.next k) t

def step : SharedAction → Option (SharedWorld M)
  | .initiate k r => some (s.initiate L k r)
  | .fire k n ec => match (s.waits k)[n]? with
    | none => none
    | some x =>
      some (settle { s with waits := Function.update s.waits k ((s.waits k).eraseIdx n) } k x.id
        (x.handler.call L (s.impls k) ec x.on.status))
  | .deliver => match s.posted with
    | [] => none
    | c :: cs => some { s with posted := cs, invoked := s.invoked ++ [c] }
  | .cancel k => some (s.update k ((s.impls k).update (s.impls k).cancel))
  | .close k => some (s.update k (if (s.impls k).initialized then (s.impls k).close L else s.impls k))
  | .call k ec op =>
    some (s.update k ((s.impls k).update (perform .mariadb L (s.impls k).toImplementation ec op).1))

variable {L s} {s' : SharedWorld M} {k j : Nat}

theorem step_fire {n : Nat} {ec : ErrorCode} (h : s.step L (.fire k n ec) = some s') :
    ∃ x, (s.waits k)[n]? = some x ∧
      s' = settle { s with waits := Function.update s.waits k ((s.waits k).eraseIdx n) } k x.id
        (x.handler.call L (s.impls k) ec x.on.status) := by
  simp only [step] at h
  cases hx : (s.waits k)[n]? with
  | none => rw [hx] at h; cases h
  | some x =>
    rw [hx] at h
    exact ⟨x, rfl, (Option.some_inj.mp h).symm⟩

theorem step_deliver (h : s.step L .deliver = some s') : ∃ k c cs, s.posted = (k, c) :: cs ∧
    s' = { s with posted := cs, invoked := s.invoked ++ [(k, c)] } := by
  simp only [step] at h
  cases hp : s.posted with
  | nil => rw [hp] at h; cases h
  | cons p cs =>
    rw [hp] at h
    exact ⟨p.1, p.2, cs, rfl, (Option.some_inj.mp h).symm⟩

/-! ## What one connector sees -/

/-- Connector `k` with its waits and what the io_service has for it. -/
def view (s : SharedWorld M) (k : Nat) : World M :=
  ⟨s.impls k, s.waits k, restrict k s.posted, restrict k s.invoked, s.next k⟩

/-- What an action is for connector `k`. -/
def sees (k : Nat) (s : SharedWorld M) : SharedAction → List Action
  | .initiate j r => if j = k then [.initiate r] else []
  | .fire j n ec => if j = k then [.fire n ec] else []
  | .deliver => if s.posted.head?.map Prod.fst = some k then [.deliver] else []
  | .cancel j => if j = k then [.cancel] else []
  | .close j => if j = k then [.close] else []
  | .call j ec op => if j = k then [.call ec op] else []

@[simp] theorem view_start (impls : Nat → MariadbImplementation M) (k : Nat) :
    (start impls).view k = .start (impls k) := rfl

theorem view_update (i : MariadbImplementation M) :
    (s.update j i).view k = if j = k then { s.view k with impl := i } else s.view k := by
  by_cases h : j = k
  · subst h
    simp [view, update]
  · simp [view, update, h, Ne.symm h]

theorem view_count :
    (s.count j).view k = if j = k then { s.view k with next := s.next k + 1 } else s.view k := by
  by_cases h : j = k
  · subst h
    simp [view, count]
  · simp [view, count, h, Ne.symm h]

theorem view_settle (id : Nat) (t : Turn M Handler) :
    (s.settle j id t).view k = if j = k then (s.view k).settle id t else s.view k := by
  by_cases h : j = k
  · subst h
    cases t <;> simp [view, settle, update, World.settle]
  · cases t <;> simp [view, settle, update, h, Ne.symm h, restrict_other h]

/-- **A connector's initiating call is its own.** -/
theorem view_initiate (r : Request) :
    (s.initiate L j r).view k = if j = k then (s.view k).initiate L r else s.view k := by
  by_cases h : j = k
  · subst h
    rw [if_pos rfl]
    have hview : (s.view j).impl = s.impls j := rfl
    simp only [initiate, World.initiate, hview]
    cases MariadbService.initiate L (s.impls j) r with
    | posted i o => simp [view, count, update]
    | ran t =>
      rw [view_settle, if_pos rfl, view_count, if_pos rfl]
      rfl
  · rw [if_neg h]
    simp only [initiate]
    cases MariadbService.initiate L (s.impls j) r with
    | posted i o => simp [view, count, update, Ne.symm h, restrict_other h]
    | ran t => simp [view_settle, view_count, h]

theorem view_fire {n : Nat} {ec : ErrorCode} (hstep : s.step L (.fire j n ec) = some s') :
    (s.view j).step L (.fire n ec) = some (s'.view j) ∧ ∀ k, j ≠ k → s'.view k = s.view k := by
  obtain ⟨x, hx, rfl⟩ := step_fire hstep
  refine ⟨?_, fun k h => ?_⟩
  · have hw : (s.view j).waits[n]? = some x := hx
    simp only [World.step, hw, view_settle, if_true]
    simp [view]
  · rw [view_settle, if_neg h]
    simp [view, Ne.symm h]

theorem view_deliver {x : Completion} {cs : List (Nat × Completion)}
    (hp : s.posted = (j, x) :: cs) (hstep : s.step L .deliver = some s') :
    (s.view j).step L .deliver = some (s'.view j) ∧ ∀ k, j ≠ k → s'.view k = s.view k := by
  obtain ⟨k, c, cs', hp', rfl⟩ := step_deliver hstep
  obtain ⟨heq, rfl⟩ := List.cons.inj (hp.symm.trans hp')
  obtain ⟨rfl, rfl⟩ := Prod.mk.inj heq
  refine ⟨by simp [World.step, view, hp], fun k h => ?_⟩
  simp [view, hp, restrict_other h]

/-- **A step of the io_service is a step of one connector.** -/
theorem step_view {ok : World M → Action → Prop} {a : SharedAction}
    (hstep : s.step L a = some s') (k : Nat) (hok : ∀ b ∈ sees k s a, ok (s.view k) b) :
    Run (World.step L) ok (s.view k) (sees k s a) (s'.view k) := by
  -- a step of connector `j` itself, seen by connector `k`
  have hown : ∀ {j : Nat} {b : Action}, sees k s a = (if j = k then [b] else []) →
      (s.view j).step L b = some (s'.view j) → (∀ k, j ≠ k → s'.view k = s.view k) →
      Run (World.step L) ok (s.view k) (sees k s a) (s'.view k) := by
    intro j b hs hself hother
    rw [hs] at hok ⊢
    by_cases h : j = k
    · subst h
      rw [if_pos rfl] at hok ⊢
      exact .single (hok b (by simp)) hself
    · rw [if_neg h, hother k h]
      exact .start
  have hset : ∀ {j : Nat} {b : Action} (f : MariadbImplementation M → MariadbImplementation M),
      sees k s a = (if j = k then [b] else []) →
      (∀ w : World M, w.step L b = some { w with impl := f w.impl }) →
      some (s.update j (f (s.impls j))) = some s' →
      Run (World.step L) ok (s.view k) (sees k s a) (s'.view k) := by
    intro j b f hs hf hs'
    obtain rfl := Option.some_inj.mp hs'
    refine hown hs ?_ fun k h => by rw [view_update, if_neg h]
    rw [hf, view_update, if_pos rfl]
    rfl
  cases a with
  | initiate j r =>
    cases hstep
    refine hown rfl ?_ fun k h => by rw [view_initiate, if_neg h]
    rw [view_initiate, if_pos rfl]
    rfl
  | fire j n ec =>
    obtain ⟨hself, hother⟩ := view_fire hstep
    exact hown rfl hself hother
  | deliver =>
    obtain ⟨j, c, cs, hp, -⟩ := step_deliver hstep
    obtain ⟨hself, hother⟩ := view_deliver hp hstep
    exact hown (by simp [sees, hp]) hself hother
  | cancel j => exact hset (fun i => i.update i.cancel) rfl (fun _ => rfl) hstep
  | close j => exact hset (fun i => if i.initialized then i.close L else i) rfl (fun _ => rfl) hstep
  | call j ec op =>
    exact hset (fun i => i.update (perform .mariadb L i.toImplementation ec op).1) rfl
      (fun _ => rfl) hstep

variable {impls : Nat → MariadbImplementation M} {as : List SharedAction}

/-- The steps of connector `k` in a run. -/
def seenBy (L : Library M) (impls : Nat → MariadbImplementation M) (k : Nat)
    (as : List SharedAction) : List Action :=
  seen (step L) (sees k) (start impls) as

/-- **Connectors that share an io_service do not know of each other.** A run of all
of them, whichever waits complete and in whatever order, is for each of them a run
of that connector alone, in which the caller does to it what it did, in order. -/
theorem connectors_alone (hrun : Run (step L) anyStep (start impls) as s) (k : Nat) :
    Run (World.step L) anyStep (.start (impls k)) (seenBy L impls k as) (s.view k) ∧
      (seenBy L impls k as).flatMap Action.called = as.flatMap (SharedAction.on k) := by
  refine ⟨?_, hrun.seen_flatMap fun u a => ?_⟩
  · rw [← view_start impls k]
    exact hrun.seen fun u a v _ hstep => step_view hstep k fun _ _ => trivial
  · cases a <;> first | rfl | (simp only [sees, SharedAction.on]; split_ifs <;> rfl)

/-- Two connectors whose queries are suspended: the second to start is resumed
first, and closed before the other is resumed. -/
theorem connectors_alone_two :
    let impls := fun _ : Nat => Script.openedMariadb
      { verdicts := [.batch (some Script.oneRow) [] 0], waits := [[⟨true, false, true⟩]] }
      defaultFlags
    ∃ s : SharedWorld Script,
      exec (step Script.library) (start impls)
        [.initiate 0 (.query "select 1"), .initiate 1 (.query "select 2"), .fire 1 0 .clear,
          .close 1, .initiate 1 .storeResult, .fire 0 0 .clear, .deliver] = some s ∧
      Run (World.step Script.library) anyStep (.start (impls 0))
        [.initiate (.query "select 1"), .fire 0 .clear] (s.view 0) ∧
      (s.invoked.map fun p => (p.1, p.2.outcome)) =
        [(1, ⟨.clear, none⟩), (0, ⟨.clear, none⟩), (1, ⟨.notInitialized, some .emptySet⟩)] := by
  intro impls
  have hexec : (exec (step Script.library) (start fun _ => Script.openedMariadb
        { verdicts := [.batch (some Script.oneRow) [] 0], waits := [[⟨true, false, true⟩]] }
        defaultFlags)
      [.initiate 0 (.query "select 1"), .initiate 1 (.query "select 2"), .fire 1 0 .clear,
        .close 1, .initiate 1 .storeResult, .fire 0 0 .clear, .deliver]).map
      (fun s => s.invoked.map fun p => (p.1, p.2.outcome)) =
        some [(1, ⟨.clear, none⟩), (0, ⟨.clear, none⟩), (1, ⟨.notInitialized, some .emptySet⟩)] := rfl
  obtain ⟨s, hs, hout⟩ := Option.map_eq_some_iff.mp hexec
  exact ⟨s, hs, (connectors_alone (run_of_exec (fun _ _ _ => trivial) hs) 0).1, hout⟩

end SharedWorld

end MariadbService

end Amy
