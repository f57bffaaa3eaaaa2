import Amy.Mysql.Queue
import Amy.Talk
import Amy.Script
import Amy.Base.Pipeline

/-!
# Queued operations run in order

Without `cancel` and `close` the two queues are a `Base.Pipe`: whatever the
interleaving, the connector and the handlers see the blocking calls made one
after the other in initiation order.
-/

namespace Amy

namespace MysqlService

open Base

variable {M : Type} {L : Library M} {i : Implementation M}

def Queued : World M → Action → Prop
  | _, .initiate _ | _, .work | _, .deliver => True
  | _, _ => False

def Action.requested : Action → List Request
  | .initiate r => [r]
  | _ => []

def requests (as : List Action) : List Request := as.flatMap Action.requested

theorem requests_snoc (as : List Action) (a : Action) :
    requests (as ++ [a]) = requests as ++ a.requested := by
  simp [requests]

/-- A blocking call as a job. -/
def blockingJob (L : Library M) (i : Implementation M) (r : Request) :
    Implementation M × Outcome :=
  ((blocking L i r).impl, (blocking L i r).outcome)

def sequential (L : Library M) (i : Implementation M) (rs : List Request) :
    Implementation M × List Outcome :=
  runSeq (blockingJob L) i rs

def numberedJob (L : Library M) (i : Implementation M) (p : Nat × Request) :
    Implementation M × Completion :=
  ((blockingJob L i p.2).1, ⟨p.1, (blockingJob L i p.2).2⟩)

def numbered (rs : List Request) : List (Nat × Request) := (List.range rs.length).zip rs

theorem numbered_snoc (rs : List Request) (r : Request) :
    numbered (rs ++ [r]) = numbered rs ++ [(rs.length, r)] := by
  simp [numbered, List.range_succ, List.zip_append]

theorem runSeq_numbered {ts : List Nat} {rs : List Request} (h : ts.length = rs.length) :
    runSeq (numberedJob L) i (ts.zip rs) =
      ((sequential L i rs).1, (ts.zip (sequential L i rs).2).map fun p => ⟨p.1, p.2⟩) :=
  runSeq_tag (blockingJob L) Completion.mk i h

/-- The queues of a connector as a pipeline of numbered jobs. -/
def World.pipe (w : World M) : Pipe (Implementation M) (Nat × Request) Completion :=
  ⟨w.impl, w.work.map fun j => (j.id, j.request), w.io, w.invoked⟩

/-- What a run without cancelations keeps. -/
structure InOrder (L : Library M) (i : Implementation M) (rs : List Request) (w : World M) :
    Prop where
  opened : w.impl.initialized = true
  fresh : ∀ j ∈ w.work, j.token = w.impl.cancelationToken
  next : w.next = rs.length
  fed : ∃ ran, Fed (numberedJob L) i (numbered rs) w.pipe ran

/-- A blocking call keeps the token and does not close. -/
theorem blocking_moves (L : Library M) (i : Implementation M) (r : Request) :
    Moves i (blocking L i r).impl none none 0 := by
  cases r with
  | connect c => simpa [blocking] using connect_moves L i .clear c
  | query stmt => simpa [blocking] using query_moves L i .clear stmt
  | storeResult => simpa [blocking] using storeResult_moves L i .clear

theorem World.initiate_open {w : World M} (h : w.impl.initialized = true) (r : Request) :
    w.initiate L r = w.post r := by
  cases r <;> simp [World.initiate, World.asyncConnect, World.asyncQuery, World.asyncStoreResult, h]

theorem InOrder.step {rs : List Request} {w w' : World M} {a : Action} (h : InOrder L i rs w)
    (hok : Queued w a) (hstep : w.step L a = some w') :
    InOrder L i (rs ++ a.requested) w' := by
  obtain ⟨hopen, hfresh, hnext, ran, hfed⟩ := h
  cases a with
  | initiate r =>
    simp only [World.step, World.initiate_open hopen, Option.some.injEq] at hstep
    subst hstep
    refine ⟨hopen, ?_, by simp [World.post, hnext, Action.requested], ran, ?_⟩
    · intro j hj
      rcases List.mem_append.mp hj with hj | hj
      · exact hfresh j hj
      · rw [List.mem_singleton.mp hj]
        rfl
    · rw [Action.requested, numbered_snoc, ← hnext]
      simpa [World.pipe, World.post] using hfed.submit (w.next, r)
  | work =>
    obtain ⟨j, js, hw, rfl⟩ := World.step_work hstep
    rw [hw] at hfresh
    have hrun : j.run L w.impl = blocking L w.impl j.request :=
      Job.run_eq_blocking (hfresh j (by simp)) hopen
    rw [hrun]
    have hm := blocking_moves L w.impl j.request
    refine ⟨hm.opened hopen, ?_, by simpa [Action.requested] using hnext,
      ran ++ [(j.id, j.request)], ?_⟩
    · intro k hk
      exact (hfresh k (by simp [hk])).trans hm.token.symm
    · have hjobs : w.pipe.jobs = (j.id, j.request) :: js.map fun j => (j.id, j.request) := by
        simp [World.pipe, hw]
      have := hfed.work hjobs
      simpa [World.pipe, numberedJob, blockingJob, Action.requested] using this
  | deliver =>
    obtain ⟨c, cs, hio, rfl⟩ := World.step_deliver hstep
    refine ⟨hopen, hfresh, by simpa [Action.requested] using hnext, ran, ?_⟩
    have hdone : w.pipe.done = c :: cs := hio
    simpa [World.pipe, Action.requested] using hfed.deliver hdone
  | cancel => exact absurd hok (by simp [Queued])
  | close => exact absurd hok (by simp [Queued])
  | call ec op => exact absurd hok (by simp [Queued])

theorem inOrder_of_run {as : List Action} {w : World M} (hopen : i.initialized = true)
    (hrun : Run (World.step L) Queued (.start i) as w) : InOrder L i (requests as) w :=
  hrun.invariantAlong (I := fun as w => InOrder L i (requests as) w)
    ⟨hopen, by simp [World.start], rfl, [], .start i⟩
    fun as w a w' h hok hstep => by rw [requests_snoc]; exact h.step hok hstep

/-- **Queued operations are the blocking ones, in order.** In every state of
every interleaving the connector is as some first operations, made blocking,
left it (native calls included), and the handlers invoked so far are those of
the first operations, in order, each once, with the outcomes of the blocking
calls; once both queues are empty this is all operations. -/
theorem queued_in_order {as : List Action} {w : World M} (hopen : i.initialized = true)
    (hrun : Run (World.step L) Queued (.start i) as w) :
    (∃ k, w.impl = (sequential L i ((requests as).take k)).1) ∧
      w.invoked.map Completion.id = List.range w.invoked.length ∧
      w.invoked.map Completion.outcome <+: (sequential L i (requests as)).2 ∧
      (w.work = [] → w.io = [] →
        w.impl = (sequential L i (requests as)).1 ∧
        w.invoked.map Completion.outcome = (sequential L i (requests as)).2 ∧
        w.invoked.length = (requests as).length) := by
  obtain ⟨-, -, -, ran, hfed⟩ := inOrder_of_run hopen hrun
  set rs := requests as
  have hlen : (sequential L i rs).2.length = rs.length := runSeq_length i rs
  have hall : runSeq (numberedJob L) i (numbered rs) = _ := runSeq_numbered (by simp)
  have hids : (runSeq (numberedJob L) i (numbered rs)).2.map Completion.id =
      List.range rs.length := by
    rw [hall, List.map_map]
    exact List.map_fst_zip (by simp [hlen])
  have houts : (runSeq (numberedJob L) i (numbered rs)).2.map Completion.outcome =
      (sequential L i rs).2 := by
    rw [hall, List.map_map]
    exact List.map_snd_zip (by simp [hlen])
  have hpre : w.invoked <+: (runSeq (numberedJob L) i (numbered rs)).2 := hfed.out_prefix
  refine ⟨⟨ran.length, ?_⟩, ?_, ?_, ?_⟩
  · -- the operations that left the work queue are the first `ran.length`
    have hran : ran = ((List.range rs.length).take ran.length).zip (rs.take ran.length) := by
      rw [List.zip_eq_zipWith, ← List.take_zipWith, ← List.zip_eq_zipWith]
      exact List.prefix_iff_eq_take.mp ⟨_, hfed.split.symm⟩
    have := hfed.world
    rw [hran, runSeq_numbered (by simp)] at this
    exact this
  · have := hpre.map Completion.id
    rw [hids] at this
    have hle : w.invoked.length ≤ rs.length := by simpa using this.length_le
    rw [List.prefix_iff_eq_take.mp this, List.length_map, List.take_range, Nat.min_eq_left hle]
  · rw [← houts]
    exact hpre.map Completion.outcome
  · intro hw hio
    have hdone := hfed.emptied (by simp [World.pipe, hw]) (by simp [World.pipe, hio])
    have himpl : w.impl = _ := congrArg Prod.fst hdone
    have hinv : w.invoked = _ := congrArg Prod.snd hdone
    refine ⟨by rw [himpl, hall], by rw [hinv, houts], ?_⟩
    rw [hinv, ← List.length_map (f := Completion.id), hids, List.length_range]

theorem queued_in_order_query :
    let i := Script.opened { verdicts := [.batch (some Script.oneRow) [] 0] } defaultFlags
    ∃ w : World Script, w.work = [] ∧ w.io = [] ∧
      w.invoked = [⟨0, .clear, none⟩, ⟨1, .client 0, some (.ofRes Script.oneRow.val)⟩] ∧
      w.impl = (sequential Script.library i [.query "select 1", .storeResult]).1 := by
  intro i
  have hexec : ∃ w, exec (World.step Script.library) (.start i)
      [.initiate (.query "select 1"), .initiate .storeResult, .work, .deliver, .work, .deliver] =
        some w ∧ w.work = [] ∧ w.io = [] ∧
      w.invoked = [⟨0, .clear, none⟩, ⟨1, .client 0, some (.ofRes Script.oneRow.val)⟩] :=
    ⟨_, rfl, rfl, rfl, by decide⟩
  obtain ⟨w, hw, hwork, hio, hinv⟩ := hexec
  have hrun : Run (World.step Script.library) Queued (.start i) _ w :=
    run_of_exec (by simp [Queued]) hw
  exact ⟨w, hwork, hio, hinv, ((queued_in_order rfl hrun).2.2.2 hwork hio).1⟩

end MysqlService

end Amy
