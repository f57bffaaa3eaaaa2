import Mathlib.Data.List.Basic

/-!
# A FIFO pipeline runs its jobs in order

Clients submit jobs to a queue, one worker takes them off in order and runs
`exec`, and the outputs go through a second queue to their receiver. `Fed` is
the invariant that ties a pipeline to the sequential fold `runSeq` over the
jobs submitted so far; submitting, working and delivering keep it
(`Fed.submit`, `Fed.work`, `Fed.deliver`), and an emptied pipeline has done
exactly the fold (`Fed.emptied`).
-/

namespace Amy.Base

variable {σ ι ο : Type} {exec : σ → ι → σ × ο}

/-- The jobs run one after the other: final state and outputs. -/
def runSeq (exec : σ → ι → σ × ο) : σ → List ι → σ × List ο
  | s, [] => (s, [])
  | s, j :: js =>
    let r := exec s j
    let q := runSeq exec r.1 js
    (q.1, r.2 :: q.2)

@[simp] theorem runSeq_nil (s : σ) : runSeq exec s [] = (s, []) := rfl

theorem runSeq_append (s : σ) (js ks : List ι) :
    runSeq exec s (js ++ ks) =
      ((runSeq exec (runSeq exec s js).1 ks).1,
        (runSeq exec s js).2 ++ (runSeq exec (runSeq exec s js).1 ks).2) := by
  induction js generalizing s with
  | nil => simp
  | cons j js ih => simp [runSeq, ih]

theorem runSeq_length (s : σ) (js : List ι) : (runSeq exec s js).2.length = js.length := by
  induction js generalizing s with
  | nil => rfl
  | cons j js ih => simp [runSeq, ih]

/-- Jobs that carry a tag their output keeps. -/
theorem runSeq_tag {τ κ : Type} (exec : σ → ι → σ × ο) (tag : τ → ο → κ) (s : σ) {ts : List τ} {js : List ι}
    (hlen : ts.length = js.length) :
    runSeq (fun s (p : τ × ι) => ((exec s p.2).1, tag p.1 (exec s p.2).2)) s (ts.zip js) =
      ((runSeq exec s js).1, (ts.zip (runSeq exec s js).2).map fun p => tag p.1 p.2) := by
  induction js generalizing s ts with
  | nil => obtain rfl := List.length_eq_zero_iff.mp hlen; rfl
  | cons j js ih =>
    match ts, hlen with
    | t :: ts, hlen => simp [runSeq, ih _ (Nat.succ.inj hlen)]

structure Pipe (σ ι ο : Type) where
  /-- What the jobs work on. -/
  world : σ
  /-- Submitted, not run yet. -/
  jobs : List ι
  /-- Run, not delivered yet. -/
  done : List ο
  /-- Delivered, oldest first. -/
  out : List ο

/-- The jobs that left the job queue ran in submission order from `s`. -/
structure Fed (exec : σ → ι → σ × ο) (s : σ) (submitted : List ι) (p : Pipe σ ι ο)
    (ran : List ι) : Prop where
  split : submitted = ran ++ p.jobs
  world : p.world = (runSeq exec s ran).1
  outputs : p.out ++ p.done = (runSeq exec s ran).2

variable {s : σ} {submitted ran : List ι} {p : Pipe σ ι ο}

theorem Fed.start (s : σ) : Fed exec s [] ⟨s, [], [], []⟩ [] := ⟨rfl, rfl, rfl⟩

theorem Fed.submit (h : Fed exec s submitted p ran) (j : ι) :
    Fed exec s (submitted ++ [j]) { p with jobs := p.jobs ++ [j] } ran :=
  ⟨by simp [h.split], h.world, h.outputs⟩

theorem Fed.work (h : Fed exec s submitted p ran) {j : ι} {js : List ι} (hj : p.jobs = j :: js) :
    Fed exec s submitted
      { p with world := (exec p.world j).1, jobs := js, done := p.done ++ [(exec p.world j).2] }
      (ran ++ [j]) := by
  refine ⟨by simp [h.split, hj], ?_, ?_⟩
  · simp [runSeq_append, runSeq, h.world]
  · rw [← List.append_assoc, h.outputs]
    simp [runSeq_append, runSeq, h.world]

theorem Fed.deliver (h : Fed exec s submitted p ran) {o : ο} {os : List ο} (ho : p.done = o :: os) :
    Fed exec s submitted { p with done := os, out := p.out ++ [o] } ran :=
  ⟨h.split, h.world, by have := h.outputs; simp_all⟩

/-- **An emptied pipeline has run everything in order.** -/
theorem Fed.emptied (h : Fed exec s submitted p ran) (hj : p.jobs = []) (hd : p.done = []) :
    (p.world, p.out) = runSeq exec s submitted := by
  have hr : submitted = ran := by simpa [hj] using h.split
  have ho : p.out = (runSeq exec s ran).2 := by simpa [hd] using h.outputs
  rw [hr, h.world, ho]

theorem Fed.out_prefix (h : Fed exec s submitted p ran) : p.out <+: (runSeq exec s submitted).2 := by
  refine ⟨p.done ++ (runSeq exec (runSeq exec s ran).1 p.jobs).2, ?_⟩
  rw [h.split, runSeq_append, ← List.append_assoc, h.outputs]

end Amy.Base
