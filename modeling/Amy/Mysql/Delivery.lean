import Amy.Base.Leases
import Amy.Cancel
import Amy.Expiry

/-!
# Whether a result set is live when it is delivered

The worker posts a result set to the io_service and goes on with the next job.
`query` and `store_result` jobs free what `last_result` holds, so a set whose
handler was not invoked before the worker took such a job is delivered expired.
-/

namespace Amy

open Base

namespace MysqlService

variable {M : Type} {L : Library M} {i : Implementation M}

/-- The set was built from the native result at `p`. -/
def refers (x : ResultSet) (p : Nat) : Prop := x.resultSet = some p

/-- Operations that free what `last_result` holds. -/
def Request.frees : Request → Bool
  | .connect _ => false
  | .query _ | .storeResult => true

theorem Job.run_kept {j : Job} (h : (!j.expired i && j.request.frees) = false) :
    (j.run L i).impl.lastResult = i.lastResult := by
  cases hfresh : j.expired i with
  | true => rw [Job.run_expired hfresh]
  | false =>
    rw [hfresh, Bool.not_false, Bool.true_and] at h
    unfold Job.run
    rw [if_neg (by simp [hfresh])]
    cases hr : j.request with
    | connect c => rfl
    | query s => rw [hr] at h; cases h
    | storeResult => rw [hr] at h; cases h

theorem Job.run_refers {j : Job} {x : ResultSet} (hx : (j.run L i).outcome.rs = some x) {p : Nat}
    (hp : refers x p) : (j.run L i).impl.lastResult.map MysqlRes.ptr = some p := by
  unfold Job.run at hx ⊢
  split_ifs at hx ⊢
  · cases hr : j.request <;> rw [hr] at hx <;> cases hx
    cases hp
  · cases hr : j.request with
    | connect c => rw [hr] at hx; cases hx
    | query s => rw [hr] at hx; cases hx
    | storeResult =>
      simp only [hr, storeResultHandler_eq] at hx ⊢
      obtain rfl := Option.some_inj.mp hx
      exact Service.storeResult_refers hp

namespace World

variable {w w' : World M} {as : List Action}

/-- Queued operations only, and the worker takes a job that frees only while no
handler on its way holds a native result. -/
def Timely (w : World M) : Action → Prop
  | .initiate _ | .deliver => True
  | .work => (w.work.head?.any fun j => j.request.frees) = true →
      ∀ x ∈ sets w.io, x.resultSet = none
  | .cancel | .close | .call _ _ => False

instance (w : World M) : (a : Action) → Decidable (w.Timely a)
  | .initiate _ | .deliver => .isTrue trivial
  | .work => inferInstanceAs (Decidable (_ → _))
  | .cancel | .close | .call _ _ => .isFalse id

theorem initiate_last (L : Library M) (w : World M) (r : Request) :
    (w.initiate L r).impl.lastResult = w.impl.lastResult := by
  obtain ⟨j, -, hl, ⟨o, -, heq⟩ | ⟨-, heq⟩⟩ := initiate_cases L w r
  · rw [heq]
    exact hl
  · rw [heq]
    exact hl

theorem initiate_sets (L : Library M) (w : World M) (r : Request) {x : ResultSet}
    (hx : x ∈ sets (w.initiate L r).io) : x ∈ sets w.io ∨ x = .emptySet := by
  obtain ⟨j, -, -, ⟨o, ho, heq⟩ | ⟨-, heq⟩⟩ := initiate_cases L w r
  · rw [heq, postHandler, sets_append] at hx
    exact (List.mem_append.mp hx).imp_right fun hx => ho x (mem_sets_single.mp hx)
  · rw [heq] at hx
    exact .inl hx

theorem leased_step {a : Action}
    (h : Leased refers (w.impl.lastResult.map MysqlRes.ptr) (sets w.io)) (hok : w.Timely a)
    (hstep : w.step L a = some w') :
    Leased refers (w'.impl.lastResult.map MysqlRes.ptr) (sets w'.io) := by
  cases a with
  | initiate r =>
    cases hstep
    refine h.step (.inl (by rw [initiate_last])) fun x hx => ?_
    rcases initiate_sets L w r hx with hx | rfl
    · exact .inl hx
    · exact .inr fun p hp => by cases hp
  | work =>
    obtain ⟨j, js, hw, rfl⟩ := World.step_work hstep
    refine h.step ?_ fun x hx => ?_
    · cases hfrees : j.request.frees with
      | true =>
        refine .inr fun x hx p hp => ?_
        have hnone : x.resultSet = none := hok (by simp [hw, hfrees]) x hx
        exact Option.some_ne_none p (hp.symm.trans hnone)
      | false => exact .inl (congrArg _ (Job.run_kept (by simp [hfrees])))
    · rw [sets_append] at hx
      rcases List.mem_append.mp hx with hx | hx
      · exact .inl hx
      · exact .inr fun p hp => Job.run_refers (mem_sets_single.mp hx) hp
  | deliver =>
    obtain ⟨c, cs, hio, rfl⟩ := World.step_deliver hstep
    rw [hio] at h
    exact h.sub (List.filterMap_subset _ (List.subset_cons_self c cs))
  | cancel => exact hok.elim
  | close => exact hok.elim
  | call ec op => exact hok.elim

end World

/-- **A result set is live when it is delivered**, in runs that free nothing
while one is on its way. -/
theorem delivered_live {as : List Action} {w : World M}
    (hrun : Run (World.step L) World.Timely (.start i) as w) {c : Completion}
    {cs : List Completion} (hio : w.io = c :: cs) {x : ResultSet} (hx : c.outcome.rs = some x)
    {p : Nat} (hp : x.resultSet = some p) : x.expired w.impl = false := by
  have hleased : Leased refers (w.impl.lastResult.map MysqlRes.ptr) (sets w.io) :=
    hrun.invariant (.nil _ _) fun _ _ _ h hok hstep => World.leased_step h hok hstep
  exact ResultSet.expired_eq_false hp (hleased x (mem_sets (by simp [hio]) hx) p hp)

end MysqlService

namespace Script

/-- A query with a row set, and one without. -/
def rowsThenNone : Script := { verdicts := [.batch (some oneRow) [] 0, .batch none [] 0] }

/-- A query is queued behind the `store_result` of another. -/
def queuedBehind : List MysqlService.Action :=
  [.initiate (.connect (login defaultFlags)), .initiate (.query "select 1"),
    .initiate .storeResult, .initiate (.query "do 1")]

end Script

namespace MysqlService

theorem delivered_live_timely :
    ∃ w : World Script,
      exec (World.step Script.library) (.start (.construct Script.rowsThenNone))
        (Script.queuedBehind ++ [.work, .work, .work, .deliver, .deliver]) = some w ∧
      w.io = [⟨2, .client 0, some (.ofRes Script.oneRow.val)⟩] ∧
      (ResultSet.ofRes Script.oneRow.val).expired w.impl = false := by
  obtain ⟨w, hw, hio⟩ : ∃ w : World Script,
      exec (allowed (World.step Script.library) World.Timely)
        (.start (.construct Script.rowsThenNone))
        (Script.queuedBehind ++ [.work, .work, .work, .deliver, .deliver]) = some w ∧
      w.io = [⟨2, .client 0, some (.ofRes Script.oneRow.val)⟩] := ⟨_, rfl, rfl⟩
  have hrun := run_of_exec_allowed hw
  exact ⟨w, hrun.exec, hio, delivered_live hrun hio rfl rfl⟩

/-- The worker does not wait: the handler of `store_result` is called, without an
error, with a set whose rows are freed. -/
theorem delivered_expired :
    ∃ w : World Script,
      Run (World.step Script.library) anyStep (.start (.construct Script.rowsThenNone))
        (Script.queuedBehind ++ [.work, .work, .work, .work, .deliver, .deliver]) w ∧
      w.io.head? = some ⟨2, .client 0, some (.ofRes Script.oneRow.val)⟩ ∧
      (ResultSet.ofRes Script.oneRow.val).resultSet = some 1 ∧
      (ResultSet.ofRes Script.oneRow.val).expired w.impl = true := by
  obtain ⟨w, hw, h⟩ : ∃ w : World Script,
      exec (World.step Script.library) (.start (.construct Script.rowsThenNone))
        (Script.queuedBehind ++ [.work, .work, .work, .work, .deliver, .deliver]) = some w ∧
      w.io.head? = some ⟨2, .client 0, some (.ofRes Script.oneRow.val)⟩ ∧
      (ResultSet.ofRes Script.oneRow.val).resultSet = some 1 ∧
      (ResultSet.ofRes Script.oneRow.val).expired w.impl = true := ⟨_, rfl, rfl, rfl, rfl⟩
  exact ⟨w, run_of_exec (fun _ _ _ => trivial) hw, h⟩

end MysqlService

end Amy
