import Amy.Changes
import Amy.Base.Owners
import Mathlib.Algebra.Order.BigOperators.Group.List
import Mathlib.Algebra.Order.Group.Nat

/-!
# Who owns a native result

`last_result` is the one owner of the results the library returns: the results
are `Base.Owners` things, issued by the store calls, held in `last_result` and
released by `mysql_free_result`. Every effect keeps this, so every step of
either service does.

`Tally L returned`: `returned m` lists the results the library has returned
through the handle, every one of them new.
-/

namespace Amy

open Base

variable {M : Type} {L : Library M} {P : Call → Prop} {returned : M → List MysqlRes}
  {i j : Implementation M}

structure Tally (L : Library M) (returned : M → List MysqlRes) : Prop where
  stores : ∀ {c m r m'}, L.Stores c m r m' →
    returned m' = returned m ++ r.toList ∧ ∀ x ∈ r, x.ptr ∉ (returned m).map MysqlRes.ptr
  makes : ∀ {c m m'}, L.Makes c m m' → returned m' = returned m
  connects : ∀ {args c m m'}, L.Connects args c m m' → returned m' = returned m
  connectCont : ∀ w m, returned (L.connectCont w m).st = returned m
  init : ∀ {m m'}, L.init m = some m' → returned m' = returned m
  close : ∀ m, returned (L.close m) = returned m
  fetchNull : ∀ r m, returned (L.fetchNull r m) = returned m

/-! ## Frees -/

def Call.freed? : Call → Option Nat
  | .freeResult ptr => some ptr
  | _ => none

/-- What `mysql_free_result` was called on, oldest first. -/
def Implementation.freed (i : Implementation M) : List Nat := i.mysql.calls.filterMap Call.freed?

theorem Call.freed_reads {c : Call} (h : c.reads = true) : c.freed? = none := by
  cases c <;> first | rfl | cases h

theorem Library.Makes.freed {c : Call} {m m' : M} (h : L.Makes c m m') : c.freed? = none := by
  cases h <;> rfl

theorem Library.Stores.freed {c : Call} {r : Option MysqlRes} {m m' : M}
    (h : L.Stores c m r m') : c.freed? = none := by
  cases h <;> rfl

theorem Library.Connects.freed {args : ConnectArgs} {c : Call} {m m' : M}
    (h : L.Connects args c m m') : c.freed? = none := by
  cases h <;> rfl

theorem Implementation.freed_resetResult (i : Implementation M) (p : Option MysqlRes) :
    (i.resetResult p).freed = i.freed ++ (i.lastResult.map MysqlRes.ptr).toList := by
  unfold Implementation.resetResult Implementation.freed
  cases i.lastResult with
  | none => simp
  | some r => simp [Call.freed?]

/-! ## Every effect keeps the books -/

/-- The results returned, freed and held. -/
def Owned (returned : M → List MysqlRes) (i : Implementation M) : Prop :=
  Owners MysqlRes.ptr (returned i.mysql.st) i.freed i.lastResult

namespace Owned

theorem congr (h : Owned returned i) (hr : returned j.mysql.st = returned i.mysql.st)
    (hf : j.freed = i.freed) (hl : j.lastResult = i.lastResult) : Owned returned j := by
  unfold Owned
  rw [hr, hf, hl]
  exact h

theorem called (h : Owned returned i) {c : Call} (hc : c.freed? = none) {st : M}
    (hr : returned st = returned i.mysql.st) {j : Implementation M}
    (hj : j.mysql = i.mysql.call c st) (hl : j.lastResult = i.lastResult) : Owned returned j :=
  h.congr (by rw [hj]; exact hr) (by simp [Implementation.freed, hj, hc]) hl

theorem effect (h : Owned returned i) (hT : Tally L returned) {c : Option Call}
    (he : Effect L i c j) : Owned returned j := by
  cases he with
  | reads hc => exact h.called (Call.freed_reads hc) rfl rfl rfl
  | called hm => exact h.called hm.freed (hT.makes hm) rfl rfl
  | init _ hm => exact h.called (c := .init) rfl (hT.init hm) rfl rfl
  | initFailed _ _ => exact h.called (c := .init) rfl rfl rfl rfl
  | connects hm => exact h.called hm.freed (hT.connects hm) rfl rfl
  | connecting w hd => exact h.called (c := .cont _ w hd) rfl (hT.connectCont w _) rfl rfl
  | @stored c r st hs =>
    obtain ⟨hr, hnew⟩ := hT.stores hs
    have hfreed : ({ i with mysql := i.mysql.call c st } : Implementation M).freed = i.freed := by
      simp [Implementation.freed, hs.freed]
    unfold Owned
    rw [Implementation.resetResult_st, Implementation.freed_resetResult,
      Implementation.resetResult_last, hfreed, Mysql.call_st, hr]
    cases r with
    | none => simpa using Owners.release h
    | some r => exact Owners.give h (hnew r rfl)
  | unstored hs =>
    obtain ⟨hr, -⟩ := hT.stores hs
    exact h.called hs.freed (by simpa using hr) rfl rfl
  | free =>
    unfold Owned
    rw [Implementation.freeResult_st, Implementation.freeResult, Implementation.freed_resetResult,
      Implementation.resetResult_last]
    exact Owners.release h
  | @fetched r _ => exact h.congr (hT.fetchNull r _) rfl rfl
  | mark b => exact h.congr rfl rfl rfl

theorem cancel (h : Owned returned i) : Owned returned i.cancel := h.congr rfl rfl rfl

theorem close (h : Owned returned i) (hT : Tally L returned) : Owned returned (i.close L) := by
  have hclosed : Owned returned ({ (if i.initialized then
      { i with mysql := mysqlClose L i.mysql, initialized := false } else i) with
      firstResultStored := false } : Implementation M) := by
    split_ifs
    · exact h.called (c := .close) rfl (hT.close _) rfl rfl
    · exact h.congr rfl rfl rfl
  exact (hclosed.effect hT (.free (L := L))).cancel

end Owned

/-! ## Results returned stay returned -/

theorem Library.Steps.grows (hT : Tally L returned) {c : Call} {m m' : M}
    (h : L.Steps c m m') : returned m ⊆ returned m' := by
  cases h with
  | makes hm => rw [hT.makes hm]; exact List.Subset.refl _
  | stores hs => rw [(hT.stores hs).1]; exact List.subset_append_left _ _
  | connects hm => rw [hT.connects hm]; exact List.Subset.refl _
  | connecting args w h => rw [hT.connectCont]; exact List.Subset.refl _

theorem Effect.grows (hT : Tally L returned) {c : Option Call} (h : Effect L i c j) :
    returned i.mysql.st ⊆ returned j.mysql.st := by
  cases c with
  | none =>
    rcases h.rests with hst | ⟨r, hst⟩ <;> rw [hst]
    · exact List.Subset.refl _
    · rw [hT.fetchNull]; exact List.Subset.refl _
  | some c =>
    rcases h.steps with ⟨-, -, hinit | hst⟩ | hs
    · rw [hT.init hinit]; exact List.Subset.refl _
    · rw [hst]; exact List.Subset.refl _
    · exact hs.grows hT

theorem Change.owned (h : Change L P i j) (hT : Tally L returned) (hi : Owned returned i) :
    Owned returned j ∧ returned i.mysql.st ⊆ returned j.mysql.st := by
  cases h with
  | effects he =>
    exact he.invariant (I := fun k => Owned returned k ∧ returned i.mysql.st ⊆ returned k.mysql.st)
      ⟨hi, List.Subset.refl _⟩
      fun k c l ⟨hk, hg⟩ hkl _ => ⟨hk.effect hT hkl, List.Subset.trans hg (hkl.grows hT)⟩
  | cancel => exact ⟨hi.cancel, List.Subset.refl _⟩
  | close ho =>
    refine ⟨hi.close hT, ?_⟩
    simp [Implementation.close, Implementation.cancel, ho, mysqlClose, hT.close]

/-! ## Every step keeps them -/

/-- Calls that may return a result. -/
def Call.stores : Call → Bool
  | .storeResult | .start .storeResult _ | .cont .storeResult _ _ => true
  | _ => false

theorem Library.Stores.call {c : Call} {r : Option MysqlRes} {m m' : M} (h : L.Stores c m r m') :
    c.stores = true := by
  cases h <;> rfl

/-- The results are accounted for, and a connector that is not open holds none. -/
structure Kept (returned : M → List MysqlRes) (i : Implementation M) : Prop where
  owned : Owned returned i
  closed : i.initialized = false → i.lastResult = none

theorem Kept.effect (h : Kept returned i) (hT : Tally L returned) {c : Option Call}
    (he : Effect L i c j) (hopen : ∀ d, c = some d → d.stores = true → i.initialized = true) :
    Kept returned j := by
  refine ⟨h.owned.effect hT he, fun hj => ?_⟩
  have hi : i.initialized = false := Bool.eq_false_iff.mpr fun hi => by
    simp [he.opened hi] at hj
  cases he with
  | stored hs => simp [hopen _ rfl hs.call] at hi
  | free => simp
  | _ => exact h.closed hi

theorem Change.kept (h : Change L P i j) (hT : Tally L returned)
    (hopen : ∀ c, P c → c.stores = true → i.initialized = true) (hi : Kept returned i) :
    Kept returned j := by
  cases h with
  | effects he =>
    refine (he.invariant (I := fun k => Kept returned k ∧ (i.initialized = true → k.initialized = true))
      ⟨hi, id⟩ fun k c l ⟨hk, ho⟩ hkl hc => ⟨hk.effect hT hkl fun d hd hs => ?_, fun h => ?_⟩).1
    · exact ho (hopen d (hc d hd) hs)
    · exact hkl.opened (ho h)
  | cancel => exact ⟨hi.owned.cancel, hi.closed⟩
  | close ho =>
    refine ⟨hi.owned.close hT, fun _ => ?_⟩
    simp [Implementation.close, Implementation.cancel]

/-! ## Runs -/

/-- Between any two steps: every result returned is held and not freed, or freed
once and not held; nothing else is freed; a closed connector holds none. -/
structure OwnedOnce (returned : M → List MysqlRes) (i : Implementation M) : Prop where
  once : ∀ r ∈ returned i.mysql.st,
    (i.lastResult = some r ∧ i.freed.count r.ptr = 0) ∨
      (i.lastResult ≠ some r ∧ i.freed.count r.ptr = 1)
  only : ∀ p ∈ i.freed, i.freed.count p = 1 ∧ ∃ r ∈ returned i.mysql.st, r.ptr = p
  held : ∀ r, i.lastResult = some r → r ∈ returned i.mysql.st
  closed : i.initialized = false → i.lastResult = none

theorem Kept.once (h : Kept returned i) : OwnedOnce returned i := by
  refine ⟨fun r hr => h.owned.once hr, fun p hp => ⟨?_, h.owned.issued_of_released hp⟩,
    fun r hr => h.owned.held r hr, h.closed⟩
  have hle := h.owned.count_le_one p
  have hpos := List.count_pos_iff.mpr hp
  omega

theorem construct_kept {st : M} (h0 : returned st = []) : Kept returned (.construct st) := by
  refine ⟨?_, fun _ => rfl⟩
  unfold Owned
  rw [show returned (Implementation.construct st).mysql.st = [] from h0]
  exact .start MysqlRes.ptr

/-- The destructor: the service closes the connector, and `~implementation` does. -/
def Implementation.destroy (L : Library M) (i : Implementation M) : Implementation M :=
  (Service.close L i).close L

theorem Kept.destroy (h : Kept returned i) (hT : Tally L returned) :
    Kept returned (i.destroy L) := by
  have hclose : ∀ k : Implementation M, Kept returned k → Kept returned (k.close L) :=
    fun k hk => ⟨hk.owned.close hT, fun _ => by simp [Implementation.close, Implementation.cancel]⟩
  unfold Implementation.destroy Service.close
  split_ifs
  · exact hclose _ (hclose _ h)
  · exact hclose _ h

theorem destroy_last (L : Library M) (i : Implementation M) : (i.destroy L).lastResult = none := by
  simp [Implementation.destroy, Implementation.close, Implementation.cancel]

/-- Of the operations that store, only `store_result` is not guarded. -/
theorem Operation.makes_stores {op : Operation} {c : Call} (hc : op.makes i c)
    (hs : c.stores = true) (hok : op = .storeResult → i.initialized = true) :
    i.initialized = true := by
  cases op with
  | storeResult => exact hok rfl
  | queryResult s => exact hc.1
  | query s => exact hc.1
  | commit => exact hc.1
  | rollback => exact hc.1
  | connect r => rcases hc with rfl | rfl <;> cases hs
  | affectedRows => exact hc.elim
  | hasMoreResults => exact hc.elim
  | errorMessage e => exact hc.elim
  | «open» => rw [show c = .init from hc] at hs; cases hs
  | setOption o => rw [show c = .options o.option from hc] at hs; cases hs
  | autocommit b => rw [show c = .autocommit b from hc] at hs; cases hs

namespace MysqlService.World

variable {w w' : World M} {as : List Action}

/-- A blocking `store_result` is made while the connector is open only. -/
def StoresOpen (w : World M) (a : Action) : Prop :=
  ∀ ec, a = .call ec .storeResult → w.impl.initialized = true

theorem Marked.stores_open (h : w.Marked as) {a : Action} (hok : w.StoresOpen a) {c : Call}
    (hc : w.makes a c) (hs : c.stores = true) : w.impl.initialized = true := by
  cases a with
  | initiate r => rw [show c = .init from hc] at hs; cases hs
  | work =>
    obtain ⟨j, js, hw, hfresh, -⟩ := hc
    exact h.open_of_fresh (by simp [hw]) hfresh
  | call ec op => exact op.makes_stores hc hs fun hop => hok ec (by rw [hop])
  | deliver => exact hc.elim
  | cancel => exact hc.elim
  | close => exact hc.elim

theorem kept_of_run (hT : Tally L returned) {st : M} (h0 : returned st = [])
    (hrun : Run (World.step L) StoresOpen (.start (.construct st)) as w) : Kept returned w.impl := by
  refine (hrun.invariantAlong (I := fun as w => w.Marked as ∧ Kept returned w.impl)
    ⟨start_marked _, construct_kept h0⟩ fun bs u a v ⟨hm, hk⟩ hok hstep => ?_).2
  exact ⟨hm.step hstep, (hm.change hstep).kept hT (fun c hc => hm.stores_open hok hc) hk⟩

end MysqlService.World

namespace MariadbService.World

variable {w w' : World M} {as : List Action}

def StoresOpen (w : World M) (a : Action) : Prop :=
  ∀ ec, a = .call ec .storeResult → w.impl.initialized = true

theorem Marked.stores_open (h : w.Marked as) {a : Action} (hok : w.StoresOpen a) {c : Call}
    (hc : w.makes a c) (hs : c.stores = true) : w.impl.initialized = true := by
  cases a with
  | initiate r =>
    cases r with
    | connect r =>
      rcases hc with rfl | rfl | hc
      · cases hs
      · cases hs
      · have hname : c.nb? = some (.realConnect r.args) := hc
        cases c with
        | start d h => cases hname; cases hs
        | cont d u h => cases hname; cases hs
        | _ => cases hname
    | query s => exact hc.1
    | storeResult => exact hc.1
    | queryResult s => exact hc.1
  | fire k ec =>
    obtain ⟨x, hx, hfresh, -⟩ := hc
    exact h.open_of_fresh (List.mem_of_getElem? hx) hfresh
  | call ec op => exact op.makes_stores hc hs fun hop => hok ec (by rw [hop])
  | deliver => exact hc.elim
  | cancel => exact hc.elim
  | close => exact hc.elim

theorem kept_of_run (hT : Tally L returned) {st : M} (h0 : returned st = [])
    (hrun : Run (World.step L) StoresOpen (.start (MariadbImplementation.construct st)) as w) :
    Kept returned w.impl.toImplementation := by
  refine (hrun.invariantAlong (I := fun as w => w.Marked as ∧ w.Blank ∧
    Kept returned w.impl.toImplementation)
    ⟨start_marked st, start_blank _, construct_kept h0⟩
    fun bs u a v ⟨hm, hb, hk⟩ hok hstep => ?_).2.2
  obtain ⟨hchange, hb'⟩ := hm.change hb hstep
  exact ⟨hm.step hstep, hb', hchange.kept hT (fun c hc => hm.stores_open hok hc) hk⟩

end MariadbService.World

/-- **Every native result is owned once and freed exactly once**, in every state
a run of either service reaches and after the connector is destroyed there. -/
theorem results_owned_once (hT : Tally L returned) {st : M} (h0 : returned st = []) :
    (∀ as w, Run (MysqlService.World.step L) MysqlService.World.StoresOpen
        (.start (.construct st)) as w →
      OwnedOnce returned w.impl ∧ OwnedOnce returned (w.impl.destroy L) ∧
        (w.impl.destroy L).lastResult = none) ∧
    (∀ as w, Run (MariadbService.World.step L) MariadbService.World.StoresOpen
        (.start (MariadbImplementation.construct st)) as w →
      OwnedOnce returned w.impl.toImplementation ∧
        OwnedOnce returned (w.impl.toImplementation.destroy L) ∧
        (w.impl.toImplementation.destroy L).lastResult = none) := by
  refine ⟨fun as w hrun => ?_, fun as w hrun => ?_⟩
  · have hk := MysqlService.World.kept_of_run hT h0 hrun
    exact ⟨hk.once, (hk.destroy hT).once, destroy_last L _⟩
  · have hk := MariadbService.World.kept_of_run hT h0 hrun
    exact ⟨hk.once, (hk.destroy hT).once, destroy_last L _⟩

/-! ## A library whose results are new -/

namespace Library

def unused (rs : List MysqlRes) : Nat := (rs.map MysqlRes.ptr).sum + 1

theorem unused_not_mem (rs : List MysqlRes) : unused rs ∉ rs.map MysqlRes.ptr := by
  intro h
  have hle := List.single_le_sum (by simp) _ h
  simp only [unused] at hle
  omega

/-- The result at an address of its own, and the results returned by then. -/
def issue (rs : List MysqlRes) (r : Option MysqlRes) : Option MysqlRes × List MysqlRes :=
  let x := r.map fun r => { r with ptr := unused rs }
  (x, rs ++ x.toList)

/-- `L`, its results at addresses of their own and kept count of. -/
def numbered (L : Library M) : Library (M × List MysqlRes) :=
  { L.beside (List MysqlRes) with
    storeResult := fun m =>
      let r := L.storeResult m.1
      let x := issue m.2 r.1
      (x.1, r.2, x.2)
    storeResultStart := fun m => stored m.2 (L.storeResultStart m.1)
    storeResultCont := fun w m => stored m.2 (L.storeResultCont w m.1) }
where
  stored (rs : List MysqlRes) (a : NbAnswer M (Option MysqlRes)) :
      NbAnswer (M × List MysqlRes) (Option MysqlRes) :=
    if a.status = 0 then
      let x := issue rs (a.ret.getD none)
      ⟨0, some x.1, (a.st, x.2)⟩
    else ⟨a.status, a.ret, (a.st, rs)⟩

theorem issue_new (rs : List MysqlRes) (r : Option MysqlRes) :
    (issue rs r).2 = rs ++ (issue rs r).1.toList ∧
      ∀ x ∈ (issue rs r).1, x.ptr ∉ rs.map MysqlRes.ptr := by
  refine ⟨rfl, fun x hx => ?_⟩
  obtain ⟨r, -, rfl⟩ := Option.map_eq_some_iff.mp hx
  exact unused_not_mem rs

theorem stored_status (rs : List MysqlRes) (a : NbAnswer M (Option MysqlRes)) :
    (numbered.stored rs a).status = a.status := by
  unfold numbered.stored
  split_ifs with h0
  · exact h0.symm
  · rfl

theorem stored_finished {rs : List MysqlRes} {a : NbAnswer M (Option MysqlRes)}
    (h : (numbered.stored rs a).status = 0) :
    (numbered.stored rs a).st.2 = rs ++ ((numbered.stored rs a).ret.getD none).toList ∧
      ∀ x ∈ (numbered.stored rs a).ret.getD none, x.ptr ∉ rs.map MysqlRes.ptr := by
  rw [stored_status] at h
  unfold numbered.stored
  rw [if_pos h]
  exact issue_new rs _

theorem stored_suspended {rs : List MysqlRes} {a : NbAnswer M (Option MysqlRes)}
    (h : (numbered.stored rs a).status ≠ 0) : (numbered.stored rs a).st.2 = rs := by
  rw [stored_status] at h
  unfold numbered.stored
  rw [if_neg h]

theorem numbered_tally (L : Library M) : Tally L.numbered Prod.snd where
  stores h := by
    cases h with
    | blocking => exact issue_new _ _
    | start _ _ h0 => exact stored_finished h0
    | cont _ _ _ h0 => exact stored_finished h0
  makes h := by
    cases h with
    | storeStart _ _ h0 => exact stored_suspended h0
    | storeCont _ _ _ h0 => exact stored_suspended h0
    | _ => rfl
  connects h := by cases h <;> rfl
  connectCont _ _ := rfl
  init h := by
    obtain ⟨_, -, hm⟩ := Option.map_eq_some_iff.mp h
    rw [← hm]
  close _ := rfl
  fetchNull _ _ := rfl

end Library

/-- A query whose row set is stored after a suspension, and another query. -/
def Script.twoQueries : Script :=
  { verdicts := [.batch (some Script.oneRow) [] 0, .batch none [] 0]
    waits := [[], [], [⟨true, false, false⟩]] }

theorem results_owned_once_freed :
    ∃ w : MariadbService.World (Script × List MysqlRes),
      exec (MariadbService.World.step Script.library.numbered)
        (.start (MariadbImplementation.construct (Script.twoQueries, [])))
        [.call .clear (.connect (Script.login defaultFlags)), .initiate (.query "select 1"),
          .initiate .storeResult, .fire 0 .clear, .initiate (.query "do 1")] = some w ∧
      w.impl.freed = [1] ∧ OwnedOnce Prod.snd w.impl.toImplementation := by
  obtain ⟨w, hw, hfreed⟩ : ∃ w : MariadbService.World (Script × List MysqlRes),
      exec (MariadbService.World.step Script.library.numbered)
        (.start (MariadbImplementation.construct (Script.twoQueries, [])))
        [.call .clear (.connect (Script.login defaultFlags)), .initiate (.query "select 1"),
          .initiate .storeResult, .fire 0 .clear, .initiate (.query "do 1")] = some w ∧
      w.impl.freed = [1] := ⟨_, rfl, by decide⟩
  have hrun : Run (MariadbService.World.step Script.library.numbered)
      MariadbService.World.StoresOpen _ _ w :=
    run_of_exec (fun a ha u ec he => by subst he; simp at ha) hw
  exact ⟨w, hw, hfreed, ((results_owned_once Script.library.numbered_tally rfl).2 _ w hrun).1⟩

end Amy
