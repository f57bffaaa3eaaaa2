import Amy.Base.Copies
import Amy.Ownership
import Amy.Shown

/-!
# What reading a result set reaches

A set's rows point into its native result, which the connector frees when it
releases `last_result`; `begin()..end()` and `rbegin()..rend()` do not ask
whether it has. In runs that release while no set handed out has rows, what the
sets enumerate is held by the connector (`Backed`): they are `Readable`.
-/

namespace Amy

open Base

variable {M : Type} {L : Library M} {returned : M → List MysqlRes} {i j : Implementation M}
  {out out' : List ResultSet} {x : ResultSet} {r : MysqlRes}

namespace ResultSet

/-- Enumerated, `rows` are live, as many as `size()` says, and none once expired. -/
def EnumeratesLive (x : ResultSet) (i : Implementation M) (rows : Option (List Row)) : Prop :=
  ∃ rs, rows = some rs ∧ (∀ row ∈ rs, row.resultSet ∉ i.freed) ∧ (x.size i).toNat = rs.length ∧
    (x.expired i = true → rs = [])

/-- Either way through the set reaches live rows only. -/
structure Readable (x : ResultSet) (i : Implementation M) : Prop where
  forward : x.EnumeratesLive i x.rows
  backward : x.EnumeratesLive i x.reversed

theorem EnumeratesLive.readable (h : x.EnumeratesLive i x.rows) : x.Readable i := by
  obtain ⟨rs, hrows, hlive, hsize, hexp⟩ := h
  refine ⟨⟨rs, hrows, hlive, hsize, hexp⟩, rs.reverse, ?_, ?_, ?_, ?_⟩
  · simp [reversed, show x.values = some rs from hrows]
  · simpa using hlive
  · simpa using hsize
  · simpa using hexp

/-- The rows of the set point into the native result at `p`. -/
def RowsAt (x : ResultSet) (p : Nat) : Prop := x.resultSet = some p ∧ x.values ≠ some []

def Rowless (x : ResultSet) : Prop := x.values = some []

instance : DecidablePred Rowless := fun x => inferInstanceAs (Decidable (x.values = some []))

theorem ofRes_resultSet (r : MysqlRes) : (ofRes r).resultSet = some r.ptr := by
  unfold ofRes
  split_ifs <;> rfl

theorem ofRes_values (hr : r.rowCount.toNat = r.data.length) :
    (ofRes r).values = some (r.data.map (Row.build r · (r.fields.map FieldInfo.mk))) := by
  unfold ofRes
  split_ifs with h0
  · have hdata : r.data = [] := List.length_eq_zero_iff.mp (by rw [← hr, h0]; rfl)
    simp [hdata]
  · rfl

end ResultSet

/-! ## What the sets handed out rest on -/

theorem Owned.unfreed (h : Owned returned i) (hl : i.lastResult = some r) : r.ptr ∉ i.freed := by
  rcases h.once (h.held r hl) with ⟨-, hzero⟩ | ⟨hne, -⟩
  · exact List.count_eq_zero.mp hzero
  · exact absurd hl hne

theorem Owned.last_of_ptr (h : Owned returned i) (hr : r ∈ returned i.mysql.st)
    (hl : i.lastResult.map MysqlRes.ptr = some r.ptr) : i.lastResult = some r := by
  obtain ⟨s, hs, hp⟩ := Option.map_eq_some_iff.mp hl
  rw [hs, List.inj_on_of_nodup_map h.distinct (h.held s hs) hr hp]

/-- Every set of `out` is empty or was assigned a result that was returned, and
the one whose rows it has is held. -/
structure Backed (returned : M → List MysqlRes) (i : Implementation M) (out : List ResultSet) :
    Prop where
  owned : Owned returned i
  made : ∀ x ∈ out, x = .emptySet ∨
    ∃ r ∈ returned i.mysql.st, x = .ofRes r ∧ r.rowCount.toNat = r.data.length
  leased : Leased ResultSet.RowsAt (i.lastResult.map MysqlRes.ptr) out

namespace Backed

theorem sub (h : Backed returned i out) (hsub : out' ⊆ out) : Backed returned i out' :=
  ⟨h.owned, fun x hx => h.made x (hsub hx), h.leased.sub hsub⟩

/-- **A step keeps the sets backed** if it releases while they have no rows, and
what it adds is shown. -/
theorem step (h : Backed returned i out)
    (hbooks : Owned returned j ∧ returned i.mysql.st ⊆ returned j.mysql.st)
    (hlast : j.lastResult = i.lastResult ∨ ∀ x ∈ out, x.Rowless)
    (hout : ∀ x ∈ out', x ∈ out ∨ x.Shown j) : Backed returned j out' := by
  refine ⟨hbooks.1, fun x hx => ?_, h.leased.step ?_ fun x hx => ?_⟩
  · rcases hout x hx with hx | rfl | ⟨r, hr, rfl, hcount⟩
    · exact (h.made x hx).imp_right fun ⟨r, hr, h⟩ => ⟨r, hbooks.2 hr, h⟩
    · exact .inl rfl
    · exact .inr ⟨r, hbooks.1.held r hr, rfl, hcount⟩
  · rcases hlast with hlast | hidle
    · exact .inl (by rw [hlast])
    · exact .inr fun x hx p hp => hp.2 (hidle x hx)
  · rcases hout x hx with hx | rfl | ⟨r, hr, rfl, -⟩
    · exact .inl hx
    · exact .inr fun p hp => absurd rfl hp.2
    · refine .inr fun p hp => ?_
      rw [hr, ← hp.1, ResultSet.ofRes_resultSet]
      rfl

theorem readable (h : Backed returned i out) (hx : x ∈ out) : x.Readable i := by
  refine ResultSet.EnumeratesLive.readable ?_
  rcases h.made x hx with rfl | ⟨r, hr, rfl, hcount⟩
  · have hlock : ResultSet.emptySet.lock i = none := by
      cases hl : i.lastResult <;> simp [ResultSet.lock, ResultSet.emptySet, hl]
    exact ⟨[], rfl, by simp, by simp [ResultSet.size, hlock], fun _ => rfl⟩
  · refine ⟨_, ResultSet.ofRes_values hcount, ?_⟩
    by_cases hl : i.lastResult = some r
    · have hlock : (ResultSet.ofRes r).lock i = some r := by
        simp [ResultSet.lock, hl, ResultSet.ofRes_resultSet]
      refine ⟨fun row hrow => ?_, by simp [ResultSet.size, hlock, hcount], fun he => ?_⟩
      · obtain ⟨cells, -, rfl⟩ := List.mem_map.mp hrow
        exact h.owned.unfreed hl
      · simp [ResultSet.expired, hlock] at he
    · -- the result is not held, so the set has no rows
      have hnone : ¬ (ResultSet.ofRes r).RowsAt r.ptr := fun hp =>
        hl (h.owned.last_of_ptr hr (h.leased _ hx _ hp))
      have hdata : r.data = [] := by
        by_contra hne
        refine hnone ⟨ResultSet.ofRes_resultSet r, ?_⟩
        rw [ResultSet.ofRes_values hcount]
        simpa using hne
      have hlock : (ResultSet.ofRes r).lock i = none := by
        cases hs : i.lastResult with
        | none => simp [ResultSet.lock, hs]
        | some s =>
          have hp : r.ptr ≠ s.ptr := fun hp => hl (h.owned.last_of_ptr hr (by simp [hs, hp]))
          simp [ResultSet.lock, hs, ResultSet.ofRes_resultSet, hp]
      simp [hdata, ResultSet.size, hlock]

end Backed

/-! ## Runs with readers -/

namespace MysqlService

/-- The service as those who read its sets see it. -/
def lender (L : Library M) : Lender (World M) Action ResultSet where
  step := World.step L
  coming w := sets w.io
  gives := World.gives L
  releases := World.releases

theorem backed_of_run (hT : Tally L returned) (hF : Fetchable L) {st : M} (h0 : returned st = [])
    {bs : List (Lending Action)} {c : Lent (World M) ResultSet}
    (hrun : Run (lender L).copyStep ((lender L).Careful ResultSet.Rowless)
      ⟨.start (.construct st), []⟩ bs c) :
    Backed returned c.state.impl ((lender L).out c) := by
  refine (hrun.lent (I := fun as (w : World M) out => w.Marked as ∧ Backed returned w.impl out)
    ⟨World.start_marked _, (construct_kept h0).owned, fun x hx => (by cases hx), .nil _ _⟩
    (fun _ _ _ _ h hsub => ⟨h.1, h.2.sub hsub⟩)
    fun as w out a v ⟨hm, hb⟩ hcoming hok hstep => ?_).2
  refine ⟨hm.step hstep, hb.step ((hm.change hstep).owned hT hb.owned) ?_ fun x hx => ?_⟩
  · cases hrel : w.releases a with
    | true => exact .inr (hok hrel)
    | false => exact .inl (World.step_last hstep hrel)
  · rcases List.mem_append.mp hx with hx | hx
    · exact .inl hx
    · exact (World.step_shown hF hstep hx).imp_left fun hx => hcoming hx

end MysqlService

namespace MariadbService

def lender (L : Library M) : Lender (World M) Action ResultSet where
  step := World.step L
  coming w := sets w.posted
  gives := World.gives L
  releases := World.releases L

theorem backed_of_run (hT : Tally L returned) (hF : Fetchable L) {st : M} (h0 : returned st = [])
    {bs : List (Lending Action)} {c : Lent (World M) ResultSet}
    (hrun : Run (lender L).copyStep ((lender L).Careful ResultSet.Rowless)
      ⟨.start (MariadbImplementation.construct st), []⟩ bs c) :
    Backed returned c.state.impl.toImplementation ((lender L).out c) := by
  refine (hrun.lent (I := fun as (w : World M) out => w.Marked as ∧ w.Blank ∧
    Backed returned w.impl.toImplementation out)
    ⟨World.start_marked st, World.start_blank _, (construct_kept h0).owned,
      fun x hx => (by cases hx), .nil _ _⟩
    (fun _ _ _ _ h hsub => ⟨h.1, h.2.1, h.2.2.sub hsub⟩)
    fun as w out a v ⟨hm, hblank, hb⟩ hcoming hok hstep => ?_).2.2
  obtain ⟨hchange, hblank'⟩ := hm.change hblank hstep
  obtain ⟨hlast, hshown⟩ := hm.shows hblank hF hstep
  refine ⟨hm.step hstep, hblank', hb.step (hchange.owned hT hb.owned) ?_ fun x hx => ?_⟩
  · cases hrel : w.releases L a with
    | true => exact .inr (hok hrel)
    | false => exact .inl (hlast hrel)
  · rcases List.mem_append.mp hx with hx | hx
    · exact .inl hx
    · exact (hshown x hx).imp_left fun hx => hcoming hx

end MariadbService

/-- **Reading reaches live rows**: in runs of either service that release
`last_result` while no set handed out has rows, every copy held is readable. -/
theorem reads_live (hT : Tally L returned) (hF : Fetchable L) {st : M} (h0 : returned st = []) :
    (∀ bs c, Run (MysqlService.lender L).copyStep
        ((MysqlService.lender L).Careful ResultSet.Rowless)
        ⟨.start (.construct st), []⟩ bs c →
      ∀ x ∈ c.copies, x.Readable c.state.impl) ∧
    (∀ bs c, Run (MariadbService.lender L).copyStep
        ((MariadbService.lender L).Careful ResultSet.Rowless)
        ⟨.start (MariadbImplementation.construct st), []⟩ bs c →
      ∀ x ∈ c.copies, x.Readable c.state.impl.toImplementation) :=
  ⟨fun _ _ hrun _ hx =>
      (MysqlService.backed_of_run hT hF h0 hrun).readable (List.mem_append_left _ hx),
    fun _ _ hrun _ hx =>
      (MariadbService.backed_of_run hT hF h0 hrun).readable (List.mem_append_left _ hx)⟩

/-! ## A library whose results count their rows -/

namespace Library

def counts (r : MysqlRes) : Bool := r.rowCount.toNat == r.data.length

/-- `L`, its results kept if they have as many rows as they count. -/
def counting (L : Library M) : Library M :=
  { L with
    storeResult := fun m => ((L.storeResult m).1.filter counts, (L.storeResult m).2)
    storeResultStart := fun m => counted (L.storeResultStart m)
    storeResultCont := fun w m => counted (L.storeResultCont w m) }
where
  counted (a : NbAnswer M (Option MysqlRes)) : NbAnswer M (Option MysqlRes) :=
    { a with ret := a.ret.map (Option.filter counts) }

theorem issue_counts {rs : List MysqlRes} {o : Option MysqlRes} (ho : ∀ r ∈ o, counts r = true)
    {x : MysqlRes} (hx : x ∈ (issue rs o).1) : counts x = true := by
  obtain ⟨r, hr, rfl⟩ := Option.map_eq_some_iff.mp hx
  exact ho r hr

theorem counted_counts {a : NbAnswer M (Option MysqlRes)} {r : MysqlRes}
    (hr : r ∈ (counting.counted a).ret.getD none) : counts r = true := by
  cases ha : a.ret with
  | none => simp [counting.counted, ha] at hr
  | some o =>
    simp only [counting.counted, ha, Option.map_some, Option.getD_some] at hr
    exact (Option.mem_filter_iff.mp hr).2

theorem stored_counts {rs : List MysqlRes} {a : NbAnswer M (Option MysqlRes)} {x : MysqlRes}
    (h0 : (numbered.stored rs (counting.counted a)).status = 0)
    (hx : x ∈ (numbered.stored rs (counting.counted a)).ret.getD none) : counts x = true := by
  rw [stored_status] at h0
  unfold numbered.stored at hx
  rw [if_pos h0] at hx
  exact issue_counts (fun r hr => counted_counts hr) hx

theorem counting_fetchable (h : ∀ r m, L.errno (L.fetchNull r m) = 0) :
    Fetchable L.counting.numbered where
  counted hs x hx := by
    refine beq_iff_eq.mp (?_ : counts x = true)
    cases hs with
    | blocking m => exact issue_counts (fun r hr => (Option.mem_filter_iff.mp hr).2) hx
    | start _ m h0 => exact stored_counts h0 hx
    | cont w _ m h0 => exact stored_counts h0 hx
  fetched hs x hx := h _ _

end Library

/-- Two queries with a row set each. -/
def Script.twoRowSets : Script :=
  { verdicts := [.batch (some Script.oneRow) [] 0, .batch (some Script.oneRow) [] 0] }

namespace MysqlService

/-- A query and its set, of which a copy is made. -/
def oneRead : List (Lending Action) :=
  [.act (.call .clear (.connect (Script.login defaultFlags))),
    .act (.call .clear (.query "select 1")), .act (.call .clear .storeResult), .copy 0]

/-- The copies are dropped before the next query. -/
theorem reads_live_dropped :
    ∃ c : Lent (World (Script × List MysqlRes)) ResultSet,
      exec (lender Script.library.counting.numbered).copyStep
        ⟨.start (.construct (Script.twoRowSets, [])), []⟩
        (oneRead ++ [.drop 0, .drop 0, .act (.initiate (.query "select 2")),
          .act (.initiate .storeResult), .act .work, .act .work, .act .deliver, .act .deliver]) =
        some c ∧
      c.copies = [.ofRes { Script.oneRow.val with ptr := 2 }] ∧ c.state.impl.freed = [1] ∧
      ∀ x ∈ c.copies, x.Readable c.state.impl := by
  obtain ⟨c, hc, hcopies, hfreed⟩ : ∃ c : Lent (World (Script × List MysqlRes)) ResultSet,
      exec (allowed (lender Script.library.counting.numbered).copyStep
          ((lender Script.library.counting.numbered).Careful ResultSet.Rowless))
        ⟨.start (.construct (Script.twoRowSets, [])), []⟩
        (oneRead ++ [.drop 0, .drop 0, .act (.initiate (.query "select 2")),
          .act (.initiate .storeResult), .act .work, .act .work, .act .deliver, .act .deliver]) =
        some c ∧
      c.copies = [.ofRes { Script.oneRow.val with ptr := 2 }] ∧ c.state.impl.freed = [1] :=
    ⟨_, rfl, rfl, rfl⟩
  have hrun := run_of_exec_allowed hc
  exact ⟨c, hrun.exec, hcopies, hfreed, (reads_live (Library.numbered_tally _)
    (Library.counting_fetchable fun _ _ => rfl) rfl).1 _ c hrun⟩

/-- The copies are kept: the next query frees the rows they enumerate, which
`size()` no longer counts. -/
theorem reads_freed :
    ∃ c : Lent (World (Script × List MysqlRes)) ResultSet,
      Run (lender Script.library.counting.numbered).copyStep anyStep
        ⟨.start (.construct (Script.twoRowSets, [])), []⟩
        (oneRead ++ [.act (.call .clear (.query "select 2"))]) c ∧
      ∃ x ∈ c.copies, x.expired c.state.impl = true ∧ x.size c.state.impl = 0 ∧
        ∃ row, x.rows = some [row] ∧ row.resultSet ∈ c.state.impl.freed := by
  obtain ⟨c, hc, hcopies, hfreed, hlast⟩ :
      ∃ c : Lent (World (Script × List MysqlRes)) ResultSet,
        exec (lender Script.library.counting.numbered).copyStep
          ⟨.start (.construct (Script.twoRowSets, [])), []⟩
          (oneRead ++ [.act (.call .clear (.query "select 2"))]) = some c ∧
        .ofRes Script.oneRow.val ∈ c.copies ∧ 1 ∈ c.state.impl.freed ∧
        c.state.impl.lastResult = none := ⟨_, rfl, by decide, by decide, rfl⟩
  refine ⟨c, run_of_exec (fun _ _ _ => trivial) hc, _, hcopies, ?_, ?_, _, rfl, hfreed⟩
  · simp [ResultSet.expired, ResultSet.lock, hlast]
  · simp [ResultSet.size, ResultSet.lock, hlast]

end MysqlService

end Amy
