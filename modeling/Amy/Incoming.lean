import Amy.Results
import Amy.Script

/-!
# What the caller's error code held before

Every native wrapper clears the caller's code before it makes its call, so a
code left over from an earlier operation cannot be read back. The one place
that tests the code without having cleared or set it is `store_result` on its
way to the first result (`perform_incoming_iff`).
-/

namespace Amy

variable {M : Type} {L : Library M} {i : Implementation M}

namespace Service

/-! ## Operations that clear or set the code first -/

theorem open_incoming (ec ec' : ErrorCode) : Service.open L i ec = Service.open L i ec' := rfl

theorem connectOpen_incoming (c : ConnectRequest) (ec ec' : ErrorCode) :
    connectOpen L i c ec = connectOpen L i c ec' := rfl

theorem connect_incoming (c : ConnectRequest) (ec ec' : ErrorCode) :
    connect L i c ec = connect L i c ec' := by
  unfold connect
  rw [open_incoming ec ec', connectOpen_incoming c ec ec']

/-! ## `store_result` -/

theorem retrieve_incoming (ec ec' : ErrorCode) : retrieve L i ec = retrieve L i ec' := rfl

/-- Once the first result is stored the library sets the code, or `no_more_results` does. -/
theorem storeResult_incoming (h : i.firstResultStored = true) (ec ec' : ErrorCode) :
    storeResult L i ec = storeResult L i ec' := by
  have hnext : nextResult L i ec = nextResult L i ec' := by
    simp only [nextResult, h, if_true]
    split_ifs <;> rfl
  unfold storeResult
  rw [hnext]

theorem storeResult_clean (h : i.firstResultStored = false) {ec : ErrorCode}
    (hec : ec.failed = false) :
    storeResult L i ec = retrieve L { i with firstResultStored := true } .clear := by
  unfold storeResult
  rw [nextResult_first h, if_neg (by simp [hec])]
  exact retrieve_incoming ec .clear

/-- A stale error ends `store_result` before its native call: the pending result
counts as stored and nobody has it. -/
theorem storeResult_stale (h : i.firstResultStored = false) {ec : ErrorCode}
    (hec : ec.failed = true) :
    storeResult L i ec = ⟨{ i with firstResultStored := true }, ec, .emptySet⟩ := by
  unfold storeResult
  rw [nextResult_first h, if_pos hec]

/-- Before the first result is stored, a stale error tells two calls apart. -/
theorem storeResult_incoming_iff (h : i.firstResultStored = false) (ec ec' : ErrorCode) :
    storeResult L i ec = storeResult L i ec' ↔
      ec = ec' ∨ (ec.failed = false ∧ ec'.failed = false) := by
  -- a call that goes on to the library is seen in the connector's calls
  have hcall : ∀ {e e' : ErrorCode}, e.failed = true → e'.failed = false →
      storeResult L i e ≠ storeResult L i e' := by
    intro e e' he he' heq
    rw [storeResult_stale h he, storeResult_clean h he'] at heq
    obtain ⟨freed, hcalls, -⟩ :=
      retrieve_calls L { i with firstResultStored := true } ErrorCode.clear
    rw [← heq] at hcalls
    simp at hcalls
  cases hec : ec.failed with
  | false =>
    cases hec' : ec'.failed with
    | false => simp [storeResult_clean h hec, storeResult_clean h hec']
    | true =>
      refine iff_of_false (hcall hec' hec).symm ?_
      rintro (rfl | ⟨-, hf⟩)
      · rw [hec] at hec'; cases hec'
      · cases hf
  | true =>
    cases hec' : ec'.failed with
    | false =>
      refine iff_of_false (hcall hec hec') ?_
      rintro (rfl | ⟨hf, -⟩)
      · rw [hec] at hec'; cases hec'
      · cases hf
    | true =>
      rw [storeResult_stale h hec, storeResult_stale h hec']
      simp

end Service

/-! ## Any operation -/

theorem Stored.reply_inj {o o' : Stored M} : o.reply = o'.reply ↔ o = o' := by
  obtain ⟨j, ec, rs⟩ := o
  obtain ⟨j', ec', rs'⟩ := o'
  simp [Stored.reply]

/-- **The incoming code matters to nothing but the first `store_result`.** Two
calls that differ in it alone return the same and leave the same connector, but
where `store_result` is about to store the first result and one of the codes
is a stale error. -/
theorem perform_incoming_iff (svc : MySQLService) (L : Library M) (i : Implementation M)
    (ec ec' : ErrorCode) (op : Operation) :
    perform svc L i ec op = perform svc L i ec' op ↔
      (op = .storeResult → i.firstResultStored = false →
        ec = ec' ∨ (ec.failed = false ∧ ec'.failed = false)) := by
  have hsame : op ≠ .storeResult → perform svc L i ec op = perform svc L i ec' op →
      (perform svc L i ec op = perform svc L i ec' op ↔
        (op = .storeResult → i.firstResultStored = false →
          ec = ec' ∨ (ec.failed = false ∧ ec'.failed = false))) :=
    fun hne heq => iff_of_true heq fun hop => absurd hop hne
  cases op with
  | storeResult =>
    simp only [perform_storeResult, Stored.reply_inj]
    cases h1 : i.firstResultStored with
    | true =>
      exact iff_of_true (Service.storeResult_incoming h1 ec ec') fun _ hf => by cases hf
    | false =>
      rw [Service.storeResult_incoming_iff h1 ec ec']
      exact ⟨fun h _ _ => h, fun h => h trivial rfl⟩
  | connect c =>
    refine hsame (by simp) ?_
    simp only [perform_connect, Service.connect_incoming c ec ec']
  | setOption o =>
    refine hsame (by simp) ?_
    cases svc <;> rfl
  | _ => exact hsame (by simp) (by cases svc <;> rfl)

/-- A connector whose query has left one row set to store. -/
def Script.pending : Implementation Script :=
  Script.opened { held := ⟨some (.rows Script.oneRow), [], some defaultFlags⟩, columns := 1 }
    defaultFlags

/-- With a code left over from before, `store_result` returns that code and an
empty set, and the row set the library holds is never stored. -/
theorem stale_code_loses_result :
    Script.pending.initialized = true ∧
      (perform .mysql Script.library Script.pending .clear .storeResult).2 =
        .result (.client 0) (.ofRes Script.oneRow.val) ∧
      (perform .mysql Script.library Script.pending (.client 1064) .storeResult).2 =
        .result (.client 1064) .emptySet ∧
      (perform .mysql Script.library
          (perform .mysql Script.library Script.pending (.client 1064) .storeResult).1
          .clear .storeResult).2 = .result .noMoreResults .emptySet ∧
      ¬ ∀ (ec ec' : ErrorCode) (op : Operation),
        perform .mysql Script.library Script.pending ec op =
          perform .mysql Script.library Script.pending ec' op := by
  refine ⟨rfl, by decide, by decide, by decide, fun h => ?_⟩
  have := congrArg Prod.snd (h .clear (.client 1064) .storeResult)
  revert this
  decide

end Amy
