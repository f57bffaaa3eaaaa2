import Amy.Mysql.Clients
import Amy.Mariadb.Clients

/-!
# `async_multi_query` on both services

The example is compiled for `connector` and for `mariadb_connector`. On either
it reports what the blocking calls of that service report.
-/

namespace Amy

open Base

variable {M : Type} {L : Library M}

namespace MysqlService

theorem speaks (L : Library M) : BatchReader.Speaks L verbs (calls L) Askable where
  connect i c := by
    refine ⟨nofun, fun hec => ?_⟩
    simp only [calls, blockingJob, blocking, verbs, Connector.connectEc_eq, Done.outcome] at hec ⊢
    exact BatchReader.connect_leaves hec
  query i stmt := ⟨nofun, by simp [calls, blockingJob, blocking, verbs]⟩
  storeResult i hopen := ⟨fun _ => hopen, by simp [calls, blockingJob, blocking, verbs]⟩
  ask i := by simp [calls, askMore]

end MysqlService

namespace MariadbService

theorem speaks (L : Library M) : BatchReader.Speaks L verbs (calls L) Askable where
  connect i c := by
    refine ⟨nofun, fun hec => ?_⟩
    simp only [calls, preparedConnect, verbs, Done.outcome] at hec ⊢
    split_ifs at hec ⊢ with h1 h2
    · simp [h1] at hec
    · simp [h2] at hec
    · exact BatchReader.connect_leaves hec
  query i stmt := ⟨nofun, by simp [calls, blocking, verbs]⟩
  storeResult i hopen := ⟨fun _ => hopen, by simp [calls, blocking, verbs]⟩
  ask i := by simp [calls]

end MariadbService

/-- **`async_multi_query` reports its batch**, on either service and in every
interleaving: it prints the result sets of the batch in order, each once, then
throws the error that ended it, if one did; or the error of its connect or its query. -/
theorem BatchReader.multi_query_reads {held : M → Held} {susp : NbCall → M → List UInt32}
    (hL : Obliging L held) (hN : Settling L susp) (i : Implementation M)
    (endpoint : Endpoint) (auth : AuthInfo) (schema text : String) :
    let c := BatchReader.login endpoint auth schema
    ReportsAll L held MysqlService.verbs (MysqlService.calls L) (MysqlService.machine L) i
        (.start i) c text ∧
      ReportsAll L held MariadbService.verbs (MariadbService.calls L) (MariadbService.machine L) i
        (.start i) c text := by
  have hmulti : multiResults clientMultiStatements = true := by decide
  exact ⟨reads (MysqlService.realises L) (MysqlService.speaks L) hL ⟨rfl, rfl, rfl⟩ hmulti,
    reads (MariadbService.realises hN) (MariadbService.speaks L) hL ⟨.refl _, rfl, rfl, rfl⟩ hmulti⟩

/-- A row set and then an error, the query suspended twice on the way to the first. -/
theorem BatchReader.multi_query_reads_failing :
    ∃ outs d, Reports Script.library Script.held MariadbService.verbs
        (MariadbService.calls Script.library) (multiQuery MariadbService.verbs).service
        (Script.login clientMultiStatements) "select 1; oops" outs ∧
      exec ((MariadbService.machine Script.library).drive
          (handler MariadbService.verbs "select 1; oops"))
        ((MariadbService.machine Script.library).begin
          (.start (multiQuery MariadbService.verbs).service) main
          (MariadbService.verbs.asyncConnect (Script.login clientMultiStatements)))
        [.step 0, .handle, .handle, .step 0, .step 0, .handle] = some d ∧
      d.memory.outcomes = [.ok (.ofRes Script.oneRow.val)] ∧ d.memory.outcomes <+: outs := by
  obtain ⟨-, outs, hrep, hreads⟩ := multi_query_reads Script.obliging Script.settling
    (multiQuery MariadbService.verbs).service (.tcp "127.0.0.1" 3306) ⟨"amy", none⟩ "test"
    "select 1; oops"
  obtain ⟨d, hd, hout⟩ : ∃ d, exec ((MariadbService.machine Script.library).drive
          (handler MariadbService.verbs "select 1; oops"))
        ((MariadbService.machine Script.library).begin
          (.start (multiQuery MariadbService.verbs).service) main
          (MariadbService.verbs.asyncConnect (Script.login clientMultiStatements)))
        [.step 0, .handle, .handle, .step 0, .step 0, .handle] = some d ∧
      d.memory.outcomes = [.ok (.ofRes Script.oneRow.val)] := ⟨_, rfl, rfl⟩
  exact ⟨outs, d, hrep, hd, hout, (hreads _ d (run_of_exec (fun _ _ _ => trivial) hd)).1⟩

/-! ## `blocking_multi_query` -/

/-- The example's `main`: the exception it catches, if one is thrown, or the
result sets it prints. The loop over the results takes fuel. -/
def blockingMultiQuery (svc : MySQLService) (L : Library M) (n : Nat) (i : Implementation M)
    (c : ConnectRequest) (text : String) : Option (Visit M) :=
  let t := Connector.throwing L (Connector.connectEc svc L i c .clear)
  match t.out with
  | .error e => some ⟨[], some e, t.impl⟩
  | .ok _ =>
    let t := Connector.throwing L (Connector.queryEc svc L t.impl text .clear)
    match t.out with
    | .error e => some ⟨[], some e, t.impl⟩
    | .ok _ => Visit.range svc L n t.impl

theorem Item.Visited.unique : Relator.RightUnique Item.Visited := by
  rintro (r | - | e) (ec | rs) (ec' | rs') h h'
  all_goals first | exact h.elim | exact h'.elim | skip
  · rw [h, h']
  · rw [h, h']
  · rw [h, h']

namespace BatchReader

variable {held : M → Held} {ι : Type} {V : Verbs ι} {C : Calls (Implementation M) ι Outcome}
  {i : Implementation M} {c : ConnectRequest} {text : String}

theorem Reports.unique {outs outs' : List (Except ErrorCode ResultSet)}
    (h : Reports L held V C i c text outs) (h' : Reports L held V C i c text outs') :
    outs = outs' := by
  simp only [Reports] at h h'
  split_ifs at h h'
  · rw [h, h']
  · rw [h, h']
  · exact Item.Visited.unique.forall₂ h h'

theorem throwing_failed {o : Done M} (h : o.ec.failed = true) :
    ∃ e, (Connector.throwing L o).out = .error e ∧ e.code = o.ec := by
  unfold Connector.throwing Detail.throwError
  rw [if_pos h]
  split_ifs
  · exact ⟨_, rfl, rfl⟩
  · exact ⟨_, rfl, rfl⟩

theorem throwing_passed {o : Done M} (h : o.ec.failed = false) :
    Connector.throwing L o = ⟨o.impl, .ok ()⟩ :=
  Detail.throwError_clear h o.impl

variable (text) in
/-- The example ends, and reports what the calls report that connect as it does. -/
theorem blocking_reports (svc : MySQLService) (hL : Obliging L held)
    (hexec : C.exec i (V.asyncConnect c) =
      ((Service.connect L i c .clear).impl, (Service.connect L i c .clear).outcome))
    (hc : multiResults c.flags = true) :
    ∃ v, (∃ n, ∀ m, n ≤ m → blockingMultiQuery svc L m i c text = some v) ∧
      Reports L held V C i c text v.outcomes := by
  set o := Service.connect L i c .clear with ho
  set q := Service.query L o.impl text .clear with hq
  cases hec : o.ec.failed with
  | true =>
    obtain ⟨e, he, hcode⟩ := throwing_failed (L := L) hec
    refine ⟨⟨[], some e, (Connector.throwing L o).impl⟩, ⟨0, fun m _ => ?_⟩, ?_⟩
    · simp only [blockingMultiQuery, Connector.connectEc_eq, ← ho, he]
    · simp only [Reports, hexec, Done.outcome_code, if_pos hec]
      simp [Visit.outcomes, hcode]
  | false =>
    have hne : ¬ o.ec.failed = true := by simp [hec]
    have hpassed := throwing_passed (L := L) hec
    cases hec' : q.ec.failed with
    | true =>
      obtain ⟨e, he, hcode⟩ := throwing_failed (L := L) hec'
      refine ⟨⟨[], some e, (Connector.throwing L q).impl⟩, ⟨0, fun m _ => ?_⟩, ?_⟩
      · simp only [blockingMultiQuery, Connector.connectEc_eq, Connector.queryEc_eq, ← ho, hpassed,
          ← hq, he]
      · simp only [Reports, hexec, Done.outcome_code, if_neg hne, ← hq, if_pos hec']
        simp [Visit.outcomes, hcode]
    | false =>
      have hpassed' := throwing_passed (L := L) hec'
      obtain ⟨hopen, hflags⟩ := connect_leaves hec
      have hm : multiResults o.impl.flags = true := by rw [hflags, hc]
      obtain ⟨it, later, hun, -, hready⟩ := Ready.query hL.toAccounts hopen hec' (.inl hm)
      rw [if_pos hm] at hready
      obtain ⟨v, hv, hall, -⟩ := Visit.range_ready svc hL hready
      refine ⟨v, ⟨(it :: later).length + 1, fun m hle => ?_⟩, ?_⟩
      · simpa only [blockingMultiQuery, Connector.connectEc_eq, Connector.queryEc_eq, ← ho, hpassed,
          ← hq, hpassed'] using Visit.range_mono hv hle
      · simp only [Reports, hexec, Done.outcome_code, if_neg hne, ← hq, hec', Bool.false_eq_true,
          if_false]
        rw [← hq] at hun
        rwa [hun]

/-- **The two examples report alike.** `blocking_multi_query` ends, and
`async_multi_query` on the same connector prints, in every interleaving, result
set for result set what it printed, and throws the code it threw. -/
theorem blocking_agrees (hL : Obliging L held) (i : Implementation M) (endpoint : Endpoint)
    (auth : AuthInfo) (schema text : String) :
    let c := login endpoint auth schema
    let async := (MysqlService.machine L).drive (handler MysqlService.verbs text)
    ∃ v, (∃ n, ∀ m, n ≤ m → blockingMultiQuery .mysql L m i c text = some v) ∧
      ∀ as d, Run async anyStep
          ((MysqlService.machine L).begin (.start i) main (MysqlService.verbs.asyncConnect c)) as d →
        d.memory.outcomes <+: v.outcomes ∧
          ((∀ a, async d a = none) → d.memory.outcomes = v.outcomes) := by
  intro c async
  have hmulti : multiResults c.flags = true := by
    change multiResults clientMultiStatements = true
    decide
  obtain ⟨v, hv, hrep⟩ := blocking_reports (C := MysqlService.calls L) (V := MysqlService.verbs)
    text .mysql hL (by simp [MysqlService.calls, MysqlService.blockingJob,
      MysqlService.blocking, MysqlService.verbs]) hmulti
  obtain ⟨outs, hrep', hreads⟩ : ReportsAll L held MysqlService.verbs (MysqlService.calls L)
      (MysqlService.machine L) i (.start i) c text :=
    reads (MysqlService.realises L) (MysqlService.speaks L) hL ⟨rfl, rfl, rfl⟩ hmulti
  obtain rfl := hrep.unique hrep'
  exact ⟨v, hv, fun as d hrun => ⟨(hreads as d hrun).1, (hreads as d hrun).2.1⟩⟩

theorem blocking_agrees_failing :
    ∃ n v d, blockingMultiQuery .mysql Script.library n (multiQuery MysqlService.verbs).service
        (Script.login clientMultiStatements) "select 1; oops" = some v ∧
      exec ((MysqlService.machine Script.library).drive
          (handler MysqlService.verbs "select 1; oops"))
        ((MysqlService.machine Script.library).begin
          (.start (multiQuery MysqlService.verbs).service) main
          (MysqlService.verbs.asyncConnect (Script.login clientMultiStatements)))
        [.step (), .handle, .step (), .handle, .step (), .handle, .step (), .handle] = some d ∧
      d.memory.outcomes = [.ok (.ofRes Script.oneRow.val), .error (.client 1064)] ∧
      d.memory.outcomes <+: v.outcomes := by
  obtain ⟨v, ⟨n, hn⟩, hreads⟩ := blocking_agrees Script.obliging
    (multiQuery MysqlService.verbs).service (.tcp "127.0.0.1" 3306) ⟨"amy", none⟩ "test"
    "select 1; oops"
  obtain ⟨d, hd, hout⟩ : ∃ d, exec ((MysqlService.machine Script.library).drive
          (handler MysqlService.verbs "select 1; oops"))
        ((MysqlService.machine Script.library).begin
          (.start (multiQuery MysqlService.verbs).service) main
          (MysqlService.verbs.asyncConnect (Script.login clientMultiStatements)))
        [.step (), .handle, .step (), .handle, .step (), .handle, .step (), .handle] = some d ∧
      d.memory.outcomes = [.ok (.ofRes Script.oneRow.val), .error (.client 1064)] := ⟨_, rfl, rfl⟩
  exact ⟨n, v, d, hn n (Nat.le_refl n), hd, hout,
    (hreads _ d (run_of_exec (fun _ _ _ => trivial) hd)).1⟩

end BatchReader

end Amy
