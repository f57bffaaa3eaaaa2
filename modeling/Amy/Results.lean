import Amy.Connector
import Amy.Stream

/-!
# The result operations on a library that keeps its books

What `query`, `has_more_results` and `store_result` do to the results a handle
holds. `Ready L held i rest`: `rest` are the results the connector has still to
store, in order; storing takes the first of them (`Ready.store`).
-/

namespace Amy

variable {M : Type} {L : Library M} {held : M → Held} {i : Implementation M}

/-! ## What each operation reads and calls -/

namespace Service

def moreLog (L : Library M) (i : Implementation M) : List Call :=
  if !i.initialized then []
  else if multiResults i.flags then
    if i.firstResultStored then [.moreResults (L.moreResults i.mysql.st)] else []
  else if i.firstResultStored then [] else [.fieldCount]

theorem hasMoreResults_impl (L : Library M) (i : Implementation M) :
    (hasMoreResults L i).2 = { i with mysql := ⟨i.mysql.st, i.mysql.calls ++ moreLog L i⟩ } := by
  obtain ⟨⟨st, calls⟩, flags, initialized, first, last, token⟩ := i
  cases initialized <;> cases hm : multiResults flags <;> cases first <;>
    simp [hasMoreResults, moreLog, hm, mysqlMoreResults, mysqlFieldCount, Mysql.read, Mysql.call]

theorem hasMoreResults_closed (h : i.initialized = false) : hasMoreResults L i = (false, i) := by
  simp [hasMoreResults, h]

theorem hasMoreResults_fst (h : i.initialized = true) :
    (hasMoreResults L i).1 =
      if multiResults i.flags then !i.firstResultStored || L.moreResults i.mysql.st
      else !i.firstResultStored && L.fieldCount i.mysql.st != 0 := by
  cases hm : multiResults i.flags <;> cases hf : i.firstResultStored <;>
    simp [hasMoreResults, h, hm, hf, mysqlMoreResults, mysqlFieldCount]

theorem hasMoreResults_congr {j : Implementation M} (ho : j.initialized = i.initialized)
    (hm : multiResults j.flags = multiResults i.flags)
    (hf : j.firstResultStored = i.firstResultStored)
    (hc : L.fieldCount j.mysql.st = L.fieldCount i.mysql.st)
    (hr : L.moreResults j.mysql.st = L.moreResults i.mysql.st) :
    (hasMoreResults L j).1 = (hasMoreResults L i).1 := by
  cases hi : i.initialized with
  | false => rw [hasMoreResults_closed hi, hasMoreResults_closed (ho.trans hi)]
  | true =>
    rw [hasMoreResults_fst hi, hasMoreResults_fst (ho.trans hi), hm, hf, hc, hr]

theorem hasMoreResults_freeResult (L : Library M) (i : Implementation M) :
    (hasMoreResults L i.freeResult).1 = (hasMoreResults L i).1 :=
  hasMoreResults_congr (by simp) (by simp) (by simp) (by simp) (by simp)

theorem nextResult_first (h : i.firstResultStored = false) (ec : ErrorCode) :
    nextResult L i ec = ⟨{ i with firstResultStored := true }, ec⟩ := by
  simp [nextResult, h]

theorem nextResult_done (h : i.firstResultStored = true) (ec : ErrorCode)
    (hm : (hasMoreResults L i.freeResult).1 = false) :
    nextResult L i ec = ⟨(hasMoreResults L i.freeResult).2, .noMoreResults⟩ := by
  simp [nextResult, h, hm]

theorem nextResult_next (h : i.firstResultStored = true) (ec : ErrorCode)
    (hm : (hasMoreResults L i.freeResult).1 = true) :
    nextResult L i ec =
      ⟨{ (hasMoreResults L i.freeResult).2 with
          mysql := (hasMoreResults L i.freeResult).2.mysql.call .nextResult
            (L.nextResult i.mysql.st).2 },
        errorWrapper (L.nextResult i.mysql.st).1 (L.errno (L.nextResult i.mysql.st).2) .clear⟩ := by
  simp [nextResult, h, hm, mysqlNextResult, wrapped, hasMoreResults_impl]

theorem open_last (L : Library M) (i : Implementation M) (ec : ErrorCode) :
    (Service.open L i ec).impl.lastResult = i.lastResult := by
  simp only [Service.open, mysqlInit]
  cases L.init i.mysql.st <;> split_ifs <;> rfl

theorem connect_last (L : Library M) (i : Implementation M) (c : ConnectRequest) (ec : ErrorCode) :
    (connect L i c ec).impl.lastResult = i.lastResult := by
  simp only [connect]
  split_ifs
  · exact open_last L i ec
  · exact open_last L i ec
  · rfl

section Fields

variable (L : Library M) (i : Implementation M) (ec : ErrorCode)

@[simp] theorem retrieve_flags : (retrieve L i ec).impl.flags = i.flags := by simp [retrieve]
@[simp] theorem retrieve_initialized : (retrieve L i ec).impl.initialized = i.initialized := by
  simp [retrieve]
@[simp] theorem retrieve_first :
    (retrieve L i ec).impl.firstResultStored = i.firstResultStored := by simp [retrieve]

@[simp] theorem retrieve_token :
    (retrieve L i ec).impl.cancelationToken = i.cancelationToken := by simp [retrieve]

theorem retrieve_calls : ∃ freed, (retrieve L i ec).impl.mysql.calls =
    i.mysql.calls ++ .storeResult :: freed ∧ ∀ c ∈ freed, ∃ ptr, c = .freeResult ptr := by
  cases hl : i.lastResult with
  | none =>
    exact ⟨[], by simp [retrieve, mysqlStoreResult, wrapped, Implementation.resetResult, hl],
      by simp⟩
  | some r =>
    exact ⟨[.freeResult r.ptr],
      by simp [retrieve, mysqlStoreResult, wrapped, Implementation.resetResult, hl], by simp⟩

end Fields

theorem nextResult_initialized (L : Library M) (i : Implementation M) (ec : ErrorCode) :
    (nextResult L i ec).impl.initialized = i.initialized := by
  cases h1 : i.firstResultStored with
  | false => rw [nextResult_first h1]
  | true =>
    cases hm : (hasMoreResults L i.freeResult).1 with
    | false => rw [nextResult_done h1 ec hm]; simp [hasMoreResults_impl]
    | true => rw [nextResult_next h1 ec hm]; simp [hasMoreResults_impl]

theorem storeResult_initialized (L : Library M) (i : Implementation M) (ec : ErrorCode) :
    (storeResult L i ec).impl.initialized = i.initialized := by
  simp only [storeResult]
  split_ifs <;> simp [nextResult_initialized]

theorem retrieve_held (hA : Accounts L held) (ec : ErrorCode) :
    held (retrieve L i ec).impl.mysql.st = { held i.mysql.st with current := none } := by
  simp only [retrieve, mysqlStoreResult, wrapped]
  rcases ResultSet.assign_st L .fresh _ _ _ with h | ⟨r, -, h⟩ <;> rw [h]
  · simp [hA.store]
  · simp [hA.fetchNull, hA.store]

theorem retrieve_rows (hL : Obliging L held) {r : RowSet}
    (h : (held i.mysql.st).current = some (.rows r)) (ec : ErrorCode) :
    (retrieve L i ec).ec.failed = false ∧ (retrieve L i ec).rs = .ofRes r.val := by
  obtain ⟨hs, he⟩ := hL.store_rows h
  simp only [retrieve, mysqlStoreResult, wrapped, hs, Implementation.resetResult_last]
  obtain ⟨hrs, hec, -⟩ := ResultSet.assign_some L
    (({ i with mysql := i.mysql.call .storeResult (L.storeResult i.mysql.st).2 }).resetResult
      (some r.val)).mysql r.val
    (errorWrapper (some r.val) (L.errno (L.storeResult i.mysql.st).2) (clearError ec)) rfl
    (by simpa using he)
  exact ⟨hec, hrs⟩

theorem retrieve_status (hL : Obliging L held) (h : (held i.mysql.st).current = some .status)
    (ec : ErrorCode) :
    (retrieve L i ec).ec.failed = false ∧ (retrieve L i ec).rs = .emptySet := by
  obtain ⟨hs, he⟩ := hL.store_status h
  simp [retrieve, mysqlStoreResult, wrapped, hs, errorWrapper, he]

end Service

/-! ## The order of native calls -/

/-- Every `mysql_next_result` directly follows a `mysql_more_results` that answered true. -/
def NextGuarded (log : List Call) : Prop :=
  ∀ before after, log = before ++ .nextResult :: after →
    ∃ earlier, before = earlier ++ [.moreResults true]

namespace NextGuarded

theorem of_not_mem {log : List Call} (h : Call.nextResult ∉ log) : NextGuarded log := by
  rintro before after rfl
  exact absurd (by simp) h

theorem pair : NextGuarded [.moreResults true, .nextResult] := by
  intro before after h
  match before with
  | [] => cases h
  | [c] =>
    obtain ⟨rfl, -⟩ := List.cons.inj h
    exact ⟨[], rfl⟩
  | _ :: _ :: rest => simp at h

theorem append {a b : List Call} (ha : NextGuarded a) (hb : NextGuarded b) :
    NextGuarded (a ++ b) := by
  intro before after h
  rcases List.append_eq_append_iff.mp h with ⟨c, rfl, hc⟩ | ⟨c, rfl, hc⟩
  · obtain ⟨earlier, rfl⟩ := hb _ _ hc
    exact ⟨a ++ earlier, by simp⟩
  · match c with
    | [] =>
      obtain ⟨earlier, he⟩ := hb [] after (by simpa using hc.symm)
      simp at he
    | d :: ds =>
      obtain ⟨rfl, -⟩ := List.cons.inj hc
      exact ha _ _ rfl

theorem moreLog (L : Library M) (i : Implementation M) : NextGuarded (Service.moreLog L i) := by
  refine of_not_mem ?_
  unfold Service.moreLog
  split_ifs <;> simp

end NextGuarded

/-- From `i` to `j` every `mysql_next_result` was guarded. -/
abbrev Guarded (i j : Implementation M) : Prop :=
  ∃ log, j.mysql.calls = i.mysql.calls ++ log ∧ NextGuarded log

theorem Guarded.refl (i : Implementation M) : Guarded i i := ⟨[], by simp, .of_not_mem (by simp)⟩

theorem Guarded.trans {i j k : Implementation M} (h1 : Guarded i j) (h2 : Guarded j k) :
    Guarded i k := by
  obtain ⟨a, ha, hga⟩ := h1
  obtain ⟨b, hb, hgb⟩ := h2
  exact ⟨a ++ b, by rw [hb, ha, List.append_assoc], hga.append hgb⟩

theorem Guarded.hasMoreResults (L : Library M) (i : Implementation M) :
    Guarded i (Service.hasMoreResults L i).2 := by
  rw [Service.hasMoreResults_impl]
  exact ⟨_, rfl, .moreLog L i⟩

theorem Guarded.freeResult (i : Implementation M) : Guarded i i.freeResult := by
  cases hl : i.lastResult with
  | none => rw [Implementation.freeResult_of_none hl]; exact .refl i
  | some r =>
    exact ⟨[.freeResult r.ptr], by simp [Implementation.freeResult, Implementation.resetResult, hl],
      .of_not_mem (by simp)⟩

theorem Detail.throwError_impl (L : Library M) (ec : ErrorCode) (i : Implementation M) :
    ∃ log, (Detail.throwError L ec i).impl = { i with mysql := ⟨i.mysql.st, i.mysql.calls ++ log⟩ } ∧
      NextGuarded log := by
  unfold Detail.throwError
  split_ifs
  · exact ⟨[.error], rfl, .of_not_mem (by simp)⟩
  · exact ⟨[], by simp, .of_not_mem (by simp)⟩
  · exact ⟨[], by simp, .of_not_mem (by simp)⟩

/-! ## Storing what is held -/

namespace Item

/-- The code and set by which storing reports a result. -/
def Stored : Item → ErrorCode × ResultSet → Prop
  | .rows r, (ec, rs) => ec.failed = false ∧ rs = .ofRes r.val
  | .status, (ec, rs) => ec.failed = false ∧ rs = .emptySet
  | .failure e, (ec, rs) => ec = .client e.val ∧ rs = .emptySet

theorem Stored.failed {it : Item} {o : ErrorCode × ResultSet} (h : it.Stored o) :
    o.1.failed = it.isFailure := by
  match it, o, h with
  | .rows _, (_, _), ⟨h, _⟩ => exact h
  | .status, (_, _), ⟨h, _⟩ => exact h
  | .failure e, (_, _), ⟨h, _⟩ =>
    simp only [h, ErrorCode.failed_client, isFailure]
    exact bne_iff_ne.mpr e.2

/-- The results of a batch, which ends with its first failure. -/
def batch : List Item → List Item
  | [] => []
  | it :: rest => it :: if it.isFailure then [] else batch rest

end Item

namespace Service

theorem retrieve_stored (hL : Obliging L held) {it : Item}
    (h : (held i.mysql.st).current = some it) (hit : it.isFailure = false) (ec : ErrorCode) :
    it.Stored ((retrieve L i ec).ec, (retrieve L i ec).rs) := by
  cases it with
  | rows r => exact retrieve_rows hL h ec
  | status => exact retrieve_status hL h ec
  | failure e => cases hit

/-- What storing calls after `mysql_next_result`, if anything. -/
theorem retrieve_guarded (L : Library M) (i : Implementation M) (ec : ErrorCode) :
    Guarded i (retrieve L i ec).impl := by
  obtain ⟨freed, hc, hf⟩ := retrieve_calls L i ec
  refine ⟨_, hc, NextGuarded.of_not_mem ?_⟩
  rintro (_ | ⟨_, hm⟩)
  obtain ⟨_, hp⟩ := hf _ hm
  cases hp

end Service

/-- Where the connector stands: `rest` are the results it has still to store. -/
inductive Ready (L : Library M) (held : M → Held) (i : Implementation M) : List Item → Prop where
  /-- Several results, none stored. -/
  | first {it : Item} : i.initialized = true → multiResults i.flags = true →
      i.firstResultStored = false → (held i.mysql.st).current = some it → it.isFailure = false →
      Ready L held i (it :: (held i.mysql.st).later)
  /-- Several results, the library is past the ones stored. -/
  | next : i.initialized = true → multiResults i.flags = true → i.firstResultStored = true →
      (held i.mysql.st).current = none → Ready L held i (held i.mysql.st).later
  /-- One result, not stored: it counts if it has columns. -/
  | only {it : Item} : i.initialized = true → multiResults i.flags = false →
      i.firstResultStored = false → (held i.mysql.st).current = some it → it.isFailure = false →
      (L.fieldCount i.mysql.st ≠ 0 ↔ it.hasColumns = true) →
      Ready L held i ([it].filter Item.hasColumns)
  /-- One result, stored. -/
  | past : i.initialized = true → multiResults i.flags = false → i.firstResultStored = true →
      Ready L held i []

namespace Ready

variable {it : Item} {rest : List Item}

theorem opened (h : Ready L held i rest) : i.initialized = true := by cases h <;> assumption

theorem more (hA : Accounts L held) (h : Ready L held i rest) :
    (Service.hasMoreResults L i).1 = !rest.isEmpty := by
  rw [Service.hasMoreResults_fst h.opened]
  cases h with
  | first _ hm hf => simp [hm, hf]
  | next _ hm hf => simp [hm, hf, hA.more]
  | @only it _ hm hf _ _ hcol =>
    cases hc : it.hasColumns
    · simpa [hm, hf, hc] using hcol
    · simpa [hm, hf, hc] using hcol
  | past _ hm hf => simp [hm, hf]

theorem congr {j : Implementation M} (h : Ready L held i rest) (ho : j.initialized = i.initialized)
    (hf : j.flags = i.flags) (h1 : j.firstResultStored = i.firstResultStored)
    (hs : j.mysql.st = i.mysql.st) : Ready L held j rest := by
  cases h with
  | first a b c d e => rw [← hs] at d ⊢; exact .first (ho ▸ a) (hf ▸ b) (h1 ▸ c) d e
  | next a b c d => rw [← hs] at d ⊢; exact .next (ho ▸ a) (hf ▸ b) (h1 ▸ c) d
  | only a b c d e f => rw [← hs] at d f; exact .only (ho ▸ a) (hf ▸ b) (h1 ▸ c) d e f
  | past a b c => exact .past (ho ▸ a) (hf ▸ b) (h1 ▸ c)

/-- A query that succeeded leaves its results to be stored: all of them where
several were asked for, otherwise the only one if it has columns. -/
theorem query (hA : Accounts L held) (hopen : i.initialized = true) {stmt : String}
    {ec : ErrorCode} (hq : (Service.query L i stmt ec).ec.failed = false)
    (hn : multiResults i.flags = true ∨
      (held (Service.query L i stmt ec).impl.mysql.st).later = []) :
    ∃ it later, (held (Service.query L i stmt ec).impl.mysql.st).unread = it :: later ∧
      it.isFailure = false ∧
      Ready L held (Service.query L i stmt ec).impl
        (if multiResults i.flags then it :: later else [it].filter Item.hasColumns) := by
  have hok : (L.realQuery stmt i.mysql.st).1 = 0 := by
    by_contra hne
    rw [Service.query_open hopen] at hq
    simp [errorWrapper, hne, (hA.query_failed hne).1] at hq
  obtain ⟨it, later, hheld, hit, -, hcol⟩ := hA.query_ok hok
  rw [Service.query_open hopen] at hn ⊢
  simp only [Mysql.call_st, hheld] at hn ⊢
  refine ⟨it, later, rfl, hit, ?_⟩
  cases hm : multiResults i.flags
  · obtain rfl : later = [] := by simpa [hm] using hn
    refine .only ?_ ?_ rfl ?_ hit hcol
    · simpa using hopen
    · simpa using hm
    · simp [hheld]
  · have : later = (held (L.realQuery stmt i.mysql.st).2).later := by rw [hheld]
    simp only [if_true, this]
    refine .first ?_ ?_ rfl ?_ hit
    · simpa using hopen
    · simpa using hm
    · simp [hheld]

theorem asked (L : Library M) (h : Ready L held i rest) :
    Ready L held (Service.hasMoreResults L i).2 rest := by
  rw [Service.hasMoreResults_impl]
  exact h.congr rfl rfl rfl rfl

theorem store_first (hL : Obliging L held) (h : Ready L held i (it :: rest))
    (hf : i.firstResultStored = false) {ec : ErrorCode} (hec : ec.failed = false) :
    it.Stored ((Service.storeResult L i ec).ec, (Service.storeResult L i ec).rs) ∧
      it.isFailure = false ∧ Ready L held (Service.storeResult L i ec).impl rest ∧
      Guarded i (Service.storeResult L i ec).impl := by
  have hs : Service.storeResult L i ec =
      Service.retrieve L { i with firstResultStored := true } ec := by
    simp [Service.storeResult, Service.nextResult_first hf, hec]
  have hstore : ∀ {it}, (held i.mysql.st).current = some it → it.isFailure = false →
      it.Stored ((Service.storeResult L i ec).ec, (Service.storeResult L i ec).rs) := fun hc hit => by
    rw [hs]
    exact Service.retrieve_stored (i := { i with firstResultStored := true }) hL hc hit ec
  have hguard : Guarded i (Service.storeResult L i ec).impl := by
    rw [hs]
    exact Service.retrieve_guarded L { i with firstResultStored := true } ec
  have hheld : held (Service.storeResult L i ec).impl.mysql.st =
      { held i.mysql.st with current := none } := by
    rw [hs, Service.retrieve_held hL.toAccounts]
  generalize hrs : it :: rest = all at h
  cases h with
  | first ho hm _ hc hit =>
    obtain ⟨rfl, rfl⟩ := List.cons.inj hrs
    refine ⟨hstore hc hit, hit, ?_, hguard⟩
    have : Ready L held (Service.storeResult L i ec).impl _ := .next
      (by rw [hs]; simpa using ho) (by rw [hs]; simpa using hm) (by rw [hs]; simp)
      (by rw [hheld])
    rwa [hheld] at this
  | next _ _ hf' => rw [hf] at hf'; cases hf'
  | only ho hm _ hc hit _ =>
    obtain ⟨rfl, rfl⟩ : it = _ ∧ rest = [] := by
      simp only [List.filter_cons, List.filter_nil] at hrs
      split at hrs
      · exact ⟨(List.cons.inj hrs).1, (List.cons.inj hrs).2⟩
      · cases hrs
    refine ⟨hstore hc hit, hit, .past ?_ ?_ ?_, hguard⟩
    · rw [hs]; simpa using ho
    · rw [hs]; simpa using hm
    · rw [hs]; simp
  | past _ _ hf' => rw [hf] at hf'; cases hf'

theorem store_next (hL : Obliging L held) (h : Ready L held i (it :: rest))
    (hf : i.firstResultStored = true) (ec : ErrorCode) :
    it.Stored ((Service.storeResult L i ec).ec, (Service.storeResult L i ec).rs) ∧
      Ready L held (Service.storeResult L i ec).impl (if it.isFailure then [] else rest) ∧
      Guarded i (Service.storeResult L i ec).impl := by
  obtain ⟨hm, hlater⟩ : multiResults i.flags = true ∧ (held i.mysql.st).later = it :: rest := by
    generalize hrs : it :: rest = all at h
    cases h with
    | first _ _ hf' => rw [hf] at hf'; cases hf'
    | next _ hm => exact ⟨hm, rfl⟩
    | only _ _ hf' => rw [hf] at hf'; cases hf'
    | past => cases hrs
  have hfree : Ready L held i.freeResult (it :: rest) :=
    h.congr (by simp) (by simp) (by simp) (by simp)
  have hmore : (Service.hasMoreResults L i.freeResult).1 = true := hfree.more hL.toAccounts
  have hguard : Guarded i { (Service.hasMoreResults L i.freeResult).2 with
      mysql := (Service.hasMoreResults L i.freeResult).2.mysql.call .nextResult
        (L.nextResult i.mysql.st).2 } := by
    have hl : L.moreResults i.mysql.st = true := by rw [hL.more, hlater]; rfl
    refine (Guarded.freeResult i).trans ⟨[.moreResults true, .nextResult], ?_, .pair⟩
    simp [Service.hasMoreResults_impl, Service.moreLog, h.opened, hm, hf, hl]
  unfold Service.storeResult
  rw [Service.nextResult_next hf ec hmore]
  cases hit : it.isFailure with
  | true =>
    obtain ⟨e, rfl⟩ : ∃ e, it = .failure e := by cases it <;> simp_all [Item.isFailure]
    obtain ⟨hne, herr⟩ := hL.next_failure hlater
    have hheld : held (L.nextResult i.mysql.st).2 = .idle (held i.mysql.st).session := by
      rcases hL.next hlater with ⟨-, hc, -⟩ | ⟨-, -, hh⟩
      · cases hc
      · exact hh
    have hec : errorWrapper (L.nextResult i.mysql.st).1 (L.errno (L.nextResult i.mysql.st).2)
        .clear = .client e.val := by simp [errorWrapper, hne, herr]
    simp only [hec, ErrorCode.failed_client, bne_iff_ne.mpr e.2, if_true]
    refine ⟨⟨rfl, rfl⟩, ?_, hguard⟩
    have hno : (held (L.nextResult i.mysql.st).2).later = [] := by rw [hheld]; rfl
    rw [← hno]
    refine .next ?_ ?_ ?_ ?_
    · simp [Service.hasMoreResults_impl, h.opened]
    · simp [Service.hasMoreResults_impl, hm]
    · simp [Service.hasMoreResults_impl, hf]
    · simp [hheld, Held.idle]
  | false =>
    have hok := hL.next_ok hlater hit
    have hheld : held (L.nextResult i.mysql.st).2 = ⟨some it, rest, (held i.mysql.st).session⟩ := by
      rcases hL.next hlater with ⟨-, -, hh⟩ | ⟨hne, -⟩
      · exact hh
      · exact absurd hok hne
    simp only [errorWrapper, failed_int, hok, bne_self_eq_false, Bool.false_eq_true, if_false,
      ErrorCode.failed_clear]
    refine ⟨Service.retrieve_stored hL ?_ hit _, ?_, ?_⟩
    · simp [hheld]
    · have hrest : rest = (held (Service.retrieve L
          { (Service.hasMoreResults L i.freeResult).2 with
            mysql := (Service.hasMoreResults L i.freeResult).2.mysql.call .nextResult
              (L.nextResult i.mysql.st).2 } .clear).impl.mysql.st).later := by
        rw [Service.retrieve_held hL.toAccounts]; simp [hheld]
      rw [hrest]
      refine .next ?_ ?_ ?_ ?_
      · simp [Service.hasMoreResults_impl, h.opened]
      · simp [Service.hasMoreResults_impl, hm]
      · simp [Service.hasMoreResults_impl, hf]
      · rw [Service.retrieve_held hL.toAccounts]
    · exact hguard.trans (Service.retrieve_guarded L _ _)

/-- **Storing takes the first result not stored yet.** -/
theorem store (hL : Obliging L held) (h : Ready L held i (it :: rest)) {ec : ErrorCode}
    (hec : ec.failed = false) :
    it.Stored ((Service.storeResult L i ec).ec, (Service.storeResult L i ec).rs) ∧
      Ready L held (Service.storeResult L i ec).impl (if it.isFailure then [] else rest) ∧
      Guarded i (Service.storeResult L i ec).impl := by
  cases hf : i.firstResultStored with
  | true => exact h.store_next hL hf ec
  | false =>
    obtain ⟨h1, hit, h2, h3⟩ := h.store_first hL hf hec
    rw [hit]
    exact ⟨h1, h2, h3⟩

end Ready

/-! ## Operations that keep the result -/

/-- Calls that give up what `last_result` holds, made on `i` with a code of `ec`. -/
def Operation.releases (i : Implementation M) (ec : ErrorCode) : Operation → Bool
  | .query _ | .queryResult _ => i.initialized
  -- the first result is not asked for with a code that failed
  | .storeResult => i.firstResultStored || !ec.failed
  | _ => false

theorem perform_kept (svc : MySQLService) {ec : ErrorCode} {op : Operation}
    (h : op.releases i ec = false) : (perform svc L i ec op).1.lastResult = i.lastResult := by
  cases op with
  | «open» => simp [Service.open_last]
  | connect c => simp [Service.connect_last]
  | query s =>
    have hi : i.initialized = false := h
    simp [Service.query, hi]
  | storeResult =>
    simp only [Operation.releases, Bool.or_eq_false_iff, Bool.not_eq_false'] at h
    simp [Service.storeResult, Service.nextResult_first h.1, h.2]
  | queryResult s =>
    have hi : i.initialized = false := h
    simp [Service.query, hi]
  | setOption o =>
    rcases perform_setOption svc L i ec o with heq | heq
    · rw [heq]
    · rw [heq]
      rfl
  | autocommit b => simp [Service.autocommit]
  | commit =>
    simp only [perform_commit, Done.reply_fst, Service.commit]
    split_ifs <;> rfl
  | rollback =>
    simp only [perform_rollback, Done.reply_fst, Service.rollback]
    split_ifs <;> rfl
  | affectedRows => simp [Service.affectedRows]
  | hasMoreResults => simp [Service.hasMoreResults_impl]
  | errorMessage e =>
    simp only [perform_errorMessage, Service.errorMessage]
    split_ifs <;> rfl

end Amy
