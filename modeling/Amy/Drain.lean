import Amy.Results
import Amy.Script

/-!
# Draining a batch

The two ways to read all results of a query: the loop
`while (has_more_results()) store_result(ec)`, and the range from
`results_iterator(connector)` to `results_iterator()`. Both are loops of the
caller's, so they take fuel; `drained` shows that they end, with the whole batch
read in order and nothing read twice.
-/

namespace Amy

variable {M : Type}

/-! ## The loop -/

/-- A loop that ended: what each `store_result(ec)` left, and the connector. -/
structure Drain (M : Type) where
  results : List (ErrorCode × ResultSet)
  impl : Implementation M

def drain (svc : MySQLService) (L : Library M) :
    Nat → Implementation M → ErrorCode → Option (Drain M)
  | 0, _, _ => none
  | n + 1, i, ec =>
    let h := Connector.hasMoreResults svc L i
    if h.1 then
      let o := Connector.storeResultEc svc L h.2 ec
      (drain svc L n o.impl o.ec).map fun d => { d with results := (o.ec, o.rs) :: d.results }
    else some ⟨[], h.2⟩

/-! ## `basic_results_iterator` -/

structure ResultsIterator where
  /-- Whether `connector_` is the connector (it is null otherwise). -/
  connector : Bool
  resultSet : ResultSet
  «end» : Bool
  deriving DecidableEq, Repr

namespace ResultsIterator

def sentinel : ResultsIterator := ⟨false, .fresh, true⟩

def equal (a b : ResultsIterator) : Bool :=
  (a.end == b.end) && (a.end || a.connector == b.connector)

variable (svc : MySQLService) (L : Library M)

def increment (it : ResultsIterator) (i : Implementation M) : Thrown M ResultsIterator :=
  let h := Connector.hasMoreResults svc L i
  if !h.1 then ⟨h.2, .ok { it with «end» := true }⟩
  else
    let t := Connector.storeResult svc L h.2
    ⟨t.impl, t.out.map fun rs => { it with resultSet := rs }⟩

def construct (i : Implementation M) : Thrown M ResultsIterator :=
  let t := if !i.initialized then Detail.throwError L .notInitialized i else ⟨i, .ok ()⟩
  match t.out with
  | .error e => ⟨t.impl, .error e⟩
  | .ok _ => increment svc L ⟨true, .fresh, false⟩ t.impl

end ResultsIterator

/-- A range that was left: the result sets dereferenced, the exception if one
left it early, and the connector. -/
structure Visit (M : Type) where
  seen : List ResultSet
  thrown : Option SystemError
  impl : Implementation M

namespace Visit

variable (svc : MySQLService) (L : Library M)

/-- `for (; first != results_iterator(); ++first)`, dereferencing `first` each time. -/
def loop : Nat → ResultsIterator → Implementation M → Option (Visit M)
  | 0, _, _ => none
  | n + 1, first, i =>
    if first.equal .sentinel then some ⟨[], none, i⟩
    else
      let t := first.increment svc L i
      match t.out with
      | .error e => some ⟨[first.resultSet], some e, t.impl⟩
      | .ok next =>
        (loop n next t.impl).map fun v => { v with seen := first.resultSet :: v.seen }

/-- The range from `results_iterator(connector)` on. -/
def range (n : Nat) (i : Implementation M) : Option (Visit M) :=
  let t := ResultsIterator.construct svc L i
  match t.out with
  | .error e => some ⟨[], some e, t.impl⟩
  | .ok first => loop svc L n first t.impl

/-- The result sets seen and then the error, as one list. -/
def outcomes (v : Visit M) : List (Except ErrorCode ResultSet) :=
  v.seen.map .ok ++ v.thrown.toList.map fun e => .error e.code

end Visit

section Fuel

variable {svc : MySQLService} {L : Library M} {n m : Nat} {i : Implementation M}

theorem drain_mono {ec : ErrorCode} {d : Drain M} (h : drain svc L n i ec = some d) (hn : n ≤ m) :
    drain svc L m i ec = some d := by
  induction n generalizing m i ec d with
  | zero => cases h
  | succ n ih =>
    obtain ⟨k, rfl⟩ : ∃ k, m = k + 1 := ⟨m - 1, by omega⟩
    simp only [drain] at h ⊢
    split_ifs with hm
    · rw [if_pos hm] at h
      obtain ⟨d', hd', rfl⟩ := Option.map_eq_some_iff.mp h
      rw [ih hd' (by omega)]
      rfl
    · rwa [if_neg hm] at h

theorem Visit.loop_mono {first : ResultsIterator} {v : Visit M}
    (h : Visit.loop svc L n first i = some v) (hn : n ≤ m) :
    Visit.loop svc L m first i = some v := by
  induction n generalizing m i first v with
  | zero => cases h
  | succ n ih =>
    obtain ⟨k, rfl⟩ : ∃ k, m = k + 1 := ⟨m - 1, by omega⟩
    simp only [Visit.loop] at h ⊢
    split_ifs with he
    · rwa [if_pos he] at h
    · rw [if_neg he] at h
      cases ht : (first.increment svc L i).out with
      | error e => rwa [ht] at h
      | ok next =>
        rw [ht] at h
        obtain ⟨v', hv', rfl⟩ := Option.map_eq_some_iff.mp h
        simp only [ih hv' (by omega : n ≤ k), Option.map_some]

end Fuel

/-! ## The loops read what is ready -/

section Ready

variable (svc : MySQLService) {L : Library M} {held : M → Held} {i : Implementation M}
  {rest : List Item}

theorem drain_empty (hA : Accounts L held) (h : Ready L held i []) (n : Nat) (ec : ErrorCode) :
    drain svc L (n + 1) i ec = some ⟨[], (Service.hasMoreResults L i).2⟩ := by
  simp [drain, h.more hA]

theorem drain_ready (hL : Obliging L held) (h : Ready L held i rest) {ec : ErrorCode}
    (hec : ec.failed = false) :
    ∃ d, drain svc L (rest.length + 1) i ec = some d ∧
      List.Forall₂ Item.Stored (Item.batch rest) d.results ∧ Ready L held d.impl [] ∧
      Guarded i d.impl := by
  induction rest generalizing i ec with
  | nil =>
    exact ⟨_, drain_empty svc hL.toAccounts h 0 ec, .nil, h.asked L, .hasMoreResults L i⟩
  | cons it rest ih =>
    have hmore : (Service.hasMoreResults L i).1 = true := h.more hL.toAccounts
    obtain ⟨hst, hready, hguard⟩ := (h.asked L).store hL hec
    set o := Service.storeResult L (Service.hasMoreResults L i).2 ec with ho
    have hstep : drain svc L (rest.length + 2) i ec =
        (drain svc L (rest.length + 1) o.impl o.ec).map fun d =>
          { d with results := (o.ec, o.rs) :: d.results } := by
      rw [drain]
      simp [hmore, ← ho]
    have hbefore : Guarded i o.impl := (Guarded.hasMoreResults L i).trans hguard
    rw [List.length_cons, hstep]
    cases hit : it.isFailure with
    | true =>
      -- a failure ends the batch: the library holds nothing more
      rw [hit] at hready
      rw [drain_empty svc hL.toAccounts hready]
      refine ⟨_, rfl, ?_, hready.asked L, hbefore.trans (.hasMoreResults L _)⟩
      simpa [Item.batch, hit] using hst
    | false =>
      rw [hit] at hready
      obtain ⟨d, hd, hall, hend, hg⟩ := ih hready (by rw [← hit]; exact hst.failed)
      rw [hd]
      refine ⟨_, rfl, ?_, hend, hbefore.trans hg⟩
      simp only [Item.batch, hit, Bool.false_eq_true, if_false]
      exact .cons hst hall

/-- The outcome by which the range shows a result. -/
def Item.Visited : Item → Except ErrorCode ResultSet → Prop
  | .rows r, .ok rs => rs = .ofRes r.val
  | .status, .ok rs => rs = .emptySet
  | .failure e, .error ec => ec = .client e.val
  | _, _ => False

theorem Item.Stored.visited {it : Item} {ec : ErrorCode} {rs : ResultSet}
    (h : it.Stored (ec, rs)) : it.Visited (if ec.failed then .error ec else .ok rs) := by
  have hf := h.failed
  cases it with
  | rows r => simpa [hf, Item.isFailure, Item.Visited] using h.2
  | status => simpa [hf, Item.isFailure, Item.Visited] using h.2
  | failure e => simpa [hf, Item.isFailure, Item.Visited] using h.1

namespace ResultsIterator

variable {it : Item} (first : ResultsIterator)

theorem increment_empty (hA : Accounts L held) (h : Ready L held i []) :
    first.increment svc L i =
      ⟨(Service.hasMoreResults L i).2, .ok { first with «end» := true }⟩ := by
  simp [increment, h.more hA]

theorem increment_ready (hL : Obliging L held) (h : Ready L held i (it :: rest)) :
    ∃ rs e, (first.increment svc L i).out =
        (if it.isFailure then .error e else .ok { first with resultSet := rs }) ∧
      it.Visited (if it.isFailure then .error e.code else .ok rs) ∧
      Ready L held (first.increment svc L i).impl (if it.isFailure then [] else rest) ∧
      Guarded i (first.increment svc L i).impl := by
  have hmore : (Service.hasMoreResults L i).1 = true := h.more hL.toAccounts
  obtain ⟨hst, hready, hguard⟩ := (h.asked L).store hL ErrorCode.failed_clear
  set o := Service.storeResult L (Service.hasMoreResults L i).2 .clear with ho
  have hinc : first.increment svc L i =
      ⟨(Detail.throwError L o.ec o.impl).impl, ((Detail.throwError L o.ec o.impl).out.map
        fun _ => o.rs).map fun rs => { first with resultSet := rs }⟩ := by
    simp [increment, Connector.storeResult, hmore, ← ho]
  obtain ⟨log, himpl, hlog⟩ := Detail.throwError_impl L o.ec o.impl
  have hv := hst.visited
  rw [hst.failed] at hv
  rw [hinc]
  refine ⟨o.rs, ⟨o.ec, L.error o.impl.mysql.st⟩, ?_, hv, ?_, ?_⟩
  · cases hit : it.isFailure with
    | false => rw [Detail.throwError_clear (hst.failed.trans hit)]; rfl
    | true =>
      obtain ⟨e, rfl⟩ : ∃ e, it = .failure e := by cases it <;> simp_all [Item.isFailure]
      have hec : o.ec = .client e.val := hst.1
      have hcat : (ErrorCode.client e.val).category = .client := rfl
      simp [Detail.throwError, hec, hcat, bne_iff_ne.mpr e.2, Except.map]
  · rw [himpl]
    exact hready.congr rfl rfl rfl rfl
  · rw [himpl]
    exact ((Guarded.hasMoreResults L i).trans hguard).trans ⟨log, rfl, hlog⟩

end ResultsIterator

/-- From an iterator that is not at the end, the range shows its set and then
what is ready. -/
theorem Visit.loop_ready (hL : Obliging L held) (h : Ready L held i rest)
    {f : ResultsIterator} (hend : f.end = false) :
    ∃ v outs, Visit.loop svc L (rest.length + 2) f i = some v ∧
      v.outcomes = .ok f.resultSet :: outs ∧
      List.Forall₂ Item.Visited (Item.batch rest) outs ∧ Ready L held v.impl [] ∧
      Guarded i v.impl := by
  have hne : ∀ {it : ResultsIterator}, it.end = false → it.equal .sentinel = false := by
    intro it he; simp [ResultsIterator.equal, ResultsIterator.sentinel, he]
  have heq : ∀ {it : ResultsIterator}, it.end = true → it.equal .sentinel = true := by
    intro it he; simp [ResultsIterator.equal, ResultsIterator.sentinel, he]
  induction rest generalizing i f with
  | nil =>
    have hnil : Visit.loop svc L 2 f i =
        some ⟨[f.resultSet], none, (Service.hasMoreResults L i).2⟩ := by
      simp [Visit.loop, hne hend, ResultsIterator.increment_empty svc f hL.toAccounts h, heq]
    exact ⟨_, [], hnil, rfl, .nil, h.asked L, .hasMoreResults L i⟩
  | cons it rest ih =>
    obtain ⟨rs, e, hout, hv, hready, hguard⟩ :=
      ResultsIterator.increment_ready svc f hL h
    rw [List.length_cons, Visit.loop]
    simp only [hne hend, Bool.false_eq_true, if_false, hout]
    cases hit : it.isFailure with
    | true =>
      rw [hit] at hv hready
      exact ⟨_, [.error e.code], rfl, rfl, by simpa [Item.batch, hit] using hv, hready, hguard⟩
    | false =>
      rw [hit] at hv hready
      obtain ⟨v, outs, hv', houts, hall, hdone, hg⟩ :=
        ih (f := { f with resultSet := rs }) hready hend
      simp only [Bool.false_eq_true, if_false, hv']
      refine ⟨_, .ok rs :: outs, rfl, ?_, ?_, hdone, hguard.trans hg⟩
      · simp only [Visit.outcomes, List.map_cons, List.cons_append] at houts ⊢
        rw [houts]
      · simp only [Item.batch, hit, Bool.false_eq_true, if_false]
        exact .cons hv hall

theorem Visit.range_ready (hL : Obliging L held) (h : Ready L held i rest) :
    ∃ v, Visit.range svc L (rest.length + 1) i = some v ∧
      List.Forall₂ Item.Visited (Item.batch rest) v.outcomes ∧ Ready L held v.impl [] ∧
      Guarded i v.impl := by
  have hcon : ResultsIterator.construct svc L i =
      ResultsIterator.increment svc L ⟨true, .fresh, false⟩ i := by
    simp [ResultsIterator.construct, h.opened]
  unfold Visit.range
  rw [hcon]
  cases rest with
  | nil =>
    simp only [ResultsIterator.increment_empty svc _ hL.toAccounts h]
    exact ⟨⟨[], none, _⟩, rfl, .nil, h.asked L, .hasMoreResults L i⟩
  | cons it rest =>
    obtain ⟨rs, e, hout, hv, hready, hguard⟩ :=
      ResultsIterator.increment_ready svc ⟨true, .fresh, false⟩ hL h
    simp only [hout]
    cases hit : it.isFailure with
    | true =>
      rw [hit] at hv hready
      exact ⟨_, rfl, by simpa [Item.batch, hit, Visit.outcomes] using hv, hready, hguard⟩
    | false =>
      rw [hit] at hv hready
      obtain ⟨v, outs, hv', houts, hall, hdone, hg⟩ :=
        Visit.loop_ready svc hL hready (f := ⟨true, rs, false⟩) rfl
      refine ⟨v, hv', ?_, hdone, hguard.trans hg⟩
      simp only [Item.batch, hit, Bool.false_eq_true, if_false, houts]
      exact .cons hv hall

end Ready

/-! ## Both ways read the batch -/

section Drained

variable (svc : MySQLService) (L : Library M) (i : Implementation M)

/-- The loop, started with a cleared code, ends with the results of `batch`
read in order, one by one, and none left. -/
def LoopReads (batch : List Item) : Prop :=
  ∃ d, (∃ n, ∀ m, n ≤ m → drain svc L m i .clear = some d) ∧
    List.Forall₂ Item.Stored batch d.results ∧
    (Connector.hasMoreResults svc L d.impl).1 = false ∧ Guarded i d.impl

/-- So does the range of a `results_iterator`. -/
def RangeReads (batch : List Item) : Prop :=
  ∃ v, (∃ n, ∀ m, n ≤ m → Visit.range svc L m i = some v) ∧
    List.Forall₂ Item.Visited batch v.outcomes ∧
    (Connector.hasMoreResults svc L v.impl).1 = false ∧ Guarded i v.impl

end Drained

/-- What a drained query yields: the batch of a connector that asks for several
results, otherwise its one result if it has columns. -/
def Held.yield (h : Held) (flags : UInt64) : List Item :=
  if multiResults flags then Item.batch h.unread else h.unread.filter Item.hasColumns

theorem Visit.range_mono {svc : MySQLService} {L : Library M} {n m : Nat} {i : Implementation M}
    {v : Visit M} (h : Visit.range svc L n i = some v) (hn : n ≤ m) :
    Visit.range svc L m i = some v := by
  unfold Visit.range at h ⊢
  cases hc : (ResultsIterator.construct svc L i).out with
  | error e => simpa only [hc] using h
  | ok first =>
    simp only [hc] at h ⊢
    exact Visit.loop_mono h hn

/-- **Draining loses and repeats nothing.** After a query that succeeded, the
loop and the range read its batch. -/
theorem drained {L : Library M} {held : M → Held} {i : Implementation M} (svc : MySQLService)
    (hL : Obliging L held) (hopen : i.initialized = true) (stmt : String) (ec : ErrorCode)
    (hq : (Connector.queryEc svc L i stmt ec).ec.failed = false)
    (hn : multiResults i.flags = true ∨
      (held (Connector.queryEc svc L i stmt ec).impl.mysql.st).later = []) :
    let j := (Connector.queryEc svc L i stmt ec).impl
    (∃ r1 later, (held j.mysql.st).unread = r1 :: later ∧ r1.isFailure = false) ∧
      LoopReads svc L j ((held j.mysql.st).yield i.flags) ∧
      RangeReads svc L j ((held j.mysql.st).yield i.flags) := by
  intro j
  have hj : j = (Service.query L i stmt ec).impl := by simp only [j, Connector.queryEc_eq]
  simp only [Connector.queryEc_eq] at hq hn
  obtain ⟨r1, later, hun, hr1, hready⟩ := Ready.query hL.toAccounts hopen hq hn
  rw [← hj] at hun hready hn
  have hyield : (held j.mysql.st).yield i.flags =
      Item.batch (if multiResults i.flags then r1 :: later else [r1].filter Item.hasColumns) := by
    unfold Held.yield
    rw [hun]
    cases hm : multiResults i.flags
    · obtain rfl : later = [] := by
        have hl : (held j.mysql.st).later = [] := by simpa [hm] using hn
        unfold Held.unread at hun
        rw [hl] at hun
        cases hc : (held j.mysql.st).current <;> simp_all
      cases hcol : r1.hasColumns <;> simp [hcol, Item.batch]
    · simp
  rw [hyield]
  refine ⟨⟨r1, later, hun, hr1⟩, ?_, ?_⟩
  · obtain ⟨d, hd, hall, hend, hguard⟩ :=
      drain_ready svc hL hready ErrorCode.failed_clear
    refine ⟨d, ⟨_, fun m hm => drain_mono hd hm⟩, hall, ?_, hguard⟩
    rw [Connector.hasMoreResults_eq]
    exact hend.more hL.toAccounts
  · obtain ⟨v, hv, hall, hend, hguard⟩ := Visit.range_ready svc hL hready
    refine ⟨v, ⟨_, fun m hm => Visit.range_mono hv hm⟩, hall, ?_, hguard⟩
    rw [Connector.hasMoreResults_eq]
    exact hend.more hL.toAccounts

/-- A batch of a row set, a status and a failure, read both ways. -/
theorem drained_failing_batch :
    let m : Script :=
      { held := .idle (some clientMultiStatements)
        verdicts := [.batch (some Script.oneRow) [.status, .failure ⟨1064, by decide⟩] 0] }
    let j := (Connector.queryEc .mysql Script.library (Script.opened m clientMultiStatements)
      "select 1; set @a = 1; oops" .clear).impl
    LoopReads .mysql Script.library j
        [.rows Script.oneRow, .status, .failure ⟨1064, by decide⟩] ∧
      RangeReads .mysql Script.library j
        [.rows Script.oneRow, .status, .failure ⟨1064, by decide⟩] :=
  (drained .mysql Script.obliging rfl _ _ rfl (.inl rfl)).2

end Amy
