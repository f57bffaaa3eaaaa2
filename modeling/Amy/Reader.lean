import Amy.HasMore
import Amy.Base.Simulation

/-!
# What a connector is for

`Reader` is a connector as its user sees it: it is closed, or open with no
results to read, or reading the results of its last query, one after the other
up to the first that failed. Its steps say what each operation may answer;
`Event.batch` is what the server answered a query.

A connector of either service is simulated by it (`Session.shows`): `Books` ties
the marks to what the library holds, and `Session.reader` is the reader they
stand for.
-/

namespace Amy

open Base

variable {M : Type}

/-! ## The reader -/

/-- An operation of a reader; `ec` is what the caller's variable holds. -/
inductive ReadOp where
  | session (op : SessionOp)
  | hasMoreResults
  deriving DecidableEq, Repr

structure Event where
  op : ReadOp
  reply : Option Reply
  /-- The results of a query that succeeded. -/
  batch : List Item

inductive Reader where
  | closed
  | idle
  /-- The results still to be read; `multi`: several were asked for. -/
  | reading (multi : Bool) (rest : List Item)

namespace Reader

/-- What `has_more_results` says while results are read: a single result is asked
for its columns. -/
def more (multi : Bool) (rest : List Item) : Bool :=
  if multi then !rest.isEmpty else rest.any Item.hasColumns

inductive Step : Reader → Event → Reader → Prop where
  | opens {ec e : ErrorCode} : e.failed = false →
      Step closed ⟨.session (.open ec), some (.code e), []⟩ idle
  | opensNot {ec e : ErrorCode} : e.failed = true →
      Step closed ⟨.session (.open ec), some (.code e), []⟩ closed
  | isOpen {r : Reader} {ec : ErrorCode} : r ≠ closed →
      Step r ⟨.session (.open ec), some (.code .clear), []⟩ r
  | connects {r : Reader} {c : ConnectRequest} {ec e : ErrorCode} : e.failed = false →
      Step r ⟨.session (.connect c ec), some (.code e), []⟩ idle
  /-- The connector may have been opened. -/
  | connectsNot {r : Reader} {c : ConnectRequest} {ec e : ErrorCode} : e.failed = true →
      r = closed ∨ r = idle → Step closed ⟨.session (.connect c ec), some (.code e), []⟩ r
  | staysIdle {c : ConnectRequest} {ec e : ErrorCode} : e.failed = true →
      Step idle ⟨.session (.connect c ec), some (.code e), []⟩ idle
  /-- The old session goes on, with the flags that were asked for. -/
  | staysReading {c : ConnectRequest} {ec e : ErrorCode} {m : Bool} {rest : List Item} :
      e.failed = true → Step (reading m rest) ⟨.session (.connect c ec), some (.code e), []⟩
        (reading (multiResults c.flags) rest)
  | refuses {s : String} {ec : ErrorCode} :
      Step closed ⟨.session (.query s ec), some (.code .notInitialized), []⟩ closed
  | answers {r : Reader} {s : String} {ec e : ErrorCode} {m : Bool} {it : Item} {later : List Item} :
      r ≠ closed → e.failed = false → it.isFailure = false → (m = false → later = []) →
      Step r ⟨.session (.query s ec), some (.code e), it :: later⟩
        (reading m (Item.batch (it :: later)))
  | fails {r : Reader} {s : String} {ec e : ErrorCode} : r ≠ closed → e.failed = true →
      Step r ⟨.session (.query s ec), some (.code e), []⟩ idle
  | takes {ec e : ErrorCode} {rs : ResultSet} {m : Bool} {it : Item} {rest : List Item} :
      it.Stored (e, rs) →
      Step (reading m (it :: rest)) ⟨.session (.storeResult ec), some (.result e rs), []⟩
        (reading m rest)
  | takesNone {ec : ErrorCode} {m : Bool} :
      Step (reading m [])
        ⟨.session (.storeResult ec), some (.result .noMoreResults .emptySet), []⟩ (reading m [])
  /-- Nothing is said of a result no query asked for. -/
  | strays {r : Reader} {ec e : ErrorCode} {rs : ResultSet} : r = closed ∨ r = idle →
      Step r ⟨.session (.storeResult ec), some (.result e rs), []⟩ r
  | tells {m : Bool} {rest : List Item} :
      Step (reading m rest) ⟨.hasMoreResults, some (.flag (more m rest)), []⟩ (reading m rest)
  | tellsNo : Step closed ⟨.hasMoreResults, some (.flag false), []⟩ closed
  | tellsAny {b : Bool} : Step idle ⟨.hasMoreResults, some (.flag b), []⟩ idle
  | closes {r : Reader} : Step r ⟨.session .close, none, []⟩ closed

end Reader

/-! ## What is read after a query -/

/-- `has_more_results` and `store_result`. -/
def ReadOp.reads : ReadOp → Bool
  | .session (.storeResult _) | .hasMoreResults => true
  | _ => false

/-- What `store_result` returned. -/
def Event.stored? (e : Event) : Option (ErrorCode × ResultSet) :=
  match e.op, e.reply with
  | .session (.storeResult _), some (.result ec rs) => some (ec, rs)
  | _, _ => none

/-- What the stores of a trace returned. -/
def stores (es : List Event) : List (ErrorCode × ResultSet) := es.filterMap Event.stored?

/-- What storing `rest` returns: its results in order, and then that there is no more. -/
def InOrder : List Item → List (ErrorCode × ResultSet) → Prop
  | _, [] => True
  | [], o :: outs => o = (.noMoreResults, .emptySet) ∧ InOrder [] outs
  | it :: rest, o :: outs => it.Stored o ∧ InOrder rest outs

theorem InOrder.append {rest : List Item} {xs ys : List (ErrorCode × ResultSet)}
    (hx : InOrder rest xs) (hy : InOrder (rest.drop xs.length) ys) : InOrder rest (xs ++ ys) := by
  induction xs generalizing rest with
  | nil => exact hy
  | cons x xs ih =>
    cases rest with
    | nil => exact ⟨hx.1, ih hx.2 (by simpa using hy)⟩
    | cons it rest => exact ⟨hx.1, ih hx.2 (by simpa using hy)⟩

namespace Reader

end Reader

/-! ## A connector as a reader -/

variable {L : Library M} {held : M → Held} {i : Implementation M} {b : Bool}

def Implementation.pending (held : M → Held) (i : Implementation M) : List Item :=
  if i.firstResultStored then (held i.mysql.st).later else (held i.mysql.st).unread

namespace Session

def reader (held : M → Held) (s : Session M) : Reader :=
  if !s.impl.initialized then .closed
  else if !s.answered then .idle
  else .reading (multiResults s.impl.flags) (Item.batch (s.impl.pending held))

section

variable (svc : MySQLService) (L : Library M) (s : Session M)

def reply : ReadOp → Option Reply
  | .session (.open ec) => some (.code (Connector.openEc svc L s.impl ec).ec)
  | .session (.connect c ec) => some (.code (Connector.connectEc svc L s.impl c ec).ec)
  | .session (.query stmt ec) => some (.code (Connector.queryEc svc L s.impl stmt ec).ec)
  | .session (.storeResult ec) =>
    let o := Connector.storeResultEc svc L s.impl ec
    some (.result o.ec o.rs)
  | .session .close => none
  | .hasMoreResults => some (.flag (Connector.hasMoreResults svc L s.impl).1)

def act : ReadOp → Session M
  | .session op => (s.step svc L op).getD s
  | .hasMoreResults => { s with impl := (Connector.hasMoreResults svc L s.impl).2 }

def batch (held : M → Held) : ReadOp → List Item
  | .session (.query stmt ec) =>
    let o := Connector.queryEc svc L s.impl stmt ec
    if o.ec.failed then [] else (held o.impl.mysql.st).unread
  | _ => []

/-- Neither of the two steps after which the flags no longer fit what is held. -/
def ActOk (held : M → Held) (s : Session M) : ReadOp → Prop
  | .session op => s.StepOk L held op
  | .hasMoreResults => True

def event (held : M → Held) (op : ReadOp) : Event :=
  ⟨op, s.reply svc L op, s.batch svc L held op⟩

/-- What an operation shows, and where it leads. -/
def Shows (held : M → Held) (s : Session M) (e : Event) (t : Session M) : Prop :=
  s.ActOk L held e.op ∧ e = s.event svc L held e.op ∧ t = s.act svc L e.op

def events (held : M → Held) : Session M → List ReadOp → List Event
  | _, [] => []
  | s, op :: ops => s.event svc L held op :: events held (s.act svc L op) ops

def ActsOk (held : M → Held) : Session M → List ReadOp → Prop
  | _, [] => True
  | s, op :: ops => s.ActOk L held op ∧ ActsOk held (s.act svc L op) ops


end

theorem trace_events {svc : MySQLService} {s : Session M} {ops : List ReadOp}
    (h : ActsOk svc L held s ops) :
    Trace (Shows svc L held) s (events svc L held s ops) (ops.foldl (act svc L) s) := by
  induction ops generalizing s with
  | nil => exact .nil
  | cons op ops ih => exact .cons ⟨h.1, rfl, rfl⟩ (ih h.2)

end Session

/-! ## What the library holds to be stored is no failure -/

/-- The current result of the handle, if any, is not a failure. -/
def Fresh (held : M → Held) (i : Implementation M) : Prop :=
  ∀ it, (held i.mysql.st).current = some it → it.isFailure = false

theorem Fresh.of_idle {s : Option UInt64} (h : held i.mysql.st = .idle s) : Fresh held i :=
  fun it hit => by simp [h, Held.idle] at hit

theorem Fresh.connectOpen (hA : Accounts L held) (h : Fresh held i) (c : ConnectRequest)
    (ec : ErrorCode) : Fresh held (Service.connectOpen L i c ec).impl := by
  cases hr : (L.realConnect c.args i.mysql.st).1 with
  | some u => exact .of_idle (hA.connect_ok hr).1
  | none =>
    intro it hit
    exact h it (by rw [← (hA.connect_null hr).2.1]; exact hit)

theorem Fresh.query (hA : Accounts L held) (hopen : i.initialized = true) (stmt : String)
    (ec : ErrorCode) : Fresh held (Service.query L i stmt ec).impl := by
  rw [Service.query_open hopen]
  by_cases hr : (L.realQuery stmt i.mysql.st).1 = 0
  · obtain ⟨it, later, hheld, hit, -⟩ := hA.query_ok hr
    intro it' hit'
    simp only [Mysql.call_st, hheld, Option.some.injEq] at hit'
    exact hit' ▸ hit
  · exact .of_idle (hA.query_failed hr).2.1

theorem Service.storeResult_marks (L : Library M) (i : Implementation M) (ec : ErrorCode) :
    (Service.storeResult L i ec).impl.firstResultStored = true ∧
      (Service.storeResult L i ec).impl.flags = i.flags := by
  have hnext : (Service.nextResult L i ec).impl.firstResultStored = true ∧
      (Service.nextResult L i ec).impl.flags = i.flags := by
    cases h1 : i.firstResultStored with
    | false => rw [Service.nextResult_first h1]; exact ⟨rfl, rfl⟩
    | true =>
      cases hm : (Service.hasMoreResults L i.freeResult).1 with
      | false => rw [Service.nextResult_done h1 ec hm]; simp [Service.hasMoreResults_impl, h1]
      | true => rw [Service.nextResult_next h1 ec hm]; simp [Service.hasMoreResults_impl, h1]
  simp only [Service.storeResult]
  split_ifs
  · exact hnext
  · simpa using hnext

/-! ## A store reads the next result -/

/-- What a store makes of the results still to be read. -/
inductive Reads (held : M → Held) (i : Implementation M) (o : Stored M) : Prop where
  | next {it : Item} {rest : List Item} : Item.batch (i.pending held) = it :: rest →
      it.Stored (o.ec, o.rs) → Item.batch (o.impl.pending held) = rest → Reads held i o
  | none : Item.batch (i.pending held) = [] → o.ec = .noMoreResults → o.rs = .emptySet →
      Item.batch (o.impl.pending held) = [] → Reads held i o

theorem Ready.pending {rest : List Item} (h : Ready L held i rest)
    (hm : multiResults i.flags = true) (h1 : i.firstResultStored = true) :
    i.pending held = rest := by
  cases h with
  | first _ _ hf => rw [hf] at h1; cases h1
  | next _ _ _ => simp [Implementation.pending, h1]
  | only _ hs => rw [hs] at hm; cases hm
  | past _ hs => rw [hs] at hm; cases hm

theorem Books.reads (hL : Obliging L held) (hb : Books L held i true) (hfresh : Fresh held i)
    (hopen : i.initialized = true) {ec : ErrorCode}
    (hec : i.firstResultStored = false → ec.failed = false) :
    Reads held i (Service.storeResult L i ec) := by
  obtain ⟨hfirst, hflags⟩ := Service.storeResult_marks L i ec
  cases h1 : i.firstResultStored with
  | false =>
    -- the current result is stored
    obtain ⟨it, hcur, -⟩ := hb.unstored h1 rfl
    have hit := hfresh it hcur
    have hret : Service.storeResult L i ec =
        Service.retrieve L { i with firstResultStored := true } ec := by
      simp [Service.storeResult, Service.nextResult_first h1, hec h1]
    have hpending : i.pending held = it :: (held i.mysql.st).later := by
      simp [Implementation.pending, h1, Held.unread, hcur]
    have hafter : (Service.storeResult L i ec).impl.pending held = (held i.mysql.st).later := by
      rw [Implementation.pending, if_pos hfirst, hret, Service.retrieve_held hL.toAccounts]
    have hbatch : Item.batch (i.pending held) = it :: Item.batch (held i.mysql.st).later := by
      simp [hpending, Item.batch, hit]
    refine .next hbatch ?_ (by rw [hafter])
    rw [hret]
    exact Service.retrieve_stored hL (by simpa using hcur) hit ec
  | true =>
    have hcur := hb.stored h1
    have hpending : i.pending held = (held i.mysql.st).later := if_pos h1
    have hmoreFree : (Service.hasMoreResults L i.freeResult).1 =
        (multiResults i.flags && L.moreResults i.mysql.st) := by
      rw [Service.hasMoreResults_fst (by simpa using hopen)]
      cases hm : multiResults i.flags <;> simp [h1, hm]
    cases hl : (held i.mysql.st).later with
    | nil =>
      -- the library is asked, and has none
      have hno : (Service.hasMoreResults L i.freeResult).1 = false := by
        simp [hmoreFree, hL.more, hl]
      have hdone : Service.storeResult L i ec =
          ⟨(Service.hasMoreResults L i.freeResult).2, .noMoreResults, .emptySet⟩ := by
        simp [Service.storeResult, Service.nextResult_done h1 ec hno]
      refine .none (by rw [hpending, hl]; rfl) (by rw [hdone]) (by rw [hdone]) ?_
      rw [Implementation.pending, if_pos hfirst, hdone]
      simp [Service.hasMoreResults_impl, hl, Item.batch]
    | cons it later =>
      have hm : multiResults i.flags = true := hb.flags (hb.later (by simp [hl]))
      have hready : Ready L held i (it :: later) := hl ▸ .next hopen hm h1 hcur
      obtain ⟨hst, hrest, -⟩ := hready.store_next hL h1 ec
      have hbatch : Item.batch (i.pending held) =
          it :: if it.isFailure then [] else Item.batch later := by
        rw [hpending, hl]
        rfl
      refine .next hbatch hst ?_
      rw [hrest.pending (by rw [hflags]; exact hm) hfirst]
      split_ifs <;> rfl

namespace Session

/-- The books of an open connector are kept. -/
structure Sound (L : Library M) (held : M → Held) (s : Session M) : Prop where
  books : s.impl.initialized = true → Books L held s.impl s.answered
  fresh : s.impl.initialized = true → Fresh held s.impl

theorem Sound.step {svc : MySQLService} (hA : Accounts L held) {s t : Session M} {op : SessionOp}
    (h : s.Sound L held) (hok : s.StepOk L held op) (hstep : s.step svc L op = some t) :
    t.Sound L held := by
  have hbooks := Books.step hA h.books hok hstep
  refine ⟨hbooks, fun ht => ?_⟩
  have hopened : s.impl.initialized = false → ∀ ec,
      (Service.open L s.impl ec).impl.initialized = true →
        Fresh held (Service.open L s.impl ec).impl :=
    fun hs ec ho => .of_idle (Books.init hA hs ec ho).2
  cases hs : s.impl.initialized with
  | true =>
    cases op with
    | «open» ec =>
      simp only [Session.step, Connector.openEc_eq, Service.open_initialized hs,
        Option.some.injEq] at hstep
      subst hstep
      exact h.fresh hs
    | connect c ec =>
      simp only [Session.step, Connector.connectEc_eq, Service.connect_initialized hs,
        Option.some.injEq] at hstep
      subst hstep
      exact (h.fresh hs).connectOpen hA c ec
    | query stmt ec =>
      simp only [Session.step, Connector.queryEc_eq, Option.some.injEq] at hstep
      subst hstep
      exact .query hA hs stmt ec
    | storeResult ec =>
      simp only [Session.step, Connector.storeResultEc_eq, Option.some.injEq] at hstep
      subst hstep
      have hnone := (hbooks ht).stored (Service.storeResult_marks L s.impl ec).1
      exact fun it hit => by simp [hnone] at hit
    | close =>
      simp only [Session.step, Connector.close_eq, Option.some.injEq] at hstep
      subst hstep
      simp [Service.close, hs, Implementation.close_initialized] at ht
  | false =>
    cases op with
    | «open» ec =>
      simp only [Session.step, Connector.openEc_eq, Option.some.injEq] at hstep
      subst hstep
      exact hopened hs ec ht
    | connect c ec =>
      simp only [Session.step, Connector.connectEc_eq, Service.connect_closed hs,
        Option.some.injEq] at hstep
      subst hstep
      split_ifs at ht ⊢ with hf
      · exact hopened hs ec ht
      · have ho : (Service.open L s.impl ec).impl.initialized = true := by
          simpa [Service.open_failed hs] using hf
        exact (hopened hs ec ho).connectOpen hA c _
    | query stmt ec =>
      simp only [Session.step, Connector.queryEc_eq, Option.some.injEq] at hstep
      subst hstep
      simp [Service.query, hs] at ht
    | storeResult ec =>
      simp only [Session.step, Connector.storeResultEc_eq, Option.some.injEq] at hstep
      subst hstep
      simp [Service.storeResult_initialized, hs] at ht
    | close =>
      simp only [Session.step, Connector.close_eq, Option.some.injEq] at hstep
      subst hstep
      simp [Service.close, hs] at ht

/-! ## A step of a connector is a step of its reader -/

section Simulated

variable {svc : MySQLService} {s t : Session M} {e : Event}

theorem reader_closed (h : s.impl.initialized = false) : s.reader held = .closed := by
  simp [reader, h]

theorem reader_idle (h : s.impl.initialized = true) (ha : s.answered = false) :
    s.reader held = .idle := by
  simp [reader, h, ha]

theorem reader_reading (h : s.impl.initialized = true) (ha : s.answered = true) :
    s.reader held =
      .reading (multiResults s.impl.flags) (Item.batch (s.impl.pending held)) := by
  simp [reader, h, ha]

theorem reader_ne_closed (h : s.impl.initialized = true) : s.reader held ≠ .closed := by
  cases ha : s.answered with
  | true => simp [reader_reading h ha]
  | false => simp [reader_idle h ha]

theorem Sound.more (hA : Accounts L held) (h : s.Sound L held) (hopen : s.impl.initialized = true)
    (ha : s.answered = true) : (Service.hasMoreResults L s.impl).1 =
      Reader.more (multiResults s.impl.flags) (Item.batch (s.impl.pending held)) := by
  have hb := h.books hopen
  have hempty : ∀ l : List Item, (Item.batch l).isEmpty = l.isEmpty := by
    intro l
    cases l <;> rfl
  rw [Service.hasMoreResults_fst hopen]
  unfold Reader.more
  rw [hempty]
  cases h1 : s.impl.firstResultStored with
  | false =>
    obtain ⟨it, hcur, hcol⟩ := hb.unstored h1 ha
    have hpending : s.impl.pending held = it :: (held s.impl.mysql.st).later := by
      simp [Implementation.pending, h1, Held.unread, hcur]
    cases hm : multiResults s.impl.flags with
    | true => simp [hpending]
    | false =>
      have hl := hb.later_nil hm
      have hcols : (L.fieldCount s.impl.mysql.st != 0) = it.hasColumns := by
        rw [Bool.eq_iff_iff, ← hcol]
        simp
      simp [hpending, hl, Item.batch, hcols]
  | true =>
    have hpending : s.impl.pending held = (held s.impl.mysql.st).later := if_pos h1
    cases hm : multiResults s.impl.flags with
    | true => simp [hpending, hA.more]
    | false => simp [hpending, hb.later_nil hm, Item.batch]

theorem reader_asked (L : Library M) (s : Session M) :
    reader held { s with impl := (Service.hasMoreResults L s.impl).2 } = s.reader held := by
  simp [reader, Implementation.pending, Service.hasMoreResults_impl]

theorem open_simulated (ec : ErrorCode) :
    Reader.Step (s.reader held)
      ⟨.session (.open ec), some (.code (Service.open L s.impl ec).ec), []⟩
      (reader held ⟨(Service.open L s.impl ec).impl, s.impl.initialized && s.answered⟩) := by
  cases hs : s.impl.initialized with
  | true =>
    simp only [Service.open_initialized hs, Bool.true_and]
    exact .isOpen (reader_ne_closed hs)
  | false =>
    rw [reader_closed hs]
    have hopen := Service.open_failed (L := L) hs ec
    cases hec : (Service.open L s.impl ec).ec.failed with
    | true =>
      rw [reader_closed (by simpa [hec] using hopen)]
      exact .opensNot hec
    | false =>
      rw [Bool.false_and, reader_idle (s := ⟨_, false⟩) (by simpa [hec] using hopen) rfl]
      exact .opens hec

theorem connectOpen_simulated (hA : Accounts L held) (hs : s.impl.initialized = true)
    (c : ConnectRequest) (ec ec' : ErrorCode) :
    Reader.Step (s.reader held)
      ⟨.session (.connect c ec'), some (.code (Service.connectOpen L s.impl c ec).ec), []⟩
      (reader held ⟨(Service.connectOpen L s.impl c ec).impl,
        (Service.connectOpen L s.impl c ec).ec.failed && s.answered⟩) := by
  have hopen : (Service.connectOpen L s.impl c ec).impl.initialized = true := hs
  cases hec : (Service.connectOpen L s.impl c ec).ec.failed with
  | false =>
    rw [Bool.false_and, reader_idle (s := ⟨_, false⟩) hopen rfl]
    exact .connects hec
  | true =>
    cases ha : s.answered with
    | false =>
      rw [reader_idle hs ha, Bool.and_false, reader_idle (s := ⟨_, false⟩) hopen rfl]
      exact .staysIdle hec
    | true =>
      -- the session goes on
      have hnull : (L.realConnect c.args s.impl.mysql.st).1 = none := by
        cases hr : (L.realConnect c.args s.impl.mysql.st).1 with
        | none => rfl
        | some u =>
          simp [Service.connectOpen, mysqlRealConnect, wrapped, hr, errorWrapper] at hec
      have hheld := (hA.connect_null hnull).2.1
      have hpending : (Service.connectOpen L s.impl c ec).impl.pending held =
          s.impl.pending held := by
        show (if s.impl.firstResultStored then (held (L.realConnect c.args s.impl.mysql.st).2).later
          else (held (L.realConnect c.args s.impl.mysql.st).2).unread) = _
        rw [hheld]
        rfl
      rw [reader_reading hs ha, Bool.true_and, reader_reading (s := ⟨_, true⟩) hopen rfl, hpending]
      exact .staysReading hec

theorem connect_simulated (hA : Accounts L held) (c : ConnectRequest) (ec : ErrorCode) :
    Reader.Step (s.reader held)
      ⟨.session (.connect c ec), some (.code (Service.connect L s.impl c ec).ec), []⟩
      (reader held ⟨(Service.connect L s.impl c ec).impl,
        s.impl.initialized && (Service.connect L s.impl c ec).ec.failed && s.answered⟩) := by
  cases hs : s.impl.initialized with
  | true =>
    simp only [Service.connect_initialized hs, Bool.true_and]
    exact connectOpen_simulated hA hs c ec ec
  | false =>
    rw [reader_closed hs]
    simp only [Service.connect_closed hs, Bool.false_and]
    have hopen := Service.open_failed (L := L) hs ec
    split_ifs with hf
    · rw [reader_closed (by simpa [hf] using hopen)]
      exact .connectsNot hf (.inl rfl)
    · have ho : (Service.open L s.impl ec).impl.initialized = true := by simpa [hf] using hopen
      have hopen' : (Service.connectOpen L (Service.open L s.impl ec).impl c
          (Service.open L s.impl ec).ec).impl.initialized = true := ho
      rw [reader_idle (s := ⟨_, false⟩) hopen' rfl]
      cases hec : (Service.connectOpen L (Service.open L s.impl ec).impl c
          (Service.open L s.impl ec).ec).ec.failed with
      | true => exact .connectsNot hec (.inr rfl)
      | false => exact .connects hec

theorem query_simulated (hA : Accounts L held) (h : s.Sound L held) (stmt : String)
    (ec : ErrorCode) :
    Reader.Step (s.reader held)
      ⟨.session (.query stmt ec), some (.code (Service.query L s.impl stmt ec).ec),
        if (Service.query L s.impl stmt ec).ec.failed then []
        else (held (Service.query L s.impl stmt ec).impl.mysql.st).unread⟩
      (reader held ⟨(Service.query L s.impl stmt ec).impl,
        s.impl.initialized && !(Service.query L s.impl stmt ec).ec.failed⟩) := by
  cases hs : s.impl.initialized with
  | false =>
    have hq : Service.query L s.impl stmt ec = ⟨s.impl, .notInitialized⟩ := by
      simp [Service.query, hs]
    rw [hq, reader_closed hs]
    show Reader.Step .closed _ (reader held ⟨s.impl, false⟩)
    rw [reader_closed (s := ⟨s.impl, false⟩) hs]
    exact .refuses
  | true =>
    have hopen : (Service.query L s.impl stmt ec).impl.initialized = true := by
      simp [Service.query_open hs, hs]
    cases hec : (Service.query L s.impl stmt ec).ec.failed with
    | true =>
      rw [Bool.not_true, Bool.and_false, reader_idle (s := ⟨_, false⟩) hopen rfl]
      exact .fails (reader_ne_closed hs) hec
    | false =>
      have hok : (L.realQuery stmt s.impl.mysql.st).1 = 0 := by
        by_contra hne
        simp [Service.query_open hs, errorWrapper, hne, (hA.query_failed hne).1] at hec
      obtain ⟨it, later, hheld, hit, hmulti, -⟩ := hA.query_ok hok
      have hheld' : held (Service.query L s.impl stmt ec).impl.mysql.st =
          ⟨some it, later, (held s.impl.mysql.st).session⟩ := by
        rw [Service.query_open hs]
        exact hheld
      have hunread : (held (Service.query L s.impl stmt ec).impl.mysql.st).unread = it :: later := by
        simp [hheld', Held.unread]
      have hpending : (Service.query L s.impl stmt ec).impl.pending held = it :: later := by
        rw [Implementation.pending, if_neg (by simp [Service.query_open hs]), hunread]
      have hflags : (Service.query L s.impl stmt ec).impl.flags = s.impl.flags := by
        simp [Service.query_open hs]
      rw [Bool.not_false, Bool.and_true, reader_reading (s := ⟨_, true⟩) hopen rfl, hpending, hflags,
        hunread]
      refine .answers (reader_ne_closed hs) hec hit fun hm => ?_
      by_contra hne
      rw [(h.books hs).flags (hmulti hne)] at hm
      cases hm

theorem storeResult_simulated (hL : Obliging L held) (h : s.Sound L held) {ec : ErrorCode}
    (hok : s.StepOk L held (.storeResult ec)) :
    Reader.Step (s.reader held)
      ⟨.session (.storeResult ec),
        some (.result (Service.storeResult L s.impl ec).ec (Service.storeResult L s.impl ec).rs), []⟩
      (reader held ⟨(Service.storeResult L s.impl ec).impl, s.answered⟩) := by
  have hopen := Service.storeResult_initialized L s.impl ec
  cases hs : s.impl.initialized with
  | false =>
    rw [reader_closed hs, reader_closed (s := ⟨_, _⟩) (hopen.trans hs)]
    exact .strays (.inl rfl)
  | true =>
    cases ha : s.answered with
    | false =>
      rw [reader_idle hs ha, reader_idle (s := ⟨_, false⟩) (hopen.trans hs) rfl]
      exact .strays (.inr rfl)
    | true =>
      have hb := h.books hs
      rw [ha] at hb
      rw [reader_reading hs ha, reader_reading (s := ⟨_, true⟩) (hopen.trans hs) rfl,
        show (Service.storeResult L s.impl ec).impl.flags = s.impl.flags from
          (Service.storeResult_marks L s.impl ec).2]
      cases hb.reads hL (h.fresh hs) hs fun h1 => hok hs h1 with
      | next hp hst hrest =>
        rw [hp, hrest]
        exact .takes hst
      | none hp hec hrs hrest =>
        rw [hp, hrest, hec, hrs]
        exact .takesNone

/-- **One step**: what a connector shows, its reader may show. -/
theorem Shows.simulated (hL : Obliging L held) (h : s.Sound L held)
    (hshows : s.Shows svc L held e t) :
    Reader.Step (s.reader held) e (t.reader held) ∧ t.Sound L held := by
  obtain ⟨hok, he, rfl⟩ := hshows
  generalize e.op = op at hok he ⊢
  subst he
  cases op with
  | hasMoreResults =>
    simp only [act, event, Session.reply, Session.batch, Connector.hasMoreResults_eq]
    refine ⟨?_, ?_⟩
    · rw [reader_asked]
      cases hs : s.impl.initialized with
      | false =>
        rw [reader_closed hs, Service.hasMoreResults_closed hs]
        exact .tellsNo
      | true =>
        cases ha : s.answered with
        | false =>
          rw [reader_idle hs ha]
          exact .tellsAny
        | true =>
          rw [reader_reading hs ha, h.more hL.toAccounts hs ha]
          exact .tells
    · refine ⟨fun hopen => ?_, fun hopen => ?_⟩
      · refine (h.books (by simpa [Service.hasMoreResults_impl] using hopen)).congr ?_ ?_ ?_ <;>
          simp [Service.hasMoreResults_impl]
      · have hfresh := h.fresh (by simpa [Service.hasMoreResults_impl] using hopen)
        simpa [Fresh, Service.hasMoreResults_impl] using hfresh
  | session op =>
    obtain ⟨t, hstep⟩ : ∃ t, s.step svc L op = some t := by cases op <;> exact ⟨_, rfl⟩
    have hact : s.act svc L (.session op) = t := by simp [act, hstep]
    rw [hact]
    refine ⟨?_, h.step hL.toAccounts hok hstep⟩
    cases op with
    | «open» ec =>
      obtain rfl := Option.some_inj.mp hstep
      simpa [event, Session.reply, Session.batch] using open_simulated (s := s) ec
    | connect c ec =>
      obtain rfl := Option.some_inj.mp hstep
      simpa [event, Session.reply, Session.batch] using connect_simulated (s := s) hL.toAccounts c ec
    | query stmt ec =>
      obtain rfl := Option.some_inj.mp hstep
      simpa [event, Session.reply, Session.batch] using query_simulated hL.toAccounts h stmt ec
    | storeResult ec =>
      obtain rfl := Option.some_inj.mp hstep
      simpa [event, Session.reply, Session.batch] using storeResult_simulated hL h hok
    | close =>
      obtain rfl := Option.some_inj.mp hstep
      have hclosed : (Service.close L s.impl).initialized = false := by
        unfold Service.close
        cases hs : s.impl.initialized with
        | true => simp [Implementation.close_initialized]
        | false => simpa using hs
      simp only [event, Session.reply, Session.batch, Connector.close_eq]
      rw [reader_closed (s := ⟨Service.close L s.impl, false⟩) hclosed]
      exact .closes

end Simulated

theorem construct_sound (st : M) : Sound L held (.construct st) :=
  ⟨fun h => (by cases h), fun h => (by cases h)⟩

theorem trace_simulated (svc : MySQLService) (hL : Obliging L held) {st : M} {es : List Event}
    {s : Session M} (h : Trace (Shows svc L held) (.construct st) es s) :
    s.Sound L held ∧ Trace Reader.Step .closed es (s.reader held) := by
  obtain ⟨r, htrace, hs, rfl⟩ := h.simulate
    (R := fun s r => s.Sound L held ∧ r = s.reader held)
    (fun s e t r ⟨hs, hr⟩ hshows => by
      subst hr
      obtain ⟨hstep, ht⟩ := hshows.simulated hL hs
      exact ⟨_, hstep, ht, rfl⟩)
    ⟨construct_sound st, rfl⟩
  exact ⟨hs, htrace⟩

end Session

/-- **A connector of either service is simulated by a reader**: what a run of
operations shows is what a reader may show, and it leads to the same state. -/
theorem reader_simulates (svc : MySQLService) (hL : Obliging L held) {st : M} {es : List Event}
    {s : Session M} (h : Trace (Session.Shows svc L held) (.construct st) es s) :
    Trace Reader.Step .closed es (s.reader held) :=
  (Session.trace_simulated svc hL h).2

def twoResults : Session Script :=
  .construct { verdicts := [.batch (some Script.oneRow) [.status] 0] }

def readTwo : List ReadOp :=
  [.session (.connect multiConnect .clear), .session (.query "select 1; do 1" .clear),
    .session (.storeResult .clear), .hasMoreResults, .session (.storeResult .clear),
    .session (.storeResult .clear)]

theorem readTwo_ok (svc : MySQLService) :
    Session.ActsOk svc Script.library Script.held twoResults readTwo := by
  cases svc <;>
    exact ⟨fun h => (by cases h), trivial, fun _ _ => rfl, trivial, fun _ _ => rfl, fun _ _ => rfl,
      trivial⟩

theorem reader_simulates_two :
    Trace Reader.Step .closed
        (Session.events .mariadb Script.library Script.held twoResults readTwo)
        (.reading true []) :=
  reader_simulates .mariadb Script.obliging (Session.trace_events (readTwo_ok .mariadb))

/-- A query that answered asks for several results, or has one. -/
theorem Reader.Step.answered {r t : Reader} {q : Event} (h : Reader.Step r q t) (hq : q.batch ≠ []) :
    ∃ m, t = .reading m (Item.batch q.batch) ∧ (m = false → q.batch.length = 1) := by
  cases h with
  | @answers _ _ _ _ m it later _ _ _ hone =>
    exact ⟨m, rfl, fun hm => by simp [hone hm]⟩
  | _ => exact absurd rfl hq

end Amy
