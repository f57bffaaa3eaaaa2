import Amy.Talk
import Mathlib.Logic.Relation

/-!
# What an operation is made of

Every operation, blocking or not, is a sequence of a few effects on a
connector: a native call, a stored result taken over, a result freed, a mark
set. `Effects L P i j`: such a sequence leads from `i` to `j`, and the calls that
may change the handle all satisfy `P`. What each effect keeps, every operation
keeps (`Effects.invariant`).
-/

namespace Amy

variable {M : Type}

/-! ## Effects -/

/-- Calls that only read the handle. -/
def Call.reads : Call → Bool
  | .fieldCount | .moreResults _ | .affectedRows | .errno | .error | .getSocket
  | .getTimeoutValue => true
  | _ => false

/-- What an ordinary call makes of the handle: it returns no result to keep,
connects nothing and starts no connect. -/
inductive Library.Makes (L : Library M) : Call → M → M → Prop where
  | realQuery (s : String) (m : M) : L.Makes (.realQuery s) m (L.realQuery s m).2
  | nextResult (m : M) : L.Makes .nextResult m (L.nextResult m).2
  | options (o : MysqlOption) (m : M) : L.Makes (.options o.option) m (L.options o m).2
  | autocommit (b : Bool) (m : M) : L.Makes (.autocommit b) m (L.autocommit b m).2
  | commit (m : M) : L.Makes .commit m (L.commit m).2
  | rollback (m : M) : L.Makes .rollback m (L.rollback m).2
  | queryStart (s : String) (h : Heard) (m : M) :
      L.Makes (.start (.realQuery s) h) m (L.queryStart s m).st
  | queryCont (s : String) (w : UInt32) (h : Heard) (m : M) :
      L.Makes (.cont (.realQuery s) w h) m (L.queryCont w m).st
  | nextStart (h : Heard) (m : M) : L.Makes (.start .nextResult h) m (L.nextResultStart m).st
  | nextCont (w : UInt32) (h : Heard) (m : M) :
      L.Makes (.cont .nextResult w h) m (L.nextResultCont w m).st
  | storeStart (h : Heard) (m : M) : (L.storeResultStart m).status ≠ 0 →
      L.Makes (.start .storeResult h) m (L.storeResultStart m).st
  | storeCont (w : UInt32) (h : Heard) (m : M) : (L.storeResultCont w m).status ≠ 0 →
      L.Makes (.cont .storeResult w h) m (L.storeResultCont w m).st

/-- A call that stored: what it returned, and the handle after it. -/
inductive Library.Stores (L : Library M) : Call → M → Option MysqlRes → M → Prop where
  | blocking (m : M) : L.Stores .storeResult m (L.storeResult m).1 (L.storeResult m).2
  | start (h : Heard) (m : M) : (L.storeResultStart m).status = 0 →
      L.Stores (.start .storeResult h) m ((L.storeResultStart m).ret.getD none)
        (L.storeResultStart m).st
  | cont (w : UInt32) (h : Heard) (m : M) : (L.storeResultCont w m).status = 0 →
      L.Stores (.cont .storeResult w h) m ((L.storeResultCont w m).ret.getD none)
        (L.storeResultCont w m).st

/-- A call that connects, with the flags it asks for, and the handle after it. -/
inductive Library.Connects (L : Library M) (args : ConnectArgs) : Call → M → M → Prop where
  | blocking (m : M) : L.Connects args (.realConnect args) m (L.realConnect args m).2
  | start (h : Heard) (m : M) :
      L.Connects args (.start (.realConnect args) h) m (L.connectStart args m).st

/-- What any call but `mysql_init` and `mysql_close` makes of the handle. -/
inductive Library.Steps (L : Library M) : Call → M → M → Prop where
  | makes {c : Call} {m m' : M} : L.Makes c m m' → L.Steps c m m'
  | stores {c : Call} {r : Option MysqlRes} {m m' : M} : L.Stores c m r m' → L.Steps c m m'
  | connects {args : ConnectArgs} {c : Call} {m m' : M} : L.Connects args c m m' → L.Steps c m m'
  | connecting (args : ConnectArgs) (w : UInt32) (h : Heard) (m : M) :
      L.Steps (.cont (.realConnect args) w h) m (L.connectCont w m).st

/-- One effect on a connector, and the call that made it where one did. -/
inductive Effect (L : Library M) (i : Implementation M) : Option Call → Implementation M → Prop where
  | reads {c : Call} : c.reads = true → Effect L i none { i with mysql := i.mysql.read c }
  | called {c : Call} {st : M} : L.Makes c i.mysql.st st →
      Effect L i (some c) { i with mysql := i.mysql.call c st }
  | init {st : M} : i.initialized = false → L.init i.mysql.st = some st →
      Effect L i (some .init) { i with mysql := i.mysql.call .init st, initialized := true }
  | initFailed : i.initialized = false → L.init i.mysql.st = none →
      Effect L i (some .init) { i with mysql := i.mysql.read .init }
  | connects {r : ConnectRequest} {c : Call} {st : M} : L.Connects r.args c i.mysql.st st →
      Effect L i (some c) { i with mysql := i.mysql.call c st, flags := r.flags }
  | connecting {args : ConnectArgs} (w : UInt32) (h : Heard) :
      Effect L i (some (.cont (.realConnect args) w h))
        { i with
          mysql := i.mysql.call (.cont (.realConnect args) w h) (L.connectCont w i.mysql.st).st }
  | stored {c : Call} {r : Option MysqlRes} {st : M} : L.Stores c i.mysql.st r st →
      Effect L i (some c) (({ i with mysql := i.mysql.call c st } : Implementation M).resetResult r)
  /-- A call that stored nothing, and the old result is kept. -/
  | unstored {c : Call} {st : M} : L.Stores c i.mysql.st none st →
      Effect L i (some c) { i with mysql := i.mysql.call c st }
  | free : Effect L i none i.freeResult
  | fetched {r : MysqlRes} : i.lastResult = some r →
      Effect L i none { i with mysql := { i.mysql with st := L.fetchNull r i.mysql.st } }
  | mark (b : Bool) : Effect L i none { i with firstResultStored := b }

/-- Effects one after the other whose calls satisfy `P`. -/
def Effects (L : Library M) (P : Call → Prop) : Implementation M → Implementation M → Prop :=
  Relation.ReflTransGen fun i j => ∃ c, Effect L i c j ∧ ∀ d, c = some d → P d

variable {L : Library M} {P Q : Call → Prop} {i j k : Implementation M}

theorem Effect.opened {c : Option Call} (h : Effect L i c j) (hi : i.initialized = true) :
    j.initialized = true := by
  cases h <;> simp_all

theorem Effect.token {c : Option Call} (h : Effect L i c j) :
    j.cancelationToken = i.cancelationToken := by
  cases h <;> simp

theorem Effect.steps {c : Call} (h : Effect L i (some c) j) :
    (c = .init ∧ i.initialized = false ∧
      (L.init i.mysql.st = some j.mysql.st ∨ j.mysql.st = i.mysql.st)) ∨
    L.Steps c i.mysql.st j.mysql.st := by
  cases h with
  | called hm => exact .inr (.makes hm)
  | init hi hm => exact .inl ⟨rfl, hi, .inl hm⟩
  | initFailed hi _ => exact .inl ⟨rfl, hi, .inr rfl⟩
  | connects hm => exact .inr (.connects hm)
  | connecting w hd => exact .inr (.connecting _ w hd _)
  | stored hs => exact .inr (by simpa using .stores hs)
  | unstored hs => exact .inr (.stores hs)

theorem Effect.rests (h : Effect L i none j) :
    j.mysql.st = i.mysql.st ∨ ∃ r, j.mysql.st = L.fetchNull r i.mysql.st := by
  cases h with
  | fetched _ => exact .inr ⟨_, rfl⟩
  | free => exact .inl (by simp)
  | reads _ => exact .inl rfl
  | mark b => exact .inl rfl

namespace Effects

theorem refl (i : Implementation M) : Effects L P i i := Relation.ReflTransGen.refl

theorem trans (h1 : Effects L P i j) (h2 : Effects L P j k) : Effects L P i k :=
  Relation.ReflTransGen.trans h1 h2

theorem one {c : Call} (h : Effect L i (some c) j) (hc : P c) : Effects L P i j :=
  Relation.ReflTransGen.single ⟨some c, h, fun _ hd => by cases hd; exact hc⟩

theorem silent (h : Effect L i none j) : Effects L P i j :=
  Relation.ReflTransGen.single ⟨none, h, fun _ hd => by cases hd⟩

theorem mono (h : Effects L P i j) (hPQ : ∀ c, P c → Q c) : Effects L Q i j :=
  Relation.ReflTransGen.mono (fun _ _ ⟨c, he, hc⟩ => ⟨c, he, fun d hd => hPQ d (hc d hd)⟩) _ _ h

/-- **What every effect keeps, their sequence keeps.** -/
theorem invariant {I : Implementation M → Prop} (h : Effects L P i j) (h0 : I i)
    (hstep : ∀ i c j, I i → Effect L i c j → (∀ d, c = some d → P d) → I j) : I j := by
  induction h with
  | refl => exact h0
  | tail _ hs ih =>
    obtain ⟨c, he, hc⟩ := hs
    exact hstep _ c _ ih he hc

theorem token (h : Effects L P i j) : j.cancelationToken = i.cancelationToken :=
  h.invariant (I := fun k => k.cancelationToken = i.cancelationToken) rfl
    fun _ _ _ hk he _ => he.token.trans hk

end Effects

/-! ## Blocking operations -/

/-- The calls a blocking operation on `i` can make that may change the handle. -/
def Operation.makes (i : Implementation M) : Operation → Call → Prop
  | .open, c => c = .init
  | .connect r, c => c = .init ∨ c = .realConnect r.args
  | .query s, c => i.initialized = true ∧ c = .realQuery s
  | .storeResult, c => c = .nextResult ∨ c = .storeResult
  | .queryResult s, c =>
    i.initialized = true ∧ (c = .realQuery s ∨ c = .nextResult ∨ c = .storeResult)
  | .setOption o, c => c = .options o.option
  | .autocommit b, c => c = .autocommit b
  | .commit, c => i.initialized = true ∧ c = .commit
  | .rollback, c => i.initialized = true ∧ c = .rollback
  | .affectedRows, _ | .hasMoreResults, _ | .errorMessage _, _ => False

section Blocking

variable (svc : MySQLService) (L : Library M) (i : Implementation M) (ec : ErrorCode)

theorem open_effects (hP : P .init) : Effects L P i (Service.open L i ec).impl := by
  unfold Service.open
  cases hi : i.initialized with
  | true => exact .refl _
  | false =>
    unfold mysqlInit
    cases hm : L.init i.mysql.st with
    | none =>
      have h := Effect.initFailed hi hm
      rw [show ({ i with mysql := i.mysql.read .init } : Implementation M) =
        { i with mysql := i.mysql.call .init i.mysql.st, initialized := false } by rw [← hi]; rfl] at h
      exact .one h hP
    | some m => exact .one (.init hi hm) hP

theorem connectOpen_effects (r : ConnectRequest) (hP : P (.realConnect r.args)) :
    Effects L P i (Service.connectOpen L i r ec).impl :=
  .one (.connects (.blocking i.mysql.st)) hP

theorem connect_effects (r : ConnectRequest) (hinit : P .init) (hP : P (.realConnect r.args)) :
    Effects L P i (Service.connect L i r ec).impl := by
  simp only [Service.connect]
  split_ifs
  · exact open_effects L i ec hinit
  · exact (open_effects L i ec hinit).trans (connectOpen_effects L _ _ r hP)
  · exact connectOpen_effects L i ec r hP

theorem query_effects (s : String) (hP : i.initialized = true → P (.realQuery s)) :
    Effects L P i (Service.query L i s ec).impl := by
  cases hi : i.initialized with
  | false =>
    simp only [Service.query, hi]
    exact .refl _
  | true =>
    have hfree : Effects L P i { i.freeResult with firstResultStored := false } :=
      (Effects.silent .free).trans (.silent (.mark false))
    rw [Service.query_open hi]
    have hmakes : L.Makes (.realQuery s) i.freeResult.mysql.st (L.realQuery s i.mysql.st).2 := by
      rw [Implementation.freeResult_st]
      exact .realQuery s i.mysql.st
    exact hfree.trans (.one (.called hmakes) (hP hi))

theorem hasMoreResults_effects : Effects L P i (Service.hasMoreResults L i).2 := by
  unfold Service.hasMoreResults
  split_ifs
  · exact .refl _
  · exact .refl _
  · exact .silent (.reads rfl)
  · exact .silent (.reads rfl)
  · exact .refl _

theorem nextResult_effects (hP : P .nextResult) :
    Effects L P i (Service.nextResult L i ec).impl := by
  have hmore : Effects L P i (Service.hasMoreResults L i.freeResult).2 :=
    (Effects.silent .free).trans (hasMoreResults_effects L i.freeResult)
  simp only [Service.nextResult]
  split_ifs
  · exact hmore
  · exact hmore.trans (.one (.called (.nextResult _)) hP)
  · exact .silent (.mark true)

/-- `assign` reads the last result to its null row, or not at all. -/
theorem assign_effects (x : ResultSet) :
    Effects L P i { i with mysql := (ResultSet.assign L x i.mysql i.lastResult ec).mysql } := by
  have hcalls := ResultSet.assign_calls L x i.mysql i.lastResult ec
  have heq : ∀ {h : Mysql M} {st : M}, h.st = st → h.calls = i.mysql.calls →
      h = { i.mysql with st := st } := by
    rintro ⟨_, _⟩ _ rfl rfl
    rfl
  rcases ResultSet.assign_st L x i.mysql i.lastResult ec with hst | ⟨r, hr, hst⟩
  · rw [heq hst hcalls]
    exact .refl _
  · rw [heq hst hcalls]
    exact .silent (.fetched hr)

theorem retrieve_effects (hP : P .storeResult) :
    Effects L P i (Service.retrieve L i ec).impl :=
  (Effects.one (.stored (.blocking i.mysql.st)) hP).trans (assign_effects L _ _ .fresh)

theorem storeResult_effects (hnext : P .nextResult) (hP : P .storeResult) :
    Effects L P i (Service.storeResult L i ec).impl := by
  simp only [Service.storeResult]
  split_ifs
  · exact nextResult_effects L i ec hnext
  · exact (nextResult_effects L i ec hnext).trans (retrieve_effects L _ _ hP)

/-- **The effects of a blocking operation.** -/
theorem perform_effects (op : Operation) :
    Effects L (op.makes i) i (perform svc L i ec op).1 := by
  have hopen (h : ¬ (!i.initialized) = true) : i.initialized = true := by simpa using h
  cases op with
  | «open» =>
    rw [perform_open, Done.reply_fst]
    exact open_effects L i ec rfl
  | connect r =>
    rw [perform_connect, Done.reply_fst]
    exact connect_effects L i ec r (.inl rfl) (.inr rfl)
  | query s =>
    rw [perform_query, Done.reply_fst]
    exact query_effects L i ec s fun hi => ⟨hi, rfl⟩
  | storeResult =>
    rw [perform_storeResult, Stored.reply_fst]
    exact storeResult_effects L i ec (.inl rfl) (.inr rfl)
  | queryResult s =>
    have hq : Effects L ((Operation.queryResult s).makes i) i (Service.query L i s ec).impl :=
      query_effects L i ec s fun hi => ⟨hi, .inl rfl⟩
    rw [perform_queryResult]
    cases hi : i.initialized with
    | false =>
      simp only [Service.query, hi]
      exact .refl _
    | true =>
      split_ifs
      · exact hq
      · exact hq.trans (storeResult_effects L _ _ ⟨hi, .inr (.inl rfl)⟩ ⟨hi, .inr (.inr rfl)⟩)
  | setOption o =>
    rcases perform_setOption svc L i ec o with heq | heq
    · rw [heq]
      exact .refl _
    · rw [heq]
      exact .one (.called (.options o i.mysql.st)) rfl
  | autocommit b =>
    rw [perform_autocommit]
    exact .one (.called (.autocommit b i.mysql.st)) rfl
  | commit =>
    simp only [perform_commit, Done.reply_fst, Service.commit]
    split_ifs with hc
    · exact .refl _
    · exact .one (.called (.commit i.mysql.st)) ⟨hopen hc, rfl⟩
  | rollback =>
    simp only [perform_rollback, Done.reply_fst, Service.rollback]
    split_ifs with hc
    · exact .refl _
    · exact .one (.called (.rollback i.mysql.st)) ⟨hopen hc, rfl⟩
  | affectedRows =>
    rw [perform_affectedRows]
    exact .silent (.reads rfl)
  | hasMoreResults =>
    rw [perform_hasMoreResults]
    exact hasMoreResults_effects L i
  | errorMessage e =>
    simp only [perform_errorMessage, Service.errorMessage]
    split_ifs
    · exact (Effects.silent (.reads rfl)).trans (.silent (.reads rfl))
    · exact .silent (.reads rfl)

end Blocking

end Amy
