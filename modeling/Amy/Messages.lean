import Amy.Connector
import Amy.Script

/-!
# The texts of error codes

Three things describe an error code: the exception `throw_error` makes of it,
`error_message` of a service, and `message` of its category. Each chooses its
text by tests of its own. The constants of `errmsg.h` and the categories that
are not amy's are outside the sources, so `Categories` is any choice of them.
-/

namespace Amy

variable {M : Type}

/-! ## `error::client_errors` -/

inductive ClientErrors where
  | unknownError | socketCreateError | connectionError | connHostError | ipsockError
  | unknownHost | serverGoneError | versionError | outOfMemory | wrongHostInfo
  | localhostConnection | tcpConnection | serverHandshakeErr | serverLost | commandsOutOfSync
  | namedPipeConnection | namedPipeWaitError | namedPipeOpenError | namedPipeSetstateError
  | cantReadCharset | netPacketTooLarge | embeddedConnection | probeSlaveStatus | probeSlaveHosts
  | probeSlaveConnect | probeMasterConnect | sslConnectionError | malformedPacket | wrongLicense
  | nullPointer | noPrepareStmt | paramsNotBound | dataTruncated | noParametersExists
  | invalidParameterNo | invalidBufferUse | unsupportedParamType | sharedMemoryConnection
  | sharedMemoryConnectRequestError | sharedMemoryConnectAnswerError
  | sharedMemoryConnectFileMapError | sharedMemoryConnectMapError | sharedMemoryFileMapError
  | sharedMemoryMapError | sharedMemoryEventError | sharedMemoryConnectAbandonedError
  | sharedMemoryConnectSetError | connUnknowProtocol | invalidConnHandle | secureAuth
  | fetchCanceled | noData | noStmtMetadata | noResultSet | notImplemented
  deriving DecidableEq, Repr

/-- The `switch` of `client_category::message`, case by case. -/
def clientMessages : List (ClientErrors × String) :=
  [(.unknownError, "Unknown MySQL error"),
   (.socketCreateError, "Can't create UNIX socket"),
   (.connectionError, "Can't connect to local MySQL server through socket"),
   (.connHostError, "Can't connect to MySQL server"),
   (.ipsockError, "Can't create TCP/IP socket"),
   (.unknownHost, "Unknown MySQL server host"),
   (.serverGoneError, "MySQL server has gone away"),
   (.versionError, "Protocol mismatch"),
   (.outOfMemory, "MySQL client ran out of memory"),
   (.wrongHostInfo, "Wrong host info"),
   (.localhostConnection, "Localhost via UNIX socket"),
   (.tcpConnection, "TCP/IP connection failed"),
   (.serverHandshakeErr, "Error in server handshake"),
   (.serverLost, "Lost connection to MySQL server during query"),
   (.commandsOutOfSync, "Commands out of sync; you can't run this command now"),
   (.namedPipeConnection, "Named pipe connection failed"),
   (.namedPipeWaitError, "Can't wait for named pipe to host"),
   (.namedPipeOpenError, "Can't open named pipe to host"),
   (.namedPipeSetstateError, "Can't set state of named pipe to host"),
   (.cantReadCharset, "Can't initialize character set"),
   (.netPacketTooLarge, "Got packet bigger than 'max_allowed_packet' bytes"),
   (.embeddedConnection, "Embedded server"),
   (.probeSlaveStatus, "Error on SHOW SLAVE STATUS"),
   (.probeSlaveHosts, "Error on SHOW SLAVE HOSTS"),
   (.probeSlaveConnect, "Error connecting to slave"),
   (.probeMasterConnect, "Error connecting to master"),
   (.sslConnectionError, "SSL connection error"),
   (.malformedPacket, "Malformed packet"),
   (.wrongLicense, "This client library has wrong license"),
   (.nullPointer, "Invalid use of null pointer"),
   (.noPrepareStmt, "Statement not prepared"),
   (.paramsNotBound, "No data supplied for parameters in prepared statement"),
   (.dataTruncated, "Data truncated"),
   (.noParametersExists, "No parameters exist in the statement"),
   (.invalidParameterNo, "Invalid parameter number"),
   (.invalidBufferUse, "Can't send long data for non-string/non-binary data types"),
   (.unsupportedParamType, "Using unsupported buffer type"),
   (.sharedMemoryConnection, "Shared memory connection failed"),
   (.sharedMemoryConnectRequestError,
     "Can't open shared memory; client could not create request event"),
   (.sharedMemoryConnectAnswerError,
     "Can't open shared memory; no answer event received from server"),
   (.sharedMemoryConnectFileMapError,
     "Can't open shared memory; server could not allocate file mapping"),
   (.sharedMemoryConnectMapError,
     "Can't open shared memory; server could not get pointer to file mapping"),
   (.sharedMemoryFileMapError, "Can't open shared memory; client could not allocate file mapping"),
   (.sharedMemoryMapError,
     "Can't open shared memory; client could not get pointer to file mapping"),
   (.sharedMemoryEventError, "Can't open shared memory; client could not create event"),
   (.sharedMemoryConnectAbandonedError, "Can't open shared memory; no answer from server"),
   (.sharedMemoryConnectSetError, "Can't open shared memory; cannot send request event to server"),
   (.connUnknowProtocol, "Wrong or unknown protocol"),
   (.invalidConnHandle, "Invalid connection handle"),
   (.secureAuth,
     "Connection using old (pre-4.1.1) authentication " ++
       "protocol refused (client option 'secure_auth' enabled)"),
   (.fetchCanceled, "Row retrieval was canceled by mysql_stmt_close() call"),
   (.noData, "Attempt to read column without prior row fetch"),
   (.noStmtMetadata, "Prepared statement contains no metadata"),
   (.noResultSet,
     "Attempt to read a row while there is no result set associated with the statement"),
   (.notImplemented, "This feature is not implemented yet")]

theorem clientMessages_order :
    (clientMessages.map Prod.fst).map ClientErrors.ctorIdx = List.range 55 := rfl

theorem clientMessages_keys :
    (clientMessages.map Prod.fst).Nodup ∧ ∀ e, e ∈ clientMessages.map Prod.fst := by
  constructor
  · apply List.Nodup.of_map ClientErrors.ctorIdx
    rw [clientMessages_order]
    exact List.nodup_range
  · intro e
    cases e <;> decide

/-- No case has an empty text, or that of the `default`. -/
theorem clientMessages_texts :
    ∀ r ∈ clientMessages, r.2 ≠ "" ∧ r.2 ≠ "Unknown error" := by
  decide

/-- The table of `misc_category::message`. -/
def miscMessages : List String :=
  ["",
   "Failed to initialize MySQL handle",
   "Connection handle not initialized",
   "No more result sets",
   "Field value is NULL",
   "Failed to set autocommit mode",
   "Failed to commit",
   "Failed to rollback",
   "Unknown error"]

theorem miscMessages_empty {n : Nat} (h : miscMessages[n]? = some "") : n = 0 := by
  cases n with
  | zero => rfl
  | succ n =>
    have hmem : "" ∈ miscMessages.tail := List.mem_of_getElem? h
    exact absurd hmem (by decide)

def miscErrors : List ErrorCode :=
  [.initializationError, .notInitialized, .noMoreResults, .nullFieldValue,
   .autocommitSettingError, .commitError, .rollbackError, .unknown]

/-! ## `message` of a category -/

/-- What the texts take from outside the sources. -/
structure Categories where
  /-- The `CR_` constants. -/
  code : ClientErrors → Int32
  /-- A `switch` with two cases of one value does not compile. -/
  code_injective : Function.Injective code
  /-- `message` of a category that is not amy's, whichever `.system` stands for. -/
  other : Int32 → String
  /-- Whether the base class of `amy::system_error` asks for the message when it is
  built, as `std::system_error` does and Boost's does not. -/
  eager : Bool

/-- A `switch` over the rows' keys takes the row of the key it is given the code of. -/
theorem find?_code {K : Type} {code : K → Int32} (hcode : Function.Injective code)
    {rows : List (K × String)} (hrows : (rows.map Prod.fst).Nodup) {r : K × String}
    (hr : r ∈ rows) : rows.find? (code ·.1 == code r.1) = some r := by
  induction rows with
  | nil => cases hr
  | cons a rows ih =>
    rw [List.map_cons, List.nodup_cons] at hrows
    rcases List.mem_cons.mp hr with rfl | htail
    · simp
    · have hne : a.1 ≠ r.1 := fun h => hrows.1 (h ▸ List.mem_map_of_mem htail)
      rw [List.find?_cons_of_neg (by simpa using hcode.ne hne)]
      exact ih hrows.2 htail

namespace Categories

variable (C : Categories)

def clientMessage (value : Int32) : String :=
  match clientMessages.find? (C.code ·.1 == value) with
  | some r => r.2
  | none => "Unknown error"

/-- `misc_category::message`; `none` where it reads outside its table. -/
def miscMessage (value : Int32) : Option String :=
  -- `unknown_error` is the enumerator of `client_errors`, not `unknown` of `misc_errors`
  if value < 0 ∨ C.code .unknownError ≤ value then
    miscMessages[ErrorCode.unknown.value.toNatClampNeg]?
  else miscMessages[value.toNatClampNeg]?

def message (ec : ErrorCode) : Option String :=
  match ec.category with
  | .client => some (C.clientMessage ec.value)
  | .misc => C.miscMessage ec.value
  | .system => some (C.other ec.value)

variable {C}

theorem clientMessage_code {r : ClientErrors × String} (hr : r ∈ clientMessages) :
    C.clientMessage (C.code r.1) = r.2 := by
  rw [clientMessage, find?_code C.code_injective clientMessages_keys.1 hr]

/-- The client category knows the enumerators and nothing else. -/
theorem clientMessage_unknown {value : Int32} :
    C.clientMessage value = "Unknown error" ↔ ∀ e, C.code e ≠ value := by
  constructor
  · rintro h e rfl
    obtain ⟨r, hr, rfl⟩ := List.mem_map.mp (clientMessages_keys.2 e)
    exact (clientMessages_texts r hr).2 (clientMessage_code hr ▸ h)
  · intro h
    have hnone : clientMessages.find? (C.code ·.1 == value) = none := by
      rw [List.find?_eq_none]
      intro r _
      simpa using h r.1
    rw [clientMessage, hnone]

theorem clientMessage_ne_empty (value : Int32) : C.clientMessage value ≠ "" := by
  unfold clientMessage
  split
  · rename_i r hr
    exact (clientMessages_texts r (List.mem_of_find?_eq_some hr)).1
  · decide

theorem miscMessage_guarded {value : Int32} (h : value < 0 ∨ C.code .unknownError ≤ value) :
    C.miscMessage value = some "Unknown error" := by
  rw [miscMessage, if_pos h]
  rfl

/-- The table is read outside between its last entry and `CR_UNKNOWN_ERROR`. -/
theorem miscMessage_none {value : Int32} :
    C.miscMessage value = none ↔ 8 < value ∧ value < C.code .unknownError := by
  by_cases h : value < 0 ∨ C.code .unknownError ≤ value
  · rw [miscMessage_guarded h]
    simp only [Int32.lt_iff_toInt_lt, Int32.le_iff_toInt_le, Int32.reduceToInt, reduceCtorEq,
      false_iff] at h ⊢
    omega
  · have hlen : miscMessages.length = 9 := rfl
    rw [miscMessage, if_neg h, List.getElem?_eq_none_iff, hlen, ← Int32.toNat_toInt]
    simp only [Int32.lt_iff_toInt_lt, Int32.le_iff_toInt_le, Int32.reduceToInt] at h ⊢
    omega

theorem miscMessage_ne_empty {value : Int32} (h : value ≠ 0) : C.miscMessage value ≠ some "" := by
  intro he
  unfold miscMessage at he
  split at he
  · exact absurd he (by decide)
  · rename_i hguard
    have hn := miscMessages_empty he
    apply h
    rw [← Int32.toInt_inj]
    rw [← Int32.toNat_toInt] at hn
    simp only [Int32.lt_iff_toInt_lt, Int32.le_iff_toInt_le, Int32.reduceToInt] at hguard ⊢
    omega

theorem message_miscErrors (hu : 8 < C.code .unknownError) :
    miscErrors.map C.message = miscMessages.tail.map some := by
  have hin : ∀ e ∈ miscErrors, C.message e = miscMessages[e.value.toNatClampNeg]? := by
    intro e he
    obtain ⟨hcat, h0, h8⟩ : e.category = .misc ∧ 0 ≤ e.value ∧ e.value ≤ 8 := by
      revert e
      decide
    rw [message, hcat, miscMessage, if_neg]
    simp only [Int32.lt_iff_toInt_lt, Int32.le_iff_toInt_le, Int32.reduceToInt] at hu h0 h8 ⊢
    omega
  rw [List.map_congr_left hin]
  rfl

/-- Amy's own categories have a text for every error. -/
theorem message_ne_empty {ec : ErrorCode} (hf : ec.failed = true) (hc : ec.category ≠ .system) :
    C.message ec ≠ some "" := by
  obtain ⟨value, category⟩ := ec
  cases category with
  | misc => exact miscMessage_ne_empty (by simpa [ErrorCode.failed] using hf)
  | client =>
    intro h
    exact clientMessage_ne_empty value (Option.some_inj.mp h)
  | system => exact absurd rfl hc

theorem message_none {ec : ErrorCode} :
    C.message ec = none ↔
      ec.category = .misc ∧ 8 < ec.value ∧ ec.value < C.code .unknownError := by
  obtain ⟨value, category⟩ := ec
  cases category with
  | misc => simp [message, miscMessage_none]
  | client => simp [message]
  | system => simp [message]

end Categories

/-! ## The documented constants -/

/-- The documented constants: `errmsg.h` counts from 2000 on, and `MYSQL_SECURE_AUTH` is an
option of `mysql.h`. -/
def ClientErrors.documented (e : ClientErrors) : Int32 :=
  if e = .secureAuth then 18 else .ofNat (2000 + e.ctorIdx)

theorem ClientErrors.documented_injective : Function.Injective ClientErrors.documented := by
  have hnodup : ((clientMessages.map Prod.fst).map documented).Nodup := by decide
  intro e f h
  exact List.inj_on_of_nodup_map hnodup (clientMessages_keys.2 e) (clientMessages_keys.2 f) h

/-- The C++ standard library's exceptions, and its `system_category` as far as cancelation
goes. -/
def Categories.standard : Categories where
  code := ClientErrors.documented
  code_injective := ClientErrors.documented_injective
  other value := if value = 125 then "Operation canceled" else "Unknown error " ++ toString value
  eager := true

/-- `secure_auth` is not `CR_SECURE_AUTH`. -/
example : Categories.standard.clientMessage 2049 = "Unknown error" := by decide

/-! ## What the two paths tell -/

/-- The string `error_message` returns. -/
def ErrorText.text (C : Categories) : ErrorText → Option String
  | .native text => some text
  | .category ec => C.message ec

namespace Categories

variable (C : Categories)

/-- How the library describes `ec`, `m` being the handle. -/
def described (L : Library M) (m : M) (ec : ErrorCode) : Option String :=
  if ec.category = .client ∧ L.errno m = ec.value.toUInt32 then some (L.error m)
  else C.message ec

/-- `throw_error` throws `ec` itself, described as the library does. -/
def Throws (L : Library M) (i : Implementation M) (ec : ErrorCode) : Prop :=
  ∃ e, (Detail.throwError L ec i).out = .error e ∧ e.code = ec ∧
    some e.what = C.described L i.mysql.st ec

/-- The base class of the exception is built without a read outside the table. -/
def BaseDefined (ec : ErrorCode) : Prop := C.eager = true → (C.message ec).isSome = true

instance (ec : ErrorCode) : Decidable (C.BaseDefined ec) :=
  inferInstanceAs (Decidable (_ → _))

/-- The exception and the string of `error_message` say of `ec` what the library
says, and both are made without a read outside the table. -/
structure Agree (svc : MySQLService) (L : Library M) (i : Implementation M) (ec : ErrorCode) :
    Prop where
  thrown : C.Throws L i ec
  returned : (Connector.errorMessage svc L i ec).1.text C = C.described L i.mysql.st ec
  base : C.BaseDefined ec
  text : ((Connector.errorMessage svc L i ec).1.text C).isSome = true

variable {C} {svc : MySQLService} {L : Library M} {i : Implementation M} {ec : ErrorCode}

/-- `error_message` compares the errno, whatever the category. -/
theorem errorMessage_text :
    (Connector.errorMessage svc L i ec).1.text C =
      if L.errno i.mysql.st = ec.value.toUInt32 then some (L.error i.mysql.st)
      else C.message ec := by
  rw [Connector.errorMessage_eq]
  by_cases h : L.errno i.mysql.st = ec.value.toUInt32
  · simp [Service.errorMessage, ErrorText.text, h]
  · simp [Service.errorMessage, ErrorText.text, h]

/-- The exception compares the category, whatever the errno. -/
theorem throwError_failed (h : ec.failed = true) :
    (Detail.throwError L ec i).out =
      .error ⟨ec, if ec.category = .client then L.error i.mysql.st else ""⟩ := by
  unfold Detail.throwError
  split_ifs <;> rfl

theorem described_client (hc : ec.category = .client) :
    C.described L i.mysql.st ec = if L.errno i.mysql.st = ec.value.toUInt32
      then some (L.error i.mysql.st) else some (C.clientMessage ec.value) := by
  simp [described, hc, message]

theorem described_foreign (hc : ec.category ≠ .client) (m : M) :
    C.described L m ec = C.message ec := by
  simp [described, hc]

theorem message_isSome (hc : ec.category ≠ .misc) : (C.message ec).isSome = true := by
  rw [Option.isSome_iff_ne_none]
  exact fun h => hc (message_none.mp h).1

/-- `what` is the handle's text for a client code and empty for any other, and that has to be
the description. -/
theorem thrown_iff (h : ec.failed = true) :
    C.Throws L i ec ↔
      some (if ec.category = .client then L.error i.mysql.st else "") =
        C.described L i.mysql.st ec := by
  rw [Throws, throwError_failed h]
  constructor
  · rintro ⟨e, he, -, hw⟩
    obtain rfl := Except.error.inj he
    exact hw
  · intro hw
    exact ⟨_, rfl, rfl, hw⟩

/-- `error_message` goes wrong where a code that is not the library's has the value of
the handle's errno. -/
theorem returned_iff :
    (Connector.errorMessage svc L i ec).1.text C = C.described L i.mysql.st ec ↔
      ec.category = .client ∨
        (L.errno i.mysql.st = ec.value.toUInt32 → C.message ec = some (L.error i.mysql.st)) := by
  rw [errorMessage_text]
  by_cases hc : ec.category = .client
  · simp [described, hc]
  · rw [described_foreign hc]
    simp only [hc, false_or]
    split_ifs with he
    · simp only [he, true_imp_iff]
      exact eq_comm
    · simp only [he, false_imp_iff]

theorem text_isSome (h : (C.message ec).isSome = true) :
    ((Connector.errorMessage svc L i ec).1.text C).isSome = true := by
  rw [errorMessage_text]
  split_ifs
  · rfl
  · exact h

/-- A client code: the handle's error is the code's, or reads like it. -/
theorem agree_client (h : ec.failed = true) (hc : ec.category = .client) :
    C.Agree svc L i ec ↔
      L.errno i.mysql.st = ec.value.toUInt32 ∨ L.error i.mysql.st = C.clientMessage ec.value := by
  have hsome : (C.message ec).isSome = true := message_isSome (by simp [hc])
  constructor
  · intro ha
    have hw := (thrown_iff h).mp ha.thrown
    rw [described_client hc, if_pos hc] at hw
    split_ifs at hw with he
    · exact .inl he
    · exact .inr (Option.some_inj.mp hw)
  · intro hor
    refine ⟨(thrown_iff h).mpr ?_, returned_iff.mpr (.inl hc), fun _ => hsome, text_isSome hsome⟩
    rw [described_client hc, if_pos hc]
    split_ifs with he
    · rfl
    · rw [hor.resolve_left he]

/-- No misc code: the exception has no text, and every one of them has a text. -/
theorem not_agree_misc (h : ec.failed = true) (hc : ec.category = .misc) :
    ¬ C.Agree svc L i ec := by
  intro ha
  have hw := (thrown_iff h).mp ha.thrown
  rw [described_foreign (by simp [hc]), if_neg (by simp [hc])] at hw
  exact message_ne_empty h (by simp [hc]) hw.symm

/-- A code of any other category: that has no text for it, and nor has the handle if its
errno is the code's value. -/
theorem agree_other (h : ec.failed = true) (hc : ec.category = .system) :
    C.Agree svc L i ec ↔ C.other ec.value = "" ∧
      (L.errno i.mysql.st = ec.value.toUInt32 → L.error i.mysql.st = "") := by
  have hne : ec.category ≠ .client := by simp [hc]
  have hsome : (C.message ec).isSome = true := message_isSome (by simp [hc])
  have hm : C.message ec = some (C.other ec.value) := by simp [message, hc]
  have hthrown : C.Throws L i ec ↔ some "" = some (C.other ec.value) := by
    rw [thrown_iff h, described_foreign hne, if_neg hne, hm]
  constructor
  · intro ha
    have hempty : C.other ec.value = "" := (Option.some_inj.mp (hthrown.mp ha.thrown)).symm
    refine ⟨hempty, fun he => ?_⟩
    have hr := (returned_iff.mp ha.returned).resolve_left hne he
    rw [hm, hempty] at hr
    exact (Option.some_inj.mp hr).symm
  · rintro ⟨hempty, herr⟩
    refine ⟨hthrown.mpr ?_, returned_iff.mpr (.inr fun he => ?_), fun _ => hsome, text_isSome hsome⟩
    · rw [hempty]
    · rw [hm, hempty, herr he]

variable (C) in
/-- The codes and handles that both paths describe alike. -/
def Alike (L : Library M) (m : M) (ec : ErrorCode) : Prop :=
  match ec.category with
  | .client => L.errno m = ec.value.toUInt32 ∨ L.error m = C.clientMessage ec.value
  | .misc => False
  | .system => C.other ec.value = "" ∧ (L.errno m = ec.value.toUInt32 → L.error m = "")

/-- **The two paths tell the library's story** of a client code that is the handle's error, or
of one that reads like it; of no code of `misc_errors`; and of a code of another category only
where there is nothing to tell. -/
theorem agree_iff (svc : MySQLService) (L : Library M) (i : Implementation M) {ec : ErrorCode}
    (h : ec.failed = true) : C.Agree svc L i ec ↔ C.Alike L i.mysql.st ec := by
  unfold Alike
  cases hc : ec.category with
  | client => exact agree_client h hc
  | misc => exact iff_of_false (not_agree_misc h hc) id
  | system => exact agree_other h hc

end Categories

theorem Categories.agree_iff_connHost :
    (ErrorCode.client 2003).failed = true ∧
      Categories.standard.Agree .mysql Script.library (.construct { errno := 2003 })
        (.client 2003) :=
  ⟨rfl, (Categories.agree_iff .mysql _ _ rfl).mpr (.inl rfl)⟩

/-- On a connector that is not open the exception is silent where `error_message` is not; a
client code that the handle has forgotten gets the text of another error; a misc code after the
last is looked up outside the table. -/
theorem Categories.not_agree_notInitialized :
    let C := Categories.standard
    let throws (m : Script) ec := (Detail.throwError Script.library ec (.construct m)).out
    let returns (m : Script) ec :=
      (Connector.errorMessage .mysql Script.library (.construct m) ec).1.text C
    throws {} .notInitialized = .error ⟨.notInitialized, ""⟩ ∧
      returns {} .notInitialized = some "Connection handle not initialized" ∧
      ¬ C.Agree .mysql Script.library (.construct {}) .notInitialized ∧
      throws { errno := 1064 } (.client 2003) = .error ⟨.client 2003, "server error"⟩ ∧
      returns { errno := 1064 } (.client 2003) = some "Can't connect to MySQL server" ∧
      ¬ C.Agree .mysql Script.library (.construct { errno := 1064 }) (.client 2003) ∧
      returns {} ⟨9, .misc⟩ = none ∧ ¬ C.BaseDefined ⟨9, .misc⟩ := by
  refine ⟨rfl, by decide, not_agree_misc rfl rfl, rfl, by decide, ?_, by decide, by decide⟩
  rw [agree_client rfl rfl]
  decide

/-! ## The codes that operations report -/

/-- A code that reports an error has the errno of the handle, or is one of `misc_errors`. -/
def Reports (L : Library M) (m : M) (ec : ErrorCode) : Prop :=
  ec.failed = true → ec = .client (L.errno m) ∨ ec ∈ miscErrors

namespace Reports

variable {L : Library M} {i : Implementation M} {h : Mysql M} {m : M}

theorem silent {ec : ErrorCode} (h : ec.failed = false) : Reports L m ec :=
  fun hf => absurd (h.symm.trans hf) Bool.false_ne_true

theorem clear : Reports L m .clear := silent rfl

theorem client : Reports L m (.client (L.errno m)) := fun _ => .inl rfl

theorem misc {ec : ErrorCode} (he : ec ∈ miscErrors) : Reports L m ec := fun _ => .inr he

theorem ite {b : Prop} [Decidable b] {e : ErrorCode} (he : e ∈ miscErrors) :
    Reports L m (if b then e else .clear) := by
  split_ifs
  · exact misc he
  · exact clear

theorem wrapped {R : Type} [ReturnType R] (ec : ErrorCode) (c : Call) (r : R × M) :
    Reports L (wrapped L h ec c r).mysql.st (wrapped L h ec c r).ec := by
  simp only [Amy.wrapped, errorWrapper]
  split_ifs
  · exact client
  · exact clear

theorem init (ec : ErrorCode) : Reports L (mysqlInit L h ec).mysql.st (mysqlInit L h ec).ec := by
  unfold mysqlInit
  split
  · exact clear
  · exact misc (by simp [miscErrors])

theorem assign {x : ResultSet} {r : Option MysqlRes} {ec : ErrorCode} (hec : Reports L h.st ec) :
    Reports L (x.assign L h r ec).mysql.st (x.assign L h r ec).ec := by
  cases r with
  | none => exact hec
  | some r =>
    simp only [ResultSet.assign, ResultSet.fetchRows_eq]
    split_ifs
    · exact hec
    · exact client
    · exact client

theorem «open» (ec : ErrorCode) :
    Reports L (Service.open L i ec).impl.mysql.st (Service.open L i ec).ec := by
  unfold Service.open
  split_ifs
  · exact init _
  · exact clear

theorem connect (c : ConnectRequest) (ec : ErrorCode) :
    Reports L (Service.connect L i c ec).impl.mysql.st (Service.connect L i c ec).ec := by
  simp only [Service.connect]
  split_ifs
  · exact «open» ec
  · exact wrapped _ _ _
  · exact wrapped _ _ _

theorem query (stmt : String) (ec : ErrorCode) :
    Reports L (Service.query L i stmt ec).impl.mysql.st (Service.query L i stmt ec).ec := by
  unfold Service.query
  split_ifs
  · exact misc (by simp [miscErrors])
  · exact wrapped _ _ _

theorem nextResult {ec : ErrorCode} (hec : ec.failed = false) :
    Reports L (Service.nextResult L i ec).impl.mysql.st (Service.nextResult L i ec).ec := by
  simp only [Service.nextResult]
  split_ifs
  · exact misc (by simp [miscErrors])
  · exact wrapped _ _ _
  · exact silent hec

theorem retrieve (ec : ErrorCode) :
    Reports L (Service.retrieve L i ec).impl.mysql.st (Service.retrieve L i ec).ec := by
  apply assign
  rw [Implementation.resetResult_st]
  exact wrapped _ _ _

theorem storeResult {ec : ErrorCode} (hec : ec.failed = false) :
    Reports L (Service.storeResult L i ec).impl.mysql.st (Service.storeResult L i ec).ec := by
  simp only [Service.storeResult]
  split_ifs
  · exact nextResult hec
  · exact retrieve _

theorem autocommit (mode : Bool) (ec : ErrorCode) :
    Reports L (Service.autocommit L i mode ec).impl.mysql.st (Service.autocommit L i mode ec).ec :=
  ite (by simp [miscErrors])

theorem commit (ec : ErrorCode) :
    Reports L (Service.commit L i ec).impl.mysql.st (Service.commit L i ec).ec := by
  simp only [Service.commit]
  split_ifs
  · exact misc (by simp [miscErrors])
  · exact ite (by simp [miscErrors])

theorem rollback (ec : ErrorCode) :
    Reports L (Service.rollback L i ec).impl.mysql.st (Service.rollback L i ec).ec := by
  simp only [Service.rollback]
  split_ifs
  · exact misc (by simp [miscErrors])
  · exact ite (by simp [miscErrors])

theorem done {o : Done M} {ec : ErrorCode} (h : o.reply.2.code? = some ec)
    (ho : Reports L o.impl.mysql.st o.ec) : Reports L o.reply.1.mysql.st ec := by
  obtain rfl := Option.some_inj.mp h
  exact ho

theorem stored {o : Stored M} {ec : ErrorCode} (h : o.reply.2.code? = some ec)
    (ho : Reports L o.impl.mysql.st o.ec) : Reports L o.reply.1.mysql.st ec := by
  obtain rfl := Option.some_inj.mp h
  exact ho

end Reports

/-- Every failed code an operation reports is the errno of the handle it leaves, or one of
`misc_errors`. -/
theorem perform_reports (svc : MySQLService) (L : Library M) (i : Implementation M)
    {op : Operation} {ec : ErrorCode} (h : (perform svc L i .clear op).2.code? = some ec) :
    Reports L (perform svc L i .clear op).1.mysql.st ec := by
  cases op with
  | «open» =>
    rw [perform_open] at h ⊢
    exact .done h (.open _)
  | connect c =>
    rw [perform_connect] at h ⊢
    exact .done h (.connect c _)
  | query stmt =>
    rw [perform_query] at h ⊢
    exact .done h (.query stmt _)
  | storeResult =>
    rw [perform_storeResult] at h ⊢
    exact .stored h (.storeResult rfl)
  | queryResult stmt =>
    rw [perform_queryResult] at h ⊢
    split_ifs at h ⊢ with hq
    · exact .stored h (.query stmt _)
    · exact .stored h (.storeResult (Bool.not_eq_true _ ▸ hq))
  | setOption o =>
    rcases perform_setOption svc L i .clear o with heq | heq
    · rw [heq] at h ⊢
      obtain rfl := Option.some_inj.mp h
      exact .misc (by simp [miscErrors])
    · rw [heq] at h ⊢
      exact .done h (.wrapped _ _ _)
  | autocommit mode =>
    rw [perform_autocommit] at h ⊢
    exact .done h (.autocommit mode _)
  | commit =>
    rw [perform_commit] at h ⊢
    exact .done h (.commit _)
  | rollback =>
    rw [perform_rollback] at h ⊢
    exact .done h (.rollback _)
  | _ => cases h

/-- Of the errors that the connector itself reports, the library's are described alike and no
other is. -/
theorem perform_agree {C : Categories} {svc : MySQLService} {L : Library M} {i : Implementation M}
    {op : Operation} {ec : ErrorCode} (h : (perform svc L i .clear op).2.code? = some ec)
    (hf : ec.failed = true) :
    C.Agree svc L (perform svc L i .clear op).1 ec ↔ ec.category = .client := by
  rcases perform_reports svc L i h hf with he | he
  · have hc : ec.category = .client := by rw [he]; rfl
    have herrno : L.errno (perform svc L i .clear op).1.mysql.st = ec.value.toUInt32 := by
      conv => rhs; rw [he]
      exact (UInt32.toUInt32_toInt32 _).symm
    exact iff_of_true ((Categories.agree_client hf hc).mpr (.inl herrno)) hc
  · have hc : ∀ e ∈ miscErrors, e.category = .misc := by decide
    exact iff_of_false (Categories.not_agree_misc hf (hc ec he)) (by simp [hc ec he])

/-- Nor is the table read outside for one of them. -/
theorem perform_message {C : Categories} {svc : MySQLService} {L : Library M}
    {i : Implementation M} {op : Operation} {ec : ErrorCode}
    (h : (perform svc L i .clear op).2.code? = some ec) : (C.message ec).isSome = true := by
  rw [Option.isSome_iff_ne_none, ne_eq, Categories.message_none]
  rintro ⟨hc, h8, -⟩
  have hf : ec.failed = true := by
    rw [ErrorCode.failed, bne_iff_ne]
    intro h0
    rw [h0] at h8
    exact absurd h8 (by decide)
  rcases perform_reports svc L i h hf with rfl | he
  · cases hc
  · have hle : ∀ e ∈ miscErrors, ¬ 8 < e.value := by decide
    exact hle ec he h8

end Amy
