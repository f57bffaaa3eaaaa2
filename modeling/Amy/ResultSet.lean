import Amy.Ops

/-!
# Fields, rows and result sets

`assign` copies a stored native result into the vectors of a `result_set`:
the column metadata first, then the rows until `mysql_fetch_row` answers null.
A null row is how the wrapper reports both the end and a failure, so the code
`assign` ends with is the handle's errno at that null.

A `result_set` holds its native result by a weak pointer, here the address of
the `MYSQL_RES`; its two vectors are behind shared pointers, `none` once reset.
-/

namespace Amy

variable {M : Type}

/-- `field_info`, a pointer to a `MYSQL_FIELD`. -/
structure FieldInfo where
  field : MysqlField
  deriving DecidableEq, Repr

/-- `field`: `value_str_` (the memory it points at, `none` for SQL NULL) and `length_`. -/
structure Field where
  valueStr : Option (List UInt8)
  length : Nat
  deriving DecidableEq, Repr

def Field.isNull (f : Field) : Bool := f.valueStr.isNone

structure Row where
  /-- `result_set_`, the native result the row came from. -/
  resultSet : Nat
  fields : List Field
  fieldsInfo : List FieldInfo
  deriving DecidableEq, Repr

/-- `row::build_fields`: one field for each of the result's `field_count` columns. -/
def Row.build (rs : MysqlRes) (row : List Cell) (info : List FieldInfo) : Row where
  resultSet := rs.ptr
  fields := (List.range rs.numFields).map fun i =>
    let cell := row.getD i ⟨none, 0⟩
    ⟨cell.value, cell.length⟩
  fieldsInfo := info

structure ResultSet where
  /-- Whether `mysql_` points at the connector's handle (it is null otherwise). -/
  mysql : Bool
  /-- The native result the weak pointer refers to. -/
  resultSet : Option Nat
  values : Option (List Row)
  fieldsInfo : Option (List FieldInfo)
  deriving DecidableEq, Repr

namespace ResultSet

def fresh : ResultSet := ⟨false, none, some [], some []⟩

/-- `result_set::empty_set(&impl.mysql)`. -/
def emptySet : ResultSet := ⟨true, none, some [], some []⟩

/-- The fetch loop of `assign`: rows are appended until `mysql_fetch_row` answers null. -/
def fetchRows (L : Library M) (rs : MysqlRes) (info : List FieldInfo) :
    List (List Cell) → Mysql M → List Row → ErrorCode → List Row × Mysql M × ErrorCode
  | [], h, values, ec =>
    let st := L.fetchNull rs h.st
    (values, { h with st := st },
      errorWrapper (none : Option (List Cell)) (L.errno st) (clearError ec))
  | r :: rows, h, values, ec =>
    fetchRows L rs info rows h (values ++ [Row.build rs r info])
      (errorWrapper (some r) (L.errno h.st) (clearError ec))

/-- What `assign` leaves: the set, the handle, the caller's code. -/
structure Assigned (M : Type) where
  rs : ResultSet
  mysql : Mysql M
  ec : ErrorCode

def assign (L : Library M) (x : ResultSet) (h : Mysql M) (rs : Option MysqlRes) (ec : ErrorCode) :
    Assigned M :=
  let x := { x with mysql := true }
  match rs with
  | none => ⟨x, h, ec⟩
  | some rs =>
    let x := { x with resultSet := some rs.ptr }
    if rs.rowCount = 0 then ⟨x, h, ec⟩
    else
      let info := rs.fields.map FieldInfo.mk
      let f := fetchRows L rs info rs.data h [] ec
      let x := { x with values := x.values.map (· ++ f.1), fieldsInfo := some info }
      if f.2.2.failed then
        ⟨{ x with values := none, fieldsInfo := none, resultSet := none }, f.2.1, f.2.2⟩
      else ⟨x, f.2.1, f.2.2⟩

theorem fetchRows_eq (L : Library M) (rs : MysqlRes) (info : List FieldInfo)
    (rows : List (List Cell)) (h : Mysql M) (values : List Row) (ec : ErrorCode) :
    fetchRows L rs info rows h values ec =
      (values ++ rows.map (Row.build rs · info), { h with st := L.fetchNull rs h.st },
        .client (L.errno (L.fetchNull rs h.st))) := by
  induction rows generalizing values ec with
  | nil => simp [fetchRows, errorWrapper]
  | cons r rows ih => simp [fetchRows, ih]

/-- The set `assign` makes of a native result whose rows it could all fetch. -/
def ofRes (rs : MysqlRes) : ResultSet :=
  if rs.rowCount = 0 then ⟨true, some rs.ptr, some [], some []⟩
  else
    let info := rs.fields.map FieldInfo.mk
    ⟨true, some rs.ptr, some (rs.data.map (Row.build rs · info)), some info⟩

@[simp] theorem assign_none (L : Library M) (h : Mysql M) (ec : ErrorCode) :
    assign L fresh h none ec = ⟨emptySet, h, ec⟩ := rfl

/-- A native result read to its end without an errno is copied whole, and the
code stays clear. -/
theorem assign_some (L : Library M) (h : Mysql M) (rs : MysqlRes) (ec : ErrorCode)
    (hec : ec.failed = false) (hend : L.errno (L.fetchNull rs h.st) = 0) :
    (assign L fresh h (some rs) ec).rs = ofRes rs ∧
      (assign L fresh h (some rs) ec).ec.failed = false ∧
      (assign L fresh h (some rs) ec).mysql.calls = h.calls := by
  by_cases hr : rs.rowCount = 0
  · simp [assign, ofRes, fresh, hr, hec]
  · simp [assign, ofRes, fresh, hr, fetchRows_eq, hend]

@[simp] theorem assign_calls (L : Library M) (x : ResultSet) (h : Mysql M)
    (rs : Option MysqlRes) (ec : ErrorCode) : (assign L x h rs ec).mysql.calls = h.calls := by
  cases rs with
  | none => rfl
  | some rs =>
    simp only [assign, fetchRows_eq]
    split
    · rfl
    · split <;> rfl

theorem assign_st (L : Library M) (x : ResultSet) (h : Mysql M) (rs : Option MysqlRes)
    (ec : ErrorCode) : (assign L x h rs ec).mysql.st = h.st ∨
      ∃ r, rs = some r ∧ (assign L x h rs ec).mysql.st = L.fetchNull r h.st := by
  cases rs with
  | none => exact .inl rfl
  | some rs =>
    simp only [assign, fetchRows_eq]
    split
    · exact .inl rfl
    · right
      refine ⟨rs, rfl, ?_⟩
      split <;> rfl

end ResultSet

end Amy
