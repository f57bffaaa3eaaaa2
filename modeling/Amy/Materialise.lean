import Amy.Expiry
import Amy.Script
import Amy.ValueCast

/-!
# A native result read through its cursors

`ResultSet.assign` takes what the two cursors of a native result will yield as
lists. Here the cursors stand as they are: `mysql_fetch_field` and
`mysql_fetch_row` move them and answer null at the end, and every
`mysql_fetch_lengths` fills the one array of lengths the result has
(`Cursor`). `Cursor.assign` runs the loops of `result_set::assign` over them and
is the same function (`Cursor.assign_start`), so a table the library holds comes
out cell by cell (`assign_faithful`).
-/

namespace Amy

variable {M : Type}

/-- `row_type`: an array of pointers, `none` for SQL NULL. -/
abbrev RowType := List (Option (List UInt8))

structure Cursor where
  res : MysqlRes
  /-- The fields from `current_field` on. -/
  fieldsLeft : List MysqlField
  /-- The rows from `data_cursor` on. -/
  rowsLeft : List (List Cell)
  currentRow : List Cell
  /-- The array `mysql_fetch_lengths` fills and returns. -/
  lengths : List Nat
  deriving DecidableEq, Repr

namespace Cursor

def start (r : MysqlRes) : Cursor := ⟨r, r.fields, r.data, [], []⟩

def fetchField (c : Cursor) : Option MysqlField × Cursor :=
  match c.fieldsLeft with
  | [] => (none, c)
  | f :: fs => (some f, { c with fieldsLeft := fs })

def fetchRow (c : Cursor) : Option RowType × Cursor :=
  match c.rowsLeft with
  | [] => (none, { c with currentRow := [] })
  | r :: rs => (some (r.map Cell.value), { c with rowsLeft := rs, currentRow := r })

/-- The array is overwritten with the lengths of the row fetched last. -/
def fetchLengths (c : Cursor) : Cursor := { c with lengths := c.currentRow.map Cell.length }

theorem fetchField_fewer {c : Cursor} {f : MysqlField} (h : c.fetchField.1 = some f) :
    c.fetchField.2.fieldsLeft.length < c.fieldsLeft.length := by
  unfold fetchField at h ⊢
  cases hl : c.fieldsLeft with
  | nil => simp [hl] at h
  | cons f' fs => simp

theorem fetchRow_fewer {c : Cursor} {r : RowType} (h : c.fetchRow.1 = some r) :
    c.fetchRow.2.rowsLeft.length < c.rowsLeft.length := by
  unfold fetchRow at h ⊢
  cases hl : c.rowsLeft with
  | nil => simp [hl] at h
  | cons r' rs => simp

/-- `row::build_fields`, from the row's pointers and the array of lengths. -/
def buildFields (fieldCount : Nat) (row : RowType) (lengths : List Nat) : List Field :=
  (List.range fieldCount).foldl
    (fun fields i => fields ++ [⟨row.getD i none, lengths.getD i 0⟩]) []

def row (c : Cursor) (r : RowType) (info : List FieldInfo) : Row where
  resultSet := c.res.ptr
  fields := buildFields c.res.numFields r c.lengths
  fieldsInfo := info

def readFields (c : Cursor) (info : List FieldInfo) : List FieldInfo × Cursor :=
  match h : c.fetchField.1 with
  | none => (info, c.fetchField.2)
  | some f => c.fetchField.2.readFields (info ++ [⟨f⟩])
termination_by c.fieldsLeft.length
decreasing_by exact fetchField_fewer h

def readRows (L : Library M) (info : List FieldInfo) (c : Cursor) (h : Mysql M)
    (values : List Row) (ec : ErrorCode) : List Row × Mysql M × ErrorCode :=
  match _hr : c.fetchRow.1 with
  | none =>
    let st := L.fetchNull c.res h.st
    (values, { h with st := st },
      errorWrapper (none : Option RowType) (L.errno st) (clearError ec))
  | some r =>
    let c := c.fetchRow.2.fetchLengths
    c.readRows L info h (values ++ [c.row r info])
      (errorWrapper (some r) (L.errno h.st) (clearError ec))
termination_by c.rowsLeft.length
decreasing_by exact fetchRow_fewer _hr

/-- Where the loop over the rows leaves the native result. -/
def afterRows (c : Cursor) : Cursor :=
  match _h : c.fetchRow.1 with
  | none => c.fetchRow.2
  | some _ => c.fetchRow.2.fetchLengths.afterRows
termination_by c.rowsLeft.length
decreasing_by exact fetchRow_fewer _h

/-- `result_set::assign`, reading the native result through its cursors. -/
def assign (L : Library M) (x : ResultSet) (h : Mysql M) (rs : Option Cursor) (ec : ErrorCode) :
    ResultSet.Assigned M :=
  let x := { x with mysql := true }
  match rs with
  | none => ⟨x, h, ec⟩
  | some c =>
    let x := { x with resultSet := some c.res.ptr }
    if c.res.rowCount = 0 then ⟨x, h, ec⟩
    else
      let info := c.readFields []
      let f := info.2.readRows L info.1 h [] ec
      let x := { x with values := x.values.map (· ++ f.1), fieldsInfo := some info.1 }
      if f.2.2.failed then
        ⟨{ x with values := none, fieldsInfo := none, resultSet := none }, f.2.1, f.2.2⟩
      else ⟨x, f.2.1, f.2.2⟩

/-! ## What the loops read -/

theorem buildFields_eq (n : Nat) (row : RowType) (lengths : List Nat) :
    buildFields n row lengths =
      (List.range n).map fun i => ⟨row.getD i none, lengths.getD i 0⟩ := by
  induction n with
  | zero => rfl
  | succ n ih =>
    simp only [buildFields] at ih ⊢
    rw [List.range_succ, List.foldl_append, ih]
    simp

/-- A row keeps the lengths that stood in the array when it was read. -/
theorem row_eq (c : Cursor) (r : List Cell) (rs : List (List Cell)) (info : List FieldInfo)
    (hl : c.rowsLeft = r :: rs) :
    c.fetchRow.2.fetchLengths.row (r.map Cell.value) info = Row.build c.res r info := by
  simp only [row, buildFields_eq, Row.build, fetchRow, fetchLengths, hl]
  congr 1
  refine List.map_congr_left fun i _ => ?_
  by_cases hi : i < r.length
  · simp [hi]
  · simp [hi]

/-- **Invariant of the loop over the fields**: what is collected and what the
cursor has still to yield make up the same list. -/
theorem readFields_eq (c : Cursor) (info : List FieldInfo) :
    c.readFields info =
      (info ++ c.fieldsLeft.map FieldInfo.mk, { c with fieldsLeft := [] }) := by
  fun_induction c.readFields info with
  | case1 c info h =>
    unfold fetchField at h
    cases hl : c.fieldsLeft with
    | nil =>
      obtain ⟨res, fieldsLeft, rowsLeft, row, lengths⟩ := c
      subst hl
      simp [fetchField]
    | cons f fs => simp [hl] at h
  | case2 c info f h ih =>
    rw [ih]
    unfold fetchField at h ⊢
    cases hl : c.fieldsLeft with
    | nil => simp [hl] at h
    | cons f' fs =>
      simp only [hl, Option.some.injEq] at h
      simp [h]

/-- **Invariant of the loop over the rows**: the rows built and those the cursor has
still to yield make up the same list, whatever the array of lengths holds. -/
theorem readRows_eq (L : Library M) (info : List FieldInfo) (c : Cursor) (h : Mysql M)
    (values : List Row) (ec : ErrorCode) :
    c.readRows L info h values ec =
      ResultSet.fetchRows L c.res info c.rowsLeft h values ec := by
  fun_induction Cursor.readRows L info c h values ec with
  | case1 c values ec hr st =>
    unfold fetchRow at hr
    cases hl : c.rowsLeft with
    | nil => rfl
    | cons r rs => simp [hl] at hr
  | case2 c values ec r hr c' ih =>
    rw [ih]
    cases hl : c.rowsLeft with
    | nil => simp [fetchRow, hl] at hr
    | cons cells rs =>
      have hcells : cells.map Cell.value = r := by simpa [fetchRow, hl] using hr
      have hrow : c'.row r info = Row.build c.res cells info :=
        hcells ▸ c.row_eq cells rs info hl
      have hres : c'.res = c.res := by simp [c', fetchRow, fetchLengths, hl]
      have hleft : c'.rowsLeft = rs := by simp [c', fetchRow, fetchLengths, hl]
      rw [hrow, hres, hleft, ResultSet.fetchRows]
      rfl

/-- The loop over the rows ends at the last of them. -/
theorem afterRows_read (c : Cursor) : c.afterRows.res = c.res ∧
    c.afterRows.fieldsLeft = c.fieldsLeft ∧ c.afterRows.rowsLeft = [] := by
  fun_induction Cursor.afterRows c with
  | case1 c h =>
    cases hl : c.rowsLeft with
    | nil => simp [fetchRow, hl]
    | cons r rs => simp [fetchRow, hl] at h
  | case2 c r h ih =>
    cases hl : c.rowsLeft with
    | nil => simp [fetchRow, hl] at h
    | cons cells rs =>
      simp only [fetchRow, fetchLengths, hl] at ih ⊢
      exact ih

/-- Read from its start, the result is copied as `ResultSet.assign` says. -/
theorem assign_start (L : Library M) (x : ResultSet) (h : Mysql M) (rs : Option MysqlRes)
    (ec : ErrorCode) : assign L x h (rs.map start) ec = ResultSet.assign L x h rs ec := by
  cases rs with
  | none => rfl
  | some r => simp [assign, ResultSet.assign, start, readFields_eq, readRows_eq]

end Cursor

/-! ## Tables -/

/-- A cell of memory holds a value: NULL, or bytes of a known length with anything behind. -/
inductive Cell.Holds : Cell → Option (List UInt8) → Prop
  | null (length : Nat) : Holds ⟨none, length⟩ none
  | bytes (bytes rest : List UInt8) : Holds ⟨some (bytes ++ rest), bytes.length⟩ (some bytes)

structure MysqlRes.Holds (r : MysqlRes) (table : List (List (Option (List UInt8)))) : Prop where
  counted : r.rowCount.toNat = table.length
  width : ∀ cells ∈ r.data, cells.length = r.numFields
  cells : List.Forall₂ (List.Forall₂ Cell.Holds) r.data table

def Field.data (f : Field) : Option (List UInt8) := f.valueStr

def Field.size (f : Field) : Nat := f.length

/-- What the accessors of a field say of the value it was built from. -/
structure Field.Denotes (f : Field) (v : Option (List UInt8)) : Prop where
  isNull : f.isNull = v.isNone
  size : ∀ bytes ∈ v, f.size = bytes.length
  data : ∀ bytes ∈ v, f.data.map (List.take f.size) = some bytes
  string : ∀ bytes ∈ v, f.as valueCastString = some bytes

theorem Cell.Holds.denotes {c : Cell} {v : Option (List UInt8)} (h : c.Holds v) :
    Field.Denotes ⟨c.value, c.length⟩ v := by
  cases h with
  | null length => constructor <;> simp [Field.isNull]
  | bytes bytes rest =>
    constructor <;> simp [Field.isNull, Field.size, Field.data, Field.as, valueCastString]

theorem Row.build_fields {rs : MysqlRes} {cells : List Cell} (h : cells.length = rs.numFields)
    (info : List FieldInfo) :
    (Row.build rs cells info).fields = cells.map fun c => ⟨c.value, c.length⟩ := by
  simp only [Row.build, ← h]
  apply List.ext_getElem
  · simp
  · intro i h₁ h₂
    have hi : i < cells.length := by simpa using h₂
    simp [hi]

def Row.Denotes (columns : Nat) (row : Row) (values : List (Option (List UInt8))) : Prop :=
  row.fields.length = columns ∧ List.Forall₂ Field.Denotes row.fields values

theorem Row.build_denotes {rs : MysqlRes} {cells : List Cell} {values : List (Option (List UInt8))}
    (hw : cells.length = rs.numFields) (h : List.Forall₂ Cell.Holds cells values)
    (info : List FieldInfo) : (Row.build rs cells info).Denotes rs.numFields values := by
  refine ⟨by simp [Row.build], ?_⟩
  rw [Row.build_fields hw, List.forall₂_map_left_iff]
  exact h.imp fun _ _ hc => hc.denotes

theorem MysqlRes.Holds.rows {r : MysqlRes} {table : List (List (Option (List UInt8)))}
    (h : r.Holds table) (info : List FieldInfo) :
    List.Forall₂ (Row.Denotes r.numFields) (r.data.map (Row.build r · info)) table := by
  obtain ⟨-, hw, hcells⟩ := h
  generalize r.data = data at hw hcells ⊢
  induction hcells with
  | nil => exact .nil
  | cons hrow _ ih =>
    exact .cons (Row.build_denotes (hw _ (by simp)) hrow info)
      (ih fun cells hc => hw cells (by simp [hc]))

/-- **Row materialisation is faithful**: a fresh set assigned a native result read to
its end without an errno has exactly the table's rows, in order, cell by cell. -/
theorem assign_faithful (L : Library M) (h : Mysql M) (r : MysqlRes)
    (table : List (List (Option (List UInt8)))) (ec : ErrorCode) (hr : r.Holds table)
    (hec : ec.failed = false) (hend : L.errno (L.fetchNull r h.st) = 0) :
    let a := Cursor.assign L .fresh h (some (.start r)) ec
    a.ec.failed = false ∧
      ∃ rows, a.rs.rows = some rows ∧ List.Forall₂ (Row.Denotes r.numFields) rows table := by
  have hstart := Cursor.assign_start L .fresh h (some r) ec
  rw [Option.map_some] at hstart
  obtain ⟨hrs, hcode, -⟩ := ResultSet.assign_some L h r ec hec hend
  simp only [hstart, hrs, hcode, true_and]
  by_cases h0 : r.rowCount = 0
  · -- the early exit: a table without rows
    have hlen : table.length = 0 := by rw [← hr.counted, h0]; rfl
    obtain rfl := List.length_eq_zero_iff.mp hlen
    exact ⟨[], by simp [ResultSet.rows, ResultSet.ofRes, h0], .nil⟩
  · exact ⟨_, by simp [ResultSet.rows, ResultSet.ofRes, h0], hr.rows (r.fields.map .mk)⟩

def MysqlField.named (name : String) : MysqlField := ⟨name, 0, 0, 0⟩

/-- Two rows: NULL and an empty text, a text with a zero byte inside and a number. -/
def MysqlRes.mixed : MysqlRes where
  ptr := 1
  rowCount := 2
  fields := [.named "a", .named "b"]
  data := [[⟨none, 0⟩, ⟨some [0], 0⟩], [⟨some [97, 0, 98, 0, 55, 0], 3⟩, ⟨some [55, 0], 1⟩]]

theorem MysqlRes.mixed_holds :
    MysqlRes.mixed.Holds [[none, some []], [some [97, 0, 98], some [55]]] where
  counted := rfl
  width := by decide
  cells := .cons (.cons (.null 0) (.cons (.bytes [] [0]) .nil))
    (.cons (.cons (.bytes [97, 0, 98] [0, 55, 0]) (.cons (.bytes [55] [0]) .nil)) .nil)

theorem assign_faithful_mixed :
    let a := Cursor.assign Script.library .fresh ⟨{}, []⟩ (some (.start .mixed)) .clear
    a.ec.failed = false ∧
      ∃ rows, a.rs.rows = some rows ∧ List.Forall₂ (Row.Denotes 2) rows
        [[none, some []], [some [97, 0, 98], some [55]]] :=
  assign_faithful Script.library ⟨{}, []⟩ .mixed _ .clear MysqlRes.mixed_holds rfl rfl

/-! ## Column metadata -/

/-- The set describes every column of its native result, and each row shares that. -/
def MetadataComplete (x : ResultSet) (r : MysqlRes) : Prop :=
  ∃ info, x.fieldsInfo = some info ∧ info.length = r.numFields ∧
    (∀ n (hn : n < r.fields.length), info[n]? = some ⟨r.fields[n]⟩) ∧
    ∃ rows, x.rows = some rows ∧
      ∀ row ∈ rows, row.fieldsInfo = info ∧ row.fields.length = info.length

theorem metadataComplete_ofRes (r : MysqlRes) :
    MetadataComplete (.ofRes r) r ↔ r.rowCount ≠ 0 ∨ r.numFields = 0 := by
  by_cases h0 : r.rowCount = 0
  · -- the early exit comes before the loop over the fields
    simp only [h0, ne_eq, not_true_eq_false, false_or]
    constructor
    · rintro ⟨info, hinfo, hlen, -⟩
      simp only [ResultSet.ofRes, h0, ↓reduceIte, Option.some.injEq] at hinfo
      rw [← hlen, ← hinfo, List.length_nil]
    · intro hn
      have hf : r.fields = [] := List.length_eq_zero_iff.mp hn
      refine ⟨[], by simp [ResultSet.ofRes, h0], hn.symm, by simp [hf], [], ?_, by simp⟩
      simp [ResultSet.rows, ResultSet.ofRes, h0]
  · refine ⟨fun _ => .inl h0, fun _ => ⟨r.fields.map .mk, ?_, ?_, ?_,
      r.data.map (Row.build r · (r.fields.map .mk)), ?_, ?_⟩⟩
    · simp [ResultSet.ofRes, h0]
    · simp [MysqlRes.numFields]
    · intro n hn
      simp [hn]
    · simp [ResultSet.rows, ResultSet.ofRes, h0]
    · intro row hrow
      obtain ⟨cells, -, rfl⟩ := List.mem_map.mp hrow
      simp [Row.build, MysqlRes.numFields]

theorem ResultSet.assign_ofRes {L : Library M} {h : Mysql M} {r : MysqlRes} {ec : ErrorCode}
    (hok : (ResultSet.assign L .fresh h (some r) ec).ec.failed = false) :
    (ResultSet.assign L .fresh h (some r) ec).rs = .ofRes r := by
  by_cases h0 : r.rowCount = 0
  · simp [ResultSet.assign, ResultSet.ofRes, ResultSet.fresh, h0]
  · simp only [ResultSet.assign, h0, ↓reduceIte, ResultSet.fetchRows_eq] at hok ⊢
    split at hok
    · rename_i hf
      rw [hf] at hok
      cases hok
    · rename_i hf
      rw [if_neg hf]
      simp [ResultSet.ofRes, h0, ResultSet.fresh]

/-- **Column metadata is complete** exactly if the result has a row, or no column. -/
theorem assign_metadata (L : Library M) (h : Mysql M) (r : MysqlRes) (ec : ErrorCode)
    (hok : (Cursor.assign L .fresh h (some (.start r)) ec).ec.failed = false) :
    MetadataComplete (Cursor.assign L .fresh h (some (.start r)) ec).rs r ↔
      r.rowCount ≠ 0 ∨ r.numFields = 0 := by
  have hstart := Cursor.assign_start L .fresh h (some r) ec
  rw [Option.map_some] at hstart
  rw [hstart] at hok ⊢
  rw [ResultSet.assign_ofRes hok, metadataComplete_ofRes]

theorem assign_metadata_mixed :
    MetadataComplete
        (Cursor.assign Script.library .fresh ⟨{}, []⟩ (some (.start .mixed)) .clear).rs .mixed ↔
      MysqlRes.mixed.rowCount ≠ 0 ∨ MysqlRes.mixed.numFields = 0 :=
  assign_metadata Script.library ⟨{}, []⟩ .mixed .clear
    (congrArg (fun a => a.ec.failed)
      (Cursor.assign_start Script.library .fresh ⟨{}, []⟩ (some .mixed) .clear))

def MysqlRes.rowless : MysqlRes := ⟨1, 0, [.named "a"], []⟩

theorem assign_metadata_rowless :
    let a := Cursor.assign Script.library .fresh ⟨{}, []⟩ (some (.start .rowless)) .clear
    a.ec.failed = false ∧ a.rs.fieldsInfo = some [] ∧ MysqlRes.rowless.numFields = 1 ∧
      ¬ MetadataComplete a.rs .rowless := by
  have hrs : (Cursor.assign Script.library .fresh ⟨{}, []⟩ (some (.start .rowless)) .clear).rs =
      .ofRes .rowless := rfl
  refine ⟨rfl, rfl, rfl, ?_⟩
  rw [hrs, metadataComplete_ofRes]
  decide

end Amy
