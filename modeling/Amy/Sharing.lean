import Amy.Base.Vectors
import Amy.Materialise

/-!
# Result sets that share their vectors

A copy of a `result_set` shares its row vector and its vector of column metadata
with the original. `assign` appends to the first, replaces the second and leaves
both alone when there are no rows, so what it does to the set depends on what
the set held, and it reaches every set that shares the rows. `Sets` is any number
of sets over their vectors; as long as nothing is shared `Sets.assign` is
`Cursor.assign` (`assign_view`). The native result is read through its cursors,
which stay where `assign` leaves them (`assign_read`).
-/

namespace Amy

open Base

variable {M : Type}

structure SharedSet where
  mysql : Bool
  /-- `result_set_`. -/
  resultSet : Option Nat
  /-- `values_`. -/
  values : Option Nat
  /-- `fields_info_`. -/
  fieldsInfo : Option Nat
  deriving DecidableEq, Repr

/-- The pointers of a set lead to vectors, and are reset together. -/
structure SharedSet.Valid (rows : Vectors Row) (infos : Vectors FieldInfo) (x : SharedSet) :
    Prop where
  values : rows.Points x.values
  fieldsInfo : infos.Points x.fieldsInfo
  reset : x.values = none ↔ x.fieldsInfo = none

structure Sets where
  rows : Vectors Row
  infos : Vectors FieldInfo
  sets : List SharedSet
  valid : ∀ x ∈ sets, x.Valid rows infos

namespace Sets

def none : Sets := ⟨⟨[]⟩, ⟨[]⟩, [], fun _ h => by cases h⟩

def construct (s : Sets) (mysql : Bool) : Sets where
  rows := s.rows.alloc []
  infos := s.infos.alloc []
  sets := s.sets ++ [⟨mysql, .none, some s.rows.next, some s.infos.next⟩]
  valid := by
    intro x hx
    rcases List.mem_append.mp hx with hx | hx
    · obtain ⟨hv, hf, hr⟩ := s.valid x hx
      exact ⟨hv.alloc [], hf.alloc [], hr⟩
    · obtain rfl := List.mem_singleton.mp hx
      exact ⟨s.rows.points_next [], s.infos.points_next [], by simp⟩

def copy (s : Sets) (k : Nat) : Option Sets :=
  match h : s.sets[k]? with
  | .none => .none
  | some x => some { s with
      sets := s.sets ++ [x]
      valid := by
        intro y hy
        rcases List.mem_append.mp hy with hy | hy
        · exact s.valid y hy
        · obtain rfl := List.mem_singleton.mp hy
          exact s.valid y (List.mem_of_getElem? h) }

/-- Set `k` becomes `x`, over vectors that the others still reach. -/
def put (s : Sets) (rows : Vectors Row) (infos : Vectors FieldInfo) (k : Nat) (x : SharedSet)
    (hrows : ∀ p, s.rows.Points p → rows.Points p)
    (hinfos : ∀ p, s.infos.Points p → infos.Points p) (hx : x.Valid rows infos) : Sets where
  rows := rows
  infos := infos
  sets := s.sets.set k x
  valid := by
    intro y hy
    rcases List.mem_or_eq_of_mem_set hy with hy | rfl
    · obtain ⟨hv, hf, hr⟩ := s.valid y hy
      exact ⟨hrows _ hv, hinfos _ hf, hr⟩
    · exact hx

def assignFrom (s : Sets) (k j : Nat) : Option Sets :=
  match h : s.sets[j]? with
  | .none => .none
  | some x => some (s.put s.rows s.infos k x (fun _ h => h) (fun _ h => h)
      (s.valid x (List.mem_of_getElem? h)))

structure Assigned (M : Type) where
  sets : Sets
  mysql : Mysql M
  rs : Option Cursor
  ec : ErrorCode

/-- `assign` on set `k`, `x` what it is; `none` where `values_` is null and followed. -/
def assignTo (L : Library M) (s : Sets) (k : Nat) (x : SharedSet) (hx : x.Valid s.rows s.infos)
    (h : Mysql M) (rs : Option Cursor) (ec : ErrorCode) : Option (Assigned M) :=
  match rs with
  | .none =>
    some ⟨s.put s.rows s.infos k { x with mysql := true } (fun _ h => h) (fun _ h => h)
      ⟨hx.values, hx.fieldsInfo, hx.reset⟩, h, .none, ec⟩
  | some c =>
    if c.res.rowCount = 0 then
      some ⟨s.put s.rows s.infos k { x with mysql := true, resultSet := some c.res.ptr }
        (fun _ h => h) (fun _ h => h) ⟨hx.values, hx.fieldsInfo, hx.reset⟩, h, some c, ec⟩
    else match hv : x.values with
      | .none => .none
      | some a =>
        let info := c.readFields []
        let f := info.2.readRows L info.1 h [] ec
        let rows := s.rows.append a f.1
        let infos := s.infos.alloc info.1
        if f.2.2.failed then
          some ⟨s.put rows infos k ⟨true, .none, .none, .none⟩ (fun _ h => h.append a f.1)
            (fun _ h => h.alloc info.1) ⟨Vectors.points_none, Vectors.points_none, Iff.rfl⟩,
            f.2.1, some info.2.afterRows, f.2.2⟩
        else
          some ⟨s.put rows infos k ⟨true, some c.res.ptr, some a, some s.infos.next⟩
            (fun _ h => h.append a f.1) (fun _ h => h.alloc info.1)
            ⟨(hv ▸ hx.values).append a f.1, s.infos.points_next info.1, by simp⟩,
            f.2.1, some info.2.afterRows, f.2.2⟩

def assign (L : Library M) (s : Sets) (k : Nat) (h : Mysql M) (rs : Option Cursor)
    (ec : ErrorCode) : Option (Assigned M) :=
  match hx : s.sets[k]? with
  | .none => .none
  | some x => s.assignTo L k x (s.valid x (List.mem_of_getElem? hx)) h rs ec

/-! ## What a set enumerates and reports -/

def view (s : Sets) (x : SharedSet) : ResultSet :=
  ⟨x.mysql, x.resultSet, s.rows.deref x.values, s.infos.deref x.fieldsInfo⟩

end Sets

/-- `begin()..end()`, `size()`, `empty()` and `fields_info()`; `none` is a null pointer
followed, or the assertion that the set is not expired. -/
structure Report where
  rows : Option (List Row)
  size : UInt64
  empty : Bool
  fieldsInfo : Option (List FieldInfo)
  deriving DecidableEq, Repr

/-- The accessors, `live` telling the native results that are not yet freed. -/
def ResultSet.report (live : Nat → Option MysqlRes) (x : ResultSet) : Report :=
  let p := x.resultSet.bind live
  { rows := x.values
    size := (p.map MysqlRes.rowCount).getD 0
    empty := p.isNone || (p.map MysqlRes.rowCount).getD 0 == 0
    fieldsInfo := p.bind fun _ => x.fieldsInfo }

/-- What a fresh set reports once it is assigned: what was left of the result to read,
and the result's size. -/
def Report.of : Option Cursor → Report
  | none => ⟨some [], 0, true, none⟩
  | some c =>
    if c.res.rowCount = 0 then ⟨some [], 0, true, some []⟩
    else
      let info := c.fieldsLeft.map FieldInfo.mk
      ⟨some (c.rowsLeft.map (Row.build c.res · info)), c.res.rowCount, false, some info⟩

theorem Report.of_start (r : MysqlRes) : Report.of (some (.start r)) =
    ⟨(ResultSet.ofRes r).values, r.rowCount, r.rowCount == 0, (ResultSet.ofRes r).fieldsInfo⟩ := by
  by_cases h0 : r.rowCount = 0
  · simp [Report.of, Cursor.start, ResultSet.ofRes, h0]
  · simp [Report.of, Cursor.start, ResultSet.ofRes, h0]

namespace Sets

variable {L : Library M} {live : Nat → Option MysqlRes} {s s' : Sets} {k : Nat} {x : SharedSet}
  {h : Mysql M} {rs : Option Cursor} {c : Cursor} {ec : ErrorCode}

def report (live : Nat → Option MysqlRes) (s : Sets) (j : Nat) : Option Report :=
  (s.sets[j]?).map fun x => (s.view x).report live

def assigned (L : Library M) (s : Sets) (h : Mysql M) (r : MysqlRes) (p : Nat) :
    SharedSet :=
  if L.errno (L.fetchNull r h.st) = 0 then ⟨true, some r.ptr, some p, some s.infos.next⟩
  else ⟨true, .none, .none, .none⟩

theorem readRows_left (L : Library M) (c : Cursor) (h : Mysql M) (ec : ErrorCode) :
    (c.readFields []).2.readRows L (c.readFields []).1 h [] ec =
      (c.rowsLeft.map (Row.build c.res · (c.fieldsLeft.map .mk)),
        { h with st := L.fetchNull c.res h.st }, .client (L.errno (L.fetchNull c.res h.st))) := by
  rw [Cursor.readRows_eq, Cursor.readFields_eq, ResultSet.fetchRows_eq]
  rfl

/-- **Everything `assign` can do**: the two early exits leave the vectors alone, and
otherwise the rows go to the vector the set has and the metadata to a new one. -/
theorem assign_cases {a : Assigned M} (hx : s.sets[k]? = some x)
    (ha : s.assign L k h rs ec = some a) :
    (rs = .none ∧ a.mysql = h ∧ a.ec = ec ∧ a.sets.rows = s.rows ∧ a.sets.infos = s.infos ∧
      a.sets.sets = s.sets.set k { x with mysql := true }) ∨
    (∃ c, rs = some c ∧ c.res.rowCount = 0 ∧ a.mysql = h ∧ a.ec = ec ∧ a.sets.rows = s.rows ∧
      a.sets.infos = s.infos ∧
      a.sets.sets = s.sets.set k { x with mysql := true, resultSet := some c.res.ptr }) ∨
    ∃ c p, rs = some c ∧ c.res.rowCount ≠ 0 ∧ x.values = some p ∧
      a.mysql = { h with st := L.fetchNull c.res h.st } ∧
      a.rs = some (c.readFields []).2.afterRows ∧
      a.ec = .client (L.errno (L.fetchNull c.res h.st)) ∧
      a.sets.rows = s.rows.append p (c.rowsLeft.map (Row.build c.res · (c.fieldsLeft.map .mk))) ∧
      a.sets.infos = s.infos.alloc (c.fieldsLeft.map .mk) ∧
      a.sets.sets = s.sets.set k (s.assigned L h c.res p) := by
  unfold assign at ha
  split at ha
  · cases ha
  · rename_i x' hx'
    obtain rfl : x' = x := Option.some_inj.mp (hx'.symm.trans hx)
    unfold assignTo at ha
    cases rs with
    | none =>
      cases ha
      exact .inl ⟨rfl, rfl, rfl, rfl, rfl, rfl⟩
    | some c =>
      right
      simp only at ha
      split at ha
      · rename_i h0
        cases ha
        exact .inl ⟨c, rfl, h0, rfl, rfl, rfl, rfl, rfl⟩
      · rename_i h0
        split at ha
        · cases ha
        · rename_i p hp
          refine .inr ⟨c, p, rfl, h0, hp, ?_⟩
          have hf := readRows_left L c h ec
          have hinfo : (c.readFields []).1 = c.fieldsLeft.map .mk := by simp [Cursor.readFields_eq]
          split at ha
          · rename_i hfail
            cases ha
            have hne : L.errno (L.fetchNull c.res h.st) ≠ 0 := by simpa [hf] using hfail
            exact ⟨by simp [hf], rfl, by simp [hf], by simp [put, hf], by simp [put, hinfo],
              by simp [put, assigned, hne]⟩
          · rename_i hok
            cases ha
            have h0 : L.errno (L.fetchNull c.res h.st) = 0 := by simpa [hf] using hok
            exact ⟨by simp [hf], rfl, by simp [hf], by simp [put, hf], by simp [put, hinfo],
              by simp [put, assigned, h0]⟩

theorem assign_isSome (L : Library M) (h : Mysql M) (rs : Option Cursor) (ec : ErrorCode)
    {p : Nat} (hx : s.sets[k]? = some x) (hp : x.values = some p) :
    (s.assign L k h rs ec).isSome := by
  unfold assign
  split
  · rename_i hnone
    rw [hx] at hnone
    cases hnone
  · rename_i x' hx'
    obtain rfl : x' = x := Option.some_inj.mp (hx'.symm.trans hx)
    unfold assignTo
    cases rs with
    | none => rfl
    | some c =>
      simp only
      split
      · rfl
      · split
        · rename_i hnone
          rw [hp] at hnone
          cases hnone
        · split <;> rfl

/-- **A set's own view of `assign`** is that of a set that shares nothing. -/
theorem assign_view {a : Assigned M} (hx : s.sets[k]? = some x)
    (ha : s.assign L k h rs ec = some a) :
    ∃ x', a.sets.sets[k]? = some x' ∧ a.mysql = (Cursor.assign L (s.view x) h rs ec).mysql ∧
      a.ec = (Cursor.assign L (s.view x) h rs ec).ec ∧
      a.sets.view x' = (Cursor.assign L (s.view x) h rs ec).rs := by
  have hk : k < s.sets.length := (List.getElem?_eq_some_iff.mp hx).1
  have hset : ∀ y, (s.sets.set k y)[k]? = some y := fun y => by simp [hk]
  rcases assign_cases hx ha with ⟨rfl, hm, he, hr, hi, hs⟩ | ⟨c, rfl, h0, hm, he, hr, hi, hs⟩ |
    ⟨c, p, rfl, h0, hp, hm, -, he, hr, hi, hs⟩
  · exact ⟨_, hs ▸ hset _, hm, he, by simp [view, hr, hi, Cursor.assign]⟩
  · exact ⟨_, hs ▸ hset _, by simp [Cursor.assign, h0, hm], by simp [Cursor.assign, h0, he],
      by simp [view, hr, hi, Cursor.assign, h0]⟩
  · have hinfo : (c.readFields []).1 = c.fieldsLeft.map .mk := by simp [Cursor.readFields_eq]
    refine ⟨_, hs ▸ hset _, ?_, ?_, ?_⟩
    · simp only [hm, Cursor.assign, h0, if_false, readRows_left]
      split <;> rfl
    · simp only [he, Cursor.assign, h0, if_false, readRows_left]
      split <;> rfl
    · have hread := readRows_left L c h ec
      rw [hinfo] at hread
      by_cases hz : L.errno (L.fetchNull c.res h.st) = 0
      · simp [view, hr, hi, assigned, hz, Cursor.assign, h0, hread, hinfo, hp,
          Vectors.deref_append_same, Vectors.deref_next]
      · simp [view, hr, hi, assigned, hz, Cursor.assign, h0, readRows_left, Vectors.deref]

/-- **A native result is read once**: of what `assign` has read a fresh set would report
the size, but no row and no column. -/
theorem assign_read {a : Assigned M} (hx : s.sets[k]? = some x) (h0 : c.res.rowCount ≠ 0)
    (ha : s.assign L k h (some c) ec = some a) :
    Report.of a.rs = ⟨some [], c.res.rowCount, false, some []⟩ := by
  rcases assign_cases hx ha with ⟨hno, -⟩ | ⟨c', hc, h0', -⟩ |
    ⟨c', p, hc, -, -, -, hrs, -⟩
  · cases hno
  · cases hc
    exact absurd h0' h0
  · cases hc
    obtain ⟨hres, hfields, hrows⟩ := (c.readFields []).2.afterRows_read
    rw [Cursor.readFields_eq] at hres hfields hrows hrs
    simp [Report.of, hrs, hres, hfields, hrows, h0]

/-! ## When `assign` replaces what a set held, and reaches no other -/

/-- The condition on the sets before the call: the set's row vector is there and
empty, and on a null result the set is expired, on an empty one its metadata is
empty too, on one with rows no other set shares the vector. -/
def AssignsClean (live : Nat → Option MysqlRes) (s : Sets) (k : Nat) (x : SharedSet) :
    Option Cursor → Prop
  | .none => s.rows.deref x.values = some [] ∧ x.resultSet.bind live = .none
  | some c =>
    if c.res.rowCount = 0 then
      s.rows.deref x.values = some [] ∧ s.infos.deref x.fieldsInfo = some []
    else s.rows.deref x.values = some [] ∧
      (c.rowsLeft = [] ∨ ∀ (j : Nat) (y : SharedSet), j ≠ k → s.sets[j]? = some y →
        y.values ≠ x.values)

theorem report_congr {j : Nat} (hs : s'.sets[j]? = s.sets[j]?)
    (hv : ∀ y, s.sets[j]? = some y → s'.view y = s.view y) :
    s'.report live j = s.report live j := by
  unfold report
  rw [hs]
  cases hy : s.sets[j]? with
  | none => rfl
  | some y => simp [hv y hy]

/-- A copy reports what its original does, and every other set what it did. -/
theorem copy_report {j : Nat} (h : s.copy k = some s') :
    s'.report live j = if j = s.sets.length then s.report live k else s.report live j := by
  unfold copy at h
  split at h
  · cases h
  · rename_i x hx
    cases h
    simp only [report, List.getElem?_append]
    split_ifs with hlt heq heq
    · omega
    · rfl
    · simp [heq, hx, view]
    · have hout : s.sets[j]? = .none := List.getElem?_eq_none (by omega)
      have hpos : j - s.sets.length ≠ 0 := by omega
      simp [hout, hpos]

theorem assignFrom_report {i j : Nat} (hk : k < s.sets.length) (h : s.assignFrom k i = some s') :
    s'.report live j = if j = k then s.report live i else s.report live j := by
  unfold assignFrom at h
  split at h
  · cases h
  · rename_i x hx
    cases h
    by_cases hj : j = k
    · simp [report, put, hj, hk, hx, view]
    · simp [report, put, hj, Ne.symm hj, view]

theorem report_put {y : SharedSet} (hk : k < s.sets.length) (hs : s'.sets = s.sets.set k y) :
    s'.report live k = some ((s'.view y).report live) := by
  simp [report, hs, hk]

theorem infos_of_rows (hx : x ∈ s.sets) {v : List Row} (hv : s.rows.deref x.values = some v) :
    ∃ info, s.infos.deref x.fieldsInfo = some info := by
  obtain ⟨hp, hf, hr⟩ := s.valid x hx
  by_contra hno
  have hnone : s.infos.deref x.fieldsInfo = .none := by
    cases h : s.infos.deref x.fieldsInfo with
    | none => rfl
    | some info => exact absurd ⟨info, h⟩ hno
  rw [hf.deref_none, ← hr, ← hp.deref_none, hv] at hnone
  cases hnone

theorem replaces_none_iff (hx : s.sets[k]? = some x) (hr : s'.rows = s.rows)
    (hi : s'.infos = s.infos) (hs : s'.sets = s.sets.set k { x with mysql := true }) :
    s'.report live k = some (.of .none) ↔ s.AssignsClean live k x .none := by
  have hk : k < s.sets.length := (List.getElem?_eq_some_iff.mp hx).1
  rw [report_put hk hs, Option.some_inj]
  simp only [ResultSet.report, view, Report.of, Report.mk.injEq, AssignsClean, hr, hi]
  constructor
  · rintro ⟨hv, -, -, hf⟩
    obtain ⟨info, hinfo⟩ := infos_of_rows (List.mem_of_getElem? hx) hv
    refine ⟨hv, ?_⟩
    cases hl : x.resultSet.bind live with
    | none => rfl
    | some r => simp [hl, hinfo] at hf
  · rintro ⟨hv, hl⟩
    simp [hv, hl]

theorem replaces_empty_iff (hx : s.sets[k]? = some x) (h0 : c.res.rowCount = 0)
    (hlive : live c.res.ptr = some c.res) (hr : s'.rows = s.rows) (hi : s'.infos = s.infos)
    (hs : s'.sets = s.sets.set k { x with mysql := true, resultSet := some c.res.ptr }) :
    s'.report live k = some (.of (some c)) ↔ s.AssignsClean live k x (some c) := by
  have hk : k < s.sets.length := (List.getElem?_eq_some_iff.mp hx).1
  rw [report_put hk hs, Option.some_inj]
  simp [ResultSet.report, view, Report.of, AssignsClean, hr, hi, h0, hlive]

/-- Rows that are appended to the vector `p` change what the sets report that share it. -/
theorem others_kept_iff {p : Nat} {v : List Row} {info : List FieldInfo}
    (hp : s.rows.Points (some p)) (hr : s'.rows = s.rows.append p v)
    (hi : s'.infos = s.infos.alloc info) (hs : ∀ j, j ≠ k → s'.sets[j]? = s.sets[j]?) :
    (∀ j, j ≠ k → s'.report live j = s.report live j) ↔
      (v = [] ∨ ∀ (j : Nat) (y : SharedSet), j ≠ k → s.sets[j]? = some y →
        y.values ≠ some p) := by
  constructor
  · intro hall
    by_cases hv : v = []
    · exact .inl hv
    · refine .inr fun j y hj hy => ?_
      have hrep := hall j hj
      simp only [report, hs j hj, hy, Option.map_some, Option.some.injEq, ResultSet.report,
        view, Report.mk.injEq, hr] at hrep
      exact ((Vectors.deref_append_iff hp v y.values).mp hrep.1).resolve_left hv
  · intro hcond j hj
    refine report_congr (hs j hj) fun y hy => ?_
    have hyv : y.Valid s.rows s.infos := s.valid y (List.mem_of_getElem? hy)
    have hrows := (Vectors.deref_append_iff hp v y.values).mpr (hcond.imp_right fun h => h j y hj hy)
    simp [view, hr, hi, hrows, Vectors.deref_alloc hyv.fieldsInfo]

theorem replaces_rows_iff {p : Nat} {v : List Row} {info : List FieldInfo}
    (hx : s.sets[k]? = some x) (h0 : c.res.rowCount ≠ 0) (hp : x.values = some p)
    (hlive : live c.res.ptr = some c.res) (hinfo : info = c.fieldsLeft.map .mk)
    (hv : v = c.rowsLeft.map (Row.build c.res · info)) (hr : s'.rows = s.rows.append p v)
    (hi : s'.infos = s.infos.alloc info)
    (hs : s'.sets = s.sets.set k ⟨true, some c.res.ptr, some p, some s.infos.next⟩) :
    (s'.report live k = some (.of (some c)) ∧
      ∀ j, j ≠ k → s'.report live j = s.report live j) ↔ s.AssignsClean live k x (some c) := by
  have hk : k < s.sets.length := (List.getElem?_eq_some_iff.mp hx).1
  have hvalid : x.Valid s.rows s.infos := s.valid x (List.mem_of_getElem? hx)
  -- the set's own report: the old rows stay before the new ones
  have hown : s'.report live k = some (.of (some c)) ↔ s.rows.deref x.values = some [] := by
    rw [report_put hk hs, Option.some_inj]
    simp only [ResultSet.report, view, Report.of, Report.mk.injEq, h0, if_false, hr, hi,
      Vectors.deref_append_same, Vectors.deref_next, hp, Option.bind_some, hlive]
    cases hd : s.rows.deref (some p) with
    | none => simp
    | some old => simp [hv, hinfo, h0]
  have hempty : v = [] ↔ c.rowsLeft = [] := by rw [hv, List.map_eq_nil_iff]
  have hsame : ∀ j, j ≠ k → s'.sets[j]? = s.sets[j]? := fun j hj => by
    rw [hs, List.getElem?_set_ne (Ne.symm hj)]
  rw [hown, others_kept_iff (hp ▸ hvalid.values) hr hi hsame, hempty, AssignsClean, if_neg h0, hp]

/-- **`assign` replaces what the set held, and touches no other set**, exactly if
the condition on the sets before the call holds. -/
theorem assign_replaces_iff (L : Library M) (live : Nat → Option MysqlRes) (s : Sets) (k : Nat)
    (x : SharedSet) (h : Mysql M) (rs : Option Cursor) (ec : ErrorCode) (a : Assigned M)
    (hx : s.sets[k]? = some x) (hlive : ∀ c ∈ rs, live c.res.ptr = some c.res)
    (ha : s.assign L k h rs ec = some a) (hok : a.ec.failed = false) :
    (a.sets.report live k = some (.of rs) ∧
      ∀ j, j ≠ k → a.sets.report live j = s.report live j) ↔ s.AssignsClean live k x rs := by
  -- over the same vectors the others report the same
  have hothers : ∀ y, a.sets.rows = s.rows → a.sets.infos = s.infos →
      a.sets.sets = s.sets.set k y → ∀ j, j ≠ k → a.sets.report live j = s.report live j := by
    intro y hr hi hs j hj
    refine report_congr ?_ fun z _ => by simp [view, hr, hi]
    rw [hs, List.getElem?_set_ne (Ne.symm hj)]
  rcases assign_cases hx ha with ⟨rfl, -, -, hr, hi, hs⟩ | ⟨c, rfl, h0, -, -, hr, hi, hs⟩ |
    ⟨c, p, rfl, h0, hp, -, -, he, hr, hi, hs⟩
  · rw [replaces_none_iff hx hr hi hs]
    exact and_iff_left (hothers _ hr hi hs)
  · rw [replaces_empty_iff hx h0 (hlive c rfl) hr hi hs]
    exact and_iff_left (hothers _ hr hi hs)
  · have hz : L.errno (L.fetchNull c.res h.st) = 0 := by simpa [he] using hok
    rw [assigned, if_pos hz] at hs
    exact replaces_rows_iff hx h0 hp (hlive c rfl) rfl rfl hr hi hs

theorem assign_rows (L : Library M) (h : Mysql M) (c : Cursor) (ec : ErrorCode) {p : Nat}
    (hx : s.sets[k]? = some x) (hp : x.values = some p) (h0 : c.res.rowCount ≠ 0)
    (hz : L.errno (L.fetchNull c.res h.st) = 0) :
    ∃ a, s.assign L k h (some c) ec = some a ∧ a.ec.failed = false ∧
      a.sets.rows = s.rows.append p (c.rowsLeft.map (Row.build c.res · (c.fieldsLeft.map .mk))) ∧
      a.sets.infos = s.infos.alloc (c.fieldsLeft.map .mk) ∧
      a.sets.sets = s.sets.set k ⟨true, some c.res.ptr, some p, some s.infos.next⟩ := by
  obtain ⟨a, ha⟩ := Option.isSome_iff_exists.mp (assign_isSome L h (some c) ec hx hp)
  rcases assign_cases hx ha with ⟨hno, -⟩ | ⟨c', hc, h0', -⟩ |
    ⟨c', p', hc, -, hp', -, -, he, hr, hi, hs⟩
  · cases hno
  · cases hc
    exact absurd h0' h0
  · cases hc
    obtain rfl := Option.some_inj.mp (hp'.symm.trans hp)
    rw [assigned, if_pos hz] at hs
    exact ⟨a, ha, by simp [he, hz], hr, hi, hs⟩

def twoFresh : Sets := (none.construct true).construct true

def again : MysqlRes := { MysqlRes.mixed with ptr := 2 }

def twoLive (p : Nat) : Option MysqlRes :=
  if p = 1 then some .mixed else if p = 2 then some again else .none

theorem assign_replaces_fresh :
    ∃ a, twoFresh.assign Script.library 0 ⟨{}, []⟩ (some (.start .mixed)) .clear = some a ∧
      a.sets.report twoLive 0 = some (.of (some (.start .mixed))) ∧
      a.sets.report twoLive 1 = twoFresh.report twoLive 1 := by
  obtain ⟨a, ha, hok, -⟩ := assign_rows (s := twoFresh) (k := 0) Script.library ⟨{}, []⟩
    (.start .mixed) .clear rfl rfl (by decide) rfl
  have hunshared : ∀ (j : Nat) (y : SharedSet), j ≠ 0 → twoFresh.sets[j]? = some y →
      y.values ≠ some 0 := by
    intro j y hj hy
    rcases j with _ | _ | j
    · exact absurd rfl hj
    · cases hy
      decide
    · cases hy
  have h := (assign_replaces_iff Script.library twoLive twoFresh 0 _ ⟨{}, []⟩
    (some (.start .mixed)) .clear a rfl (by rintro c ⟨⟩; rfl) ha hok).mpr ⟨rfl, .inr hunshared⟩
  exact ⟨a, ha, h.1, h.2 1 (by decide)⟩

/-- A copy of a fresh set takes part in what the set is assigned, and a set that is
assigned two results one after the other has the rows of both and the size of the second. -/
theorem assign_shared :
    ∃ s a b, (none.construct true).copy 0 = some s ∧
      s.assign Script.library 0 ⟨{}, []⟩ (some (.start .mixed)) .clear = some a ∧
      a.ec.failed = false ∧
      a.sets.assign Script.library 0 a.mysql (some (.start again)) .clear = some b ∧
      b.ec.failed = false ∧
      (s.report twoLive 1).map (fun r => r.rows.map List.length) = some (some 0) ∧
      (a.sets.report twoLive 1).map (fun r => r.rows.map List.length) = some (some 2) ∧
      (b.sets.report twoLive 0).map (fun r => (r.rows.map List.length, r.size)) =
        some (some 4, 2) ∧
      b.sets.report twoLive 0 ≠ some (.of (some (.start again))) ∧
      a.sets.report twoLive 1 ≠ s.report twoLive 1 := by
  obtain ⟨s, hs, hsr, hsi, hss⟩ : ∃ s, (none.construct true).copy 0 = some s ∧
      s.rows = ⟨[[]]⟩ ∧ s.infos = ⟨[[]]⟩ ∧
      s.sets = [⟨true, .none, some 0, some 0⟩, ⟨true, .none, some 0, some 0⟩] :=
    ⟨_, rfl, rfl, rfl, rfl⟩
  obtain ⟨a, ha, hae, har, hai, has⟩ := assign_rows (s := s) (k := 0) Script.library ⟨{}, []⟩
    (.start .mixed) .clear (by rw [hss]; rfl) rfl (by decide) rfl
  obtain ⟨b, hb, hbe, hbr, hbi, hbs⟩ := assign_rows (s := a.sets) (k := 0) Script.library a.mysql
    (.start again) .clear (by rw [has, hss]; rfl) rfl (by decide) rfl
  have hsrep : s.report twoLive 1 = some ⟨some [], 0, true, .none⟩ := by
    simp [report, ResultSet.report, view, hss, hsr, Vectors.deref]
  refine ⟨s, a, b, hs, ha, hae, hb, hbe, ?_, ?_, ?_, ?_, ?_⟩
  · rw [hsrep]
    rfl
  · simp only [report, view, har, hai, has, hss, hsr, hsi]
    decide
  · simp only [report, view, hbr, hbi, hbs, har, hai, has, hss, hsr, hsi]
    decide
  · simp only [report, view, hbr, hbi, hbs, har, hai, has, hss, hsr, hsi]
    decide
  · rw [hsrep]
    simp only [report, view, har, hai, has, hss, hsr, hsi]
    decide

end Sets

end Amy
