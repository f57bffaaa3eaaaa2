import Amy.Async
import Amy.Results

/-!
# Which result sets are live

A `result_set` reaches its native result through a weak pointer, which locks as
long as `last_result` holds the result. `size`, `empty` and `expired` ask it;
`begin()..end()` and `rbegin()..rend()` are the rows it was assigned, whatever
it says.
-/

namespace Amy

variable {M : Type} {L : Library M} {i : Implementation M}

namespace ResultSet

/-- `result_set_.lock()`. -/
def lock (x : ResultSet) (i : Implementation M) : Option MysqlRes :=
  i.lastResult.filter fun r => x.resultSet = some r.ptr

def expired (x : ResultSet) (i : Implementation M) : Bool := (x.lock i).isNone

def size (x : ResultSet) (i : Implementation M) : UInt64 :=
  match x.lock i with
  | some r => r.rowCount
  | none => 0

def empty (x : ResultSet) (i : Implementation M) : Bool := x.expired i || x.size i == 0

/-- `begin()..end()`, `none` where `values_` is null. -/
def rows (x : ResultSet) : Option (List Row) := x.values

/-- `rbegin()..rend()`. -/
def reversed (x : ResultSet) : Option (List Row) := x.values.map List.reverse

theorem expired_eq_false {x : ResultSet} {p : Nat} (hx : x.resultSet = some p)
    (hp : i.lastResult.map MysqlRes.ptr = some p) : x.expired i = false := by
  obtain ⟨r, hr, rfl⟩ := Option.map_eq_some_iff.mp hp
  simp [expired, lock, hr, hx]

theorem assign_refers {h : Mysql M} {rs : Option MysqlRes} {ec : ErrorCode} {p : Nat}
    (hp : (assign L fresh h rs ec).rs.resultSet = some p) : rs.map MysqlRes.ptr = some p := by
  cases rs with
  | none => cases hp
  | some r =>
    simp only [assign] at hp
    -- a set whose rows could not be fetched refers to nothing
    split_ifs at hp
    · exact hp
    · exact hp

end ResultSet

def sets (cs : List Completion) : List ResultSet := cs.filterMap fun c => c.outcome.rs

theorem sets_append (cs ds : List Completion) : sets (cs ++ ds) = sets cs ++ sets ds :=
  List.filterMap_append

@[simp] theorem mem_sets_single {id : Nat} {o : Outcome} {x : ResultSet} :
    x ∈ sets [⟨id, o⟩] ↔ o.rs = some x := by
  simp [sets]

theorem mem_sets {c : Completion} {cs : List Completion} {x : ResultSet} (hc : c ∈ cs)
    (hx : c.outcome.rs = some x) : x ∈ sets cs :=
  List.mem_filterMap.mpr ⟨c, hc, hx⟩

namespace Service

theorem retrieve_refers {ec : ErrorCode} {p : Nat} (hp : (retrieve L i ec).rs.resultSet = some p) :
    (retrieve L i ec).impl.lastResult.map MysqlRes.ptr = some p :=
  ResultSet.assign_refers hp

theorem storeResult_refers {ec : ErrorCode} {p : Nat}
    (hp : (storeResult L i ec).rs.resultSet = some p) :
    (storeResult L i ec).impl.lastResult.map MysqlRes.ptr = some p := by
  simp only [storeResult] at hp ⊢
  split_ifs at hp ⊢
  · cases hp
  · exact retrieve_refers hp

end Service

end Amy
