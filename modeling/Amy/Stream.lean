import Amy.Implementation

/-!
# The results a library holds

What the sources rely on about the result stream of a session. `Held` is what a
handle holds: the result `mysql_store_result` would return now, the results
`mysql_next_result` would go on to, and the flags the session was established
with. `Accounts L held` is the documented bookkeeping of the native calls
whatever they answer; `Obliging L held` adds that storing a result succeeds and
that a result which is an error is reported with its errno.
-/

namespace Amy

variable {M : Type}

/-- A native result that carries columns. -/
abbrev RowSet := { r : MysqlRes // r.numFields ≠ 0 }

abbrev Errno := { e : UInt32 // e ≠ 0 }

/-- One result of a batch: a row set (possibly without rows), a status without
columns, or a failure, which ends the batch. -/
inductive Item where
  | rows (r : RowSet)
  | status
  | failure (errno : Errno)
  deriving DecidableEq

namespace Item

def hasColumns : Item → Bool
  | .rows _ => true
  | _ => false

def isFailure : Item → Bool
  | .failure _ => true
  | _ => false

end Item

structure Held where
  /-- What `mysql_store_result` would return: not stored yet. -/
  current : Option Item
  /-- What `mysql_next_result` would go on to. -/
  later : List Item
  /-- The flags of the established session. -/
  session : Option UInt64
  deriving DecidableEq

namespace Held

def idle (session : Option UInt64) : Held := ⟨none, [], session⟩

/-- The results not stored yet, in order. -/
def unread (h : Held) : List Item := h.current.toList ++ h.later

/-- Some session is established and its flags ask for several results. -/
def multi (h : Held) : Bool := h.session.any multiResults

end Held

/-- The bookkeeping of a library, whatever its calls answer. -/
structure Accounts (L : Library M) (held : M → Held) : Prop where
  init : ∀ {m m'}, L.init m = some m' → held m' = .idle none ∧ L.fieldCount m' = 0
  close : ∀ m, held (L.close m) = .idle none
  connect_ok : ∀ {a m}, (L.realConnect a m).1 = some () →
    held (L.realConnect a m).2 = .idle (some a.clientFlag) ∧ L.fieldCount (L.realConnect a m).2 = 0
  connect_null : ∀ {a m}, (L.realConnect a m).1 = none →
    L.errno (L.realConnect a m).2 ≠ 0 ∧ held (L.realConnect a m).2 = held m ∧
      L.fieldCount (L.realConnect a m).2 = L.fieldCount m
  query_ok : ∀ {s m}, (L.realQuery s m).1 = 0 → ∃ it later,
    held (L.realQuery s m).2 = ⟨some it, later, (held m).session⟩ ∧ it.isFailure = false ∧
      (later ≠ [] → (held m).multi = true) ∧
      (L.fieldCount (L.realQuery s m).2 ≠ 0 ↔ it.hasColumns = true)
  query_failed : ∀ {s m}, (L.realQuery s m).1 ≠ 0 →
    L.errno (L.realQuery s m).2 ≠ 0 ∧ held (L.realQuery s m).2 = .idle (held m).session ∧
      L.fieldCount (L.realQuery s m).2 = 0
  /-- Stored or not, the current result is given up. -/
  store : ∀ m, held (L.storeResult m).2 = { held m with current := none }
  fetchNull : ∀ r m, held (L.fetchNull r m) = held m
  more : ∀ m, L.moreResults m = !(held m).later.isEmpty
  next : ∀ {m it later}, (held m).later = it :: later →
    ((L.nextResult m).1 = 0 ∧ it.isFailure = false ∧
      held (L.nextResult m).2 = ⟨some it, later, (held m).session⟩) ∨
    ((L.nextResult m).1 ≠ 0 ∧ L.errno (L.nextResult m).2 ≠ 0 ∧
      held (L.nextResult m).2 = .idle (held m).session)

/-- The library stores what it holds and reports a failed result as such. -/
structure Obliging (L : Library M) (held : M → Held) : Prop extends Accounts L held where
  store_rows : ∀ {m r}, (held m).current = some (.rows r) →
    (L.storeResult m).1 = some r.val ∧ L.errno (L.fetchNull r.val (L.storeResult m).2) = 0
  store_status : ∀ {m}, (held m).current = some .status →
    (L.storeResult m).1 = none ∧ L.errno (L.storeResult m).2 = 0
  next_ok : ∀ {m it later}, (held m).later = it :: later → it.isFailure = false →
    (L.nextResult m).1 = 0
  next_failure : ∀ {m e later}, (held m).later = .failure e :: later →
    (L.nextResult m).1 ≠ 0 ∧ L.errno (L.nextResult m).2 = e.val

end Amy
