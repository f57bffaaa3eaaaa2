import Mathlib.Data.UInt

/-!
# Calls that suspend and are continued

A suspendable call is started once and then continued until it answers status
`0`; a nonzero status names what it waits for. `Settles cont calm ready a ws r m`:
from answer `a` the call suspends with the statuses `ws`, each time continued
with the event `ready` picks of its status, and then returns `r` on the handle
`m`. `calm` is what is known of an answer while the call is suspended.
-/

namespace Amy.Base

/-- The answer of one step of a suspendable call: the wait status, the value it
delivered if it delivered one, and the handle after it. -/
structure Answer (M R : Type) where
  status : UInt32
  ret : Option R
  st : M

variable {M R : Type} {cont : UInt32 → M → Answer M R} {calm : Answer M R → Prop}
  {ready : UInt32 → UInt32}

inductive Settles (cont : UInt32 → M → Answer M R) (calm : Answer M R → Prop)
    (ready : UInt32 → UInt32) : Answer M R → List UInt32 → R → M → Prop where
  | done {a : Answer M R} {r : R} : a.status = 0 → a.ret = some r → Settles cont calm ready a [] r a.st
  | wait {a : Answer M R} {ws : List UInt32} {r : R} {m : M} : a.status ≠ 0 → calm a →
      Settles cont calm ready (cont (ready a.status) a.st) ws r m →
      Settles cont calm ready a (a.status :: ws) r m

end Amy.Base
