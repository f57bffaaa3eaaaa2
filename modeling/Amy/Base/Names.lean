/-!
# A cache that is compared by name

A cache keeps a thing under the name it had when it was cached, and names are
used again. `Cached name key cached current`: if the current thing has the name
the cache holds, it is the thing in the cache.
-/

namespace Amy.Base

variable {α ν : Type} {name : α → ν} {key : ν} {cached current current' : Option α}

def Cached (name : α → ν) (key : ν) (cached current : Option α) : Prop :=
  ∀ a, current = some a → name a = key → cached = some a

theorem Cached.filled (name : α → ν) (key : ν) (current : Option α) :
    Cached name key current current :=
  fun _ ha _ => ha

theorem Cached.vacant (h : ∀ a, name a ≠ key) (cached current : Option α) :
    Cached name key cached current :=
  fun a _ ha => absurd ha (h a)

/-- **A cache stays good** while no new thing gets the name it holds. -/
theorem Cached.keep (h : Cached name key cached current)
    (hnew : current' = current ∨ current'.map name ≠ some key) :
    Cached name key cached current' := by
  intro a ha hkey
  rcases hnew with rfl | hnew
  · exact h a ha hkey
  · exact absurd (by rw [ha, Option.map_some, hkey]) hnew

theorem Cached.lose [DecidableEq α] (h : Cached name key cached current) :
    Cached name key (if cached = current then cached else none) current := by
  intro a ha hkey
  have hcached := h a ha hkey
  rw [if_pos (hcached.trans ha.symm), hcached]

end Amy.Base
