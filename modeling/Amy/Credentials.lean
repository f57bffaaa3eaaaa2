import Amy.Base.Boxes
import Amy.Base.Runs
import Mathlib.Data.List.TakeWhile

/-!
# `auth_info`

An `auth_info` has a user and, in a `unique_ptr`, a password or none, which is not
the empty one. Its copies are made of what `c_str()` shows, so a copy of a string
with a zero byte in it is shorter, and reads the same. `AuthStore` is any number
of such objects, `AuthPool` the values they stand for: `auth_values` says that the
objects are read as these values, whatever is done to the objects they were copied
from, and that each password is deleted once. So a request may carry its credentials
as a value.
-/

namespace Amy

open Base

/-- What a C function reads at `s.c_str()`. -/
def cStr (s : List UInt8) : List UInt8 := s.takeWhile (· != 0)

@[simp] theorem cStr_cStr (s : List UInt8) : cStr (cStr s) = cStr s :=
  List.takeWhile_idem

/-! ## The objects -/

inductive AuthCall where
  /-- `auth_info()`, `auth_info(user)` and `auth_info(user, password)`. -/
  | construct (user : List UInt8) (password : Option (List UInt8))
  /-- `auth_info(that)`, `that` being object `k`. -/
  | copy (k : Nat)
  | user (k : Nat) (user : List UInt8)
  | password (k : Nat) (password : List UInt8)
  | clearPassword (k : Nat)
  | destroy (k : Nat)
  deriving DecidableEq, Repr

structure AuthStore where
  /-- `user_` of each object there is. -/
  users : Nat → Option (List UInt8)
  /-- What `password_` of each points to. -/
  passwords : Boxes (List UInt8)
  /-- The number of the next object. -/
  next : Nat

namespace AuthStore

def empty : AuthStore := ⟨fun _ => none, .empty, 0⟩

variable (s : AuthStore)

def user (k : Nat) : Option (List UInt8) := (s.users k).map cStr

/-- `password()`: null or a string, and no answer where the string was deleted. -/
def password (k : Nat) : Option (Option (List UInt8)) :=
  (s.passwords.deref k).map (Option.map cStr)

def construct (user : List UInt8) (password : Option (List UInt8)) : AuthStore where
  users := Function.update s.users s.next (some user)
  passwords := s.passwords.reset s.next password
  next := s.next + 1

def step : AuthCall → Option AuthStore
  | .construct u p => some (s.construct u p)
  | .copy k => (s.user k).bind fun u => (s.password k).map (s.construct u)
  | .user k u => (s.users k).map fun _ => { s with users := Function.update s.users k (some u) }
  | .password k p => (s.users k).map fun _ => { s with passwords := s.passwords.reset k (some p) }
  | .clearPassword k => (s.users k).map fun _ => { s with passwords := s.passwords.reset k none }
  | .destroy k => (s.users k).map fun _ => { s with
      users := Function.update s.users k none
      passwords := s.passwords.reset k none }

end AuthStore

/-! ## The values -/

/-- What a C function is given: a string, and a string or null. -/
structure AuthValue where
  user : List UInt8
  password : Option (List UInt8)
  deriving DecidableEq, Repr

structure AuthPool where
  values : Nat → Option AuthValue
  next : Nat

namespace AuthPool

def empty : AuthPool := ⟨fun _ => none, 0⟩

variable (p : AuthPool)

def add (v : AuthValue) : AuthPool := ⟨Function.update p.values p.next (some v), p.next + 1⟩

def set (k : Nat) (v : Option AuthValue) : AuthPool :=
  { p with values := Function.update p.values k v }

def step : AuthCall → Option AuthPool
  | .construct u pw => some (p.add ⟨cStr u, pw.map cStr⟩)
  | .copy k => (p.values k).map p.add
  | .user k u => (p.values k).map fun v => p.set k (some { v with user := cStr u })
  | .password k pw => (p.values k).map fun v => p.set k (some { v with password := some (cStr pw) })
  | .clearPassword k => (p.values k).map fun v => p.set k (some { v with password := none })
  | .destroy k => (p.values k).map fun _ => p.set k none

end AuthPool

/-! ## The objects stand for the values -/

namespace AuthStore

variable {s : AuthStore} {p : AuthPool} {k : Nat}

/-- What object `k` reads as. -/
def reads (s : AuthStore) (k : Nat) : Option AuthValue :=
  (s.user k).bind fun u => (s.password k).map (AuthValue.mk u)

theorem reads_eq_some {v : AuthValue} :
    s.reads k = some v ↔ s.user k = some v.user ∧ s.password k = some v.password := by
  simp only [reads, Option.bind_eq_some_iff, Option.map_eq_some_iff]
  constructor
  · rintro ⟨u, hu, pw, hpw, rfl⟩
    exact ⟨hu, hpw⟩
  · exact fun ⟨hu, hpw⟩ => ⟨_, hu, _, hpw, rfl⟩

/-- The objects read as the values, and own their passwords. -/
structure StandsFor (s : AuthStore) (p : AuthPool) : Prop where
  owned : s.passwords.Owned
  numbered : s.next = p.next
  same : ∀ k, s.reads k = p.values k
  exist : ∀ k, (s.users k).isSome = (p.values k).isSome
  /-- Only objects there are have a password. -/
  absent : ∀ k, s.users k = none → s.passwords.box k = none

theorem empty_standsFor : StandsFor empty .empty :=
  ⟨Boxes.empty_owned, rfl, fun _ => rfl, fun _ => rfl, fun _ _ => rfl⟩

theorem reads_put (h : s.passwords.Owned) (k : Nat) (u v : Option (List UInt8)) (n j : Nat) :
    reads ⟨Function.update s.users k u, s.passwords.reset k v, n⟩ j =
      if j = k then u.map fun u => ⟨cStr u, v.map cStr⟩ else s.reads j := by
  simp only [reads, user, password, h.deref_reset]
  by_cases hj : j = k
  · subst hj
    cases u <;> simp
  · simp [hj]

theorem StandsFor.put (h : StandsFor s p) (k : Nat) {u v : Option (List UInt8)}
    (hu : u = none → v = none) {n m : Nat} (hn : n = m) :
    StandsFor ⟨Function.update s.users k u, s.passwords.reset k v, n⟩
      ⟨Function.update p.values k (u.map fun u => ⟨cStr u, v.map cStr⟩), m⟩ := by
  refine ⟨h.owned.reset k v, hn, fun j => ?_, fun j => ?_, fun j hj => ?_⟩
  · simp only [reads_put h.owned, Function.update_apply, h.same]
  · by_cases hj : j = k
    · subst hj
      simp
    · simp [Function.update_of_ne hj, h.exist]
  · by_cases hjk : j = k
    · subst hjk
      have hnone : u = none := by simpa using hj
      simp [hu hnone]
    · simp only [Function.update_of_ne hjk, Boxes.reset_box] at hj ⊢
      exact h.absent j hj

theorem StandsFor.putUser (h : StandsFor s p) {v : AuthValue} (hv : p.values k = some v)
    (u : List UInt8) :
    StandsFor { s with users := Function.update s.users k (some u) }
      (p.set k (some { v with user := cStr u })) := by
  refine ⟨h.owned, h.numbered, fun j => ?_, fun j => ?_, fun j hj => ?_⟩
  · by_cases hj : j = k
    · subst hj
      obtain ⟨-, hpw⟩ := reads_eq_some.mp ((h.same j).trans hv)
      have hpw' : password { s with users := Function.update s.users j (some u) } j =
          some v.password := hpw
      simp [AuthPool.set, reads, user, hpw']
    · have hself := h.same j
      simpa [AuthStore.reads, user, password, AuthPool.set, Function.update_of_ne hj] using hself
  · by_cases hj : j = k
    · subst hj
      simp [AuthPool.set]
    · simp [AuthPool.set, Function.update_of_ne hj, h.exist]
  · by_cases hjk : j = k
    · subst hjk
      simp at hj
    · exact h.absent j (by simpa [Function.update_of_ne hjk] using hj)

theorem StandsFor.putPassword (h : StandsFor s p) {v : AuthValue} (hv : p.values k = some v)
    (pw : Option (List UInt8)) :
    StandsFor { s with passwords := s.passwords.reset k pw }
      (p.set k (some { v with password := pw.map cStr })) := by
  obtain ⟨u, hu, hshown⟩ : ∃ u, s.users k = some u ∧ cStr u = v.user := by
    have hread := reads_eq_some.mp ((h.same k).trans hv)
    exact Option.map_eq_some_iff.mp hread.1
  have hput := h.put k (u := some u) (v := pw) nofun h.numbered
  rw [← hu, Function.update_eq_self, hu] at hput
  simpa [AuthPool.set, hshown] using hput

theorem StandsFor.construct (h : StandsFor s p) (u : List UInt8) (pw : Option (List UInt8)) :
    StandsFor (s.construct u pw) (p.add ⟨cStr u, pw.map cStr⟩) := by
  have hput := h.put s.next (u := some u) (v := pw) nofun (congrArg (· + 1) h.numbered)
  rw [h.numbered] at hput
  simpa [AuthStore.construct, AuthPool.add, h.numbered] using hput

theorem StandsFor.copy (h : StandsFor s p) {v : AuthValue} (hv : p.values k = some v) :
    StandsFor (s.construct v.user v.password) (p.add v) := by
  obtain ⟨hu, hpw⟩ := reads_eq_some.mp ((h.same k).trans hv)
  have huser : cStr v.user = v.user := by
    obtain ⟨u, -, hshown⟩ := Option.map_eq_some_iff.mp hu
    rw [← hshown, cStr_cStr]
  have hpassword : v.password.map cStr = v.password := by
    obtain ⟨w, -, hshown⟩ := Option.map_eq_some_iff.mp hpw
    rw [← hshown, Option.map_map]
    cases w <;> simp
  have hcopy := h.construct v.user v.password
  rwa [huser, hpassword] at hcopy

/-- **A call on the objects is the call on the values**, and goes through wherever
that does. -/
theorem StandsFor.step (h : StandsFor s p) (c : AuthCall) :
    (s.step c = none ∧ p.step c = none) ∨
      ∃ s' p', s.step c = some s' ∧ p.step c = some p' ∧ StandsFor s' p' := by
  have hthere : ∀ k, (s.users k = none ∧ p.values k = none) ∨
      ∃ u v, s.users k = some u ∧ p.values k = some v := by
    intro k
    have hk := h.exist k
    cases hu : s.users k <;> cases hv : p.values k <;> simp [hu, hv] at hk ⊢
  cases c with
  | construct u pw => exact .inr ⟨_, _, rfl, rfl, h.construct u pw⟩
  | copy k =>
    obtain ⟨hu, hv⟩ | ⟨u, v, hu, hv⟩ := hthere k
    · exact .inl (by simp [AuthStore.step, AuthPool.step, user, hu, hv])
    · obtain ⟨huser, hpassword⟩ := reads_eq_some.mp ((h.same k).trans hv)
      exact .inr ⟨_, _, by simp [AuthStore.step, huser, hpassword], by simp [AuthPool.step, hv],
        h.copy hv⟩
  | user k u =>
    obtain ⟨hu, hv⟩ | ⟨_, v, hu, hv⟩ := hthere k
    · exact .inl (by simp [AuthStore.step, AuthPool.step, hu, hv])
    · exact .inr ⟨_, _, by simp [AuthStore.step, hu], by simp [AuthPool.step, hv], h.putUser hv u⟩
  | password k pw =>
    obtain ⟨hu, hv⟩ | ⟨_, v, hu, hv⟩ := hthere k
    · exact .inl (by simp [AuthStore.step, AuthPool.step, hu, hv])
    · exact .inr ⟨_, _, by simp [AuthStore.step, hu], by simp [AuthPool.step, hv],
        h.putPassword hv (some pw)⟩
  | clearPassword k =>
    obtain ⟨hu, hv⟩ | ⟨_, v, hu, hv⟩ := hthere k
    · exact .inl (by simp [AuthStore.step, AuthPool.step, hu, hv])
    · exact .inr ⟨_, _, by simp [AuthStore.step, hu], by simp [AuthPool.step, hv],
        h.putPassword hv none⟩
  | destroy k =>
    obtain ⟨hu, hv⟩ | ⟨_, v, hu, hv⟩ := hthere k
    · exact .inl (by simp [AuthStore.step, AuthPool.step, hu, hv])
    · exact .inr ⟨_, _, by simp [AuthStore.step, hu], by simp [AuthPool.step, AuthPool.set, hv],
        h.put k (u := none) (v := none) (fun _ => rfl) h.numbered⟩

theorem StandsFor.exec (h : StandsFor s p) (cs : List AuthCall) :
    (Base.exec AuthStore.step s cs = none ∧ Base.exec AuthPool.step p cs = none) ∨
      ∃ s' p', Base.exec AuthStore.step s cs = some s' ∧ Base.exec AuthPool.step p cs = some p' ∧
        StandsFor s' p' := by
  induction cs generalizing s p with
  | nil => exact .inr ⟨s, p, rfl, rfl, h⟩
  | cons c cs ih =>
    simp only [Base.exec]
    obtain ⟨hs, hp⟩ | ⟨s', p', hs, hp, h'⟩ := h.step c
    · exact .inl (by simp [hs, hp])
    · simpa only [hs, hp, Option.bind_some] using ih h'

/-- **Credentials are values.** Whatever is done to them the objects read as values
that are copied whole and shared with nothing, and what may be done to the values may
be done to the objects. A password is deleted once, not while an object has it, and is
deleted once none has. -/
theorem auth_values (cs : List AuthCall) :
    (Base.exec AuthStore.step empty cs = none ∧ Base.exec AuthPool.step .empty cs = none) ∨
      ∃ s p, Base.exec AuthStore.step empty cs = some s ∧
        Base.exec AuthPool.step .empty cs = some p ∧ (∀ k, s.reads k = p.values k) ∧
        s.passwords.freed.Nodup ∧
        ∀ a, a < s.passwords.fresh →
          (a ∈ s.passwords.freed ↔ ∀ k, (s.users k).isSome → s.passwords.box k ≠ some a) := by
  obtain hnone | ⟨s, p, hs, hp, h⟩ := empty_standsFor.exec cs
  · exact .inl hnone
  · refine .inr ⟨s, p, hs, hp, h.same, h.owned.once, fun a ha => ?_⟩
    refine ⟨fun hfreed k _ => ?_, fun hno => ?_⟩
    · exact h.owned.box_ne ((h.owned.gone a).mp hfreed).2 k
    · refine (h.owned.gone a).mpr ⟨ha, ?_⟩
      by_contra halive
      obtain ⟨k, hk⟩ := h.owned.held a (Option.isSome_iff_ne_none.mpr halive)
      refine hno k (Option.isSome_iff_ne_none.mpr fun hu => ?_) hk
      rw [h.absent k hu] at hk
      cases hk

/-- A copy outlives what it was made of, and ends at the zero byte. -/
example : (Base.exec AuthStore.step empty
    [.construct [97] (some [112, 0, 113]), .copy 0, .password 0 [114], .destroy 0]).map
      (fun s => (s.reads 1, s.reads 0, s.passwords.freed)) =
    some (some ⟨[97], some [112]⟩, none, [0, 2]) := by decide

end AuthStore

end Amy
