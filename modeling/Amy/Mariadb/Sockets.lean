import Amy.Base.Names
import Amy.Mariadb.Events

/-!
# Which socket the descriptor waits on

`ev_` is registered for the socket it was assigned, and the registration goes
when that socket is closed. `async_wait_mysql` assigns it again when the number
of the library's socket differs from the number `ev_` holds; the system may give
a new socket the number of a closed one. `Watch` is a connector with the socket
its descriptor is registered for.
-/

namespace Amy

open Base

namespace MariadbService

variable {M S : Type} {L : Library M}

/-- The sockets of a library: the one it has open, and descriptor numbers. -/
structure Sockets (L : Library M) (S : Type) where
  current : M → Option S
  number : S → Int
  number_ne : ∀ s, number s ≠ -1
  getSocket : ∀ m, L.getSocket m = ((current m).map number).getD (-1)

structure Watch (M S : Type) where
  world : World M
  /-- The socket `ev_` is registered for. -/
  registered : Option S

namespace Watch

variable [DecidableEq S] (K : Sockets L S)

def start (i : MariadbImplementation M) : Watch M S := ⟨.start i, none⟩

/-- The registration after a step to `w`: none once `ev_` is released, the
library's socket if `ev_` was assigned, and otherwise the one there was, if its
socket is still open. -/
def registration (v : Watch M S) (w : World M) : Option S :=
  if w.impl.ev = -1 then none
  else if w.impl.ev ≠ v.world.impl.ev then K.current w.impl.mysql.st
  else if v.registered = K.current w.impl.mysql.st then v.registered
  else none

def step (v : Watch M S) (a : Action) : Option (Watch M S) :=
  (v.world.step L a).map fun w => ⟨w, v.registration K w⟩

/-- A socket the library opens in the step does not get the number `ev_` holds. -/
def Unreused (v : Watch M S) (a : Action) : Prop :=
  ∀ w, v.world.step L a = some w →
    K.current w.impl.mysql.st = K.current v.world.impl.mysql.st ∨
      (K.current w.impl.mysql.st).map K.number ≠ some v.world.impl.ev

variable {K} {v v' : Watch M S} {a : Action}

/-- What unreused numbers keep: the library's socket is the registered one if
`ev_` holds its number. -/
def Coherent (K : Sockets L S) (v : Watch M S) : Prop :=
  Cached K.number v.world.impl.ev v.registered (K.current v.world.impl.mysql.st)

theorem Coherent.step (h : Coherent K v) (hok : Unreused K v a) (hstep : v.step K a = some v') :
    Coherent K v' := by
  obtain ⟨w, hw, rfl⟩ := Option.map_eq_some_iff.mp hstep
  unfold Coherent registration
  by_cases hrel : w.impl.ev = -1
  · exact .vacant (fun s => by rw [hrel]; exact K.number_ne s) _ _
  rw [if_neg hrel]
  by_cases hev : w.impl.ev = v.world.impl.ev
  · rw [if_neg (not_not.mpr hev)]
    have hkept : Cached K.number w.impl.ev v.registered (K.current w.impl.mysql.st) := by
      rw [hev]
      exact h.keep (hok w hw)
    -- the registration is lost with its socket
    split_ifs with hopen
    · exact hkept
    · have hlost := hkept.lose
      rwa [if_neg hopen] at hlost
  · rw [if_pos hev]
    exact .filled _ _ _

def Registers (v : Watch M S) (a : Action) (v' : Watch M S) (x : Wait) : Prop :=
  v.world.running a = some x.id ∧ v'.world.waits = v.world.left a ++ [x]

end Watch

theorem World.Sound.registers_ev {w w' : World M} (hs : w.Sound) {a : Action}
    (hstep : w.step L a = some w') {x : Wait} (hid : w.running a = some x.id)
    (hx : w'.waits = w.left a ++ [x]) (hon : x.on ≠ .timeout) :
    w'.impl.ev = L.getSocket w'.impl.mysql.st := by
  rcases hs.runs hstep hid with ⟨w1, t, hr⟩ | ⟨-, hnone⟩
  · obtain ⟨rfl, hleft, -, hheeds, -⟩ := hr
    have hnew : (w1.settle x.id t).waits ≠ w1.waits := by
      rw [hx, ← hleft]
      simp
    cases t with
    | wait j p on =>
      obtain ⟨h, -, -, -, -, hev⟩ := hheeds
      have hlast : [(⟨x.id, p, on⟩ : Wait)] = [x] := List.append_cancel_left (hleft ▸ hx)
      obtain rfl : on = x.on := by rw [← List.singleton_injective hlast]
      rwa [if_neg hon] at hev
    | dropped j => exact absurd rfl hnew
    | invoke j o => exact absurd rfl hnew
    | assertion => exact hheeds.elim
    | spinning => exact hheeds.elim
  · rw [hnone] at hx
    simp at hx

/-- **A wait for the socket is on the library's current socket**, in every run in
which no new socket gets the number that `ev_` holds. -/
theorem waits_on_current [DecidableEq S] {K : Sockets L S} {st : M} {as : List Action}
    {v v' : Watch M S}
    (hrun : Run (Watch.step K) (Watch.Unreused K) (.start (MariadbImplementation.construct st)) as v)
    {a : Action} (hok : v.Unreused K a) (hstep : v.step K a = some v') {x : Wait}
    (hx : v.Registers a v' x) (hon : x.on ≠ .timeout) :
    v'.registered = K.current v'.world.impl.mysql.st := by
  have hinv : v.world.Sound ∧ v.Coherent K := by
    refine hrun.invariant (I := fun v => v.world.Sound ∧ v.Coherent K)
      ⟨World.start_sound st, .vacant K.number_ne _ _⟩ fun u b u' ⟨hs, hc⟩ hok hu => ?_
    refine ⟨?_, hc.step hok hu⟩
    obtain ⟨w, hw, rfl⟩ := Option.map_eq_some_iff.mp hu
    exact hs.step hw
  obtain ⟨hs, hc⟩ := hinv
  have hc' := hc.step hok hstep
  obtain ⟨w, hw, rfl⟩ := Option.map_eq_some_iff.mp hstep
  obtain ⟨hid, hwaits⟩ := hx
  -- `async_wait_mysql` has left the number of the library's socket in `ev_`
  have hev : w.impl.ev = L.getSocket w.impl.mysql.st := hs.registers_ev hw hid hwaits hon
  rw [K.getSocket] at hev
  cases hcur : K.current w.impl.mysql.st with
  | none =>
    simp only [hcur, Option.map_none, Option.getD_none] at hev
    simp [Watch.registration, hev]
  | some s =>
    simp only [hcur, Option.map_some, Option.getD_some] at hev
    exact hc' s hcur hev.symm

/-! ## A library whose sockets all get one number -/

/-- How many sockets a handle opened, and whether the last is still open. -/
structure Net where
  opened : Nat := 0
  isOpen : Bool := false
  deriving DecidableEq

/-- `L`, with a socket opened by each connect and closed by one that fails and by
`mysql_close`. Every socket gets number 7. -/
def withSockets (L : Library M) : Library (M × Net) :=
  { L.beside Net with
    close := fun m => (L.close m.1, { m.2 with isOpen := false })
    realConnect := fun a m =>
      let r := L.realConnect a m.1
      (r.1, r.2, ⟨m.2.opened + 1, r.1.isSome⟩)
    connectStart := fun a m => connecting (L.connectStart a m.1) (m.2.opened + 1)
    connectCont := fun w m => connecting (L.connectCont w m.1) m.2.opened
    getSocket := fun m => if m.2.isOpen then 7 else -1 }
where
  connecting (a : NbAnswer M (Option Unit)) (opened : Nat) : NbAnswer (M × Net) (Option Unit) :=
    ⟨a.status, a.ret, (a.st, ⟨opened, a.status != 0 || (a.ret.getD none).isSome⟩)⟩

def sockets (L : Library M) : Sockets (withSockets L) Nat where
  current m := if m.2.isOpen then some m.2.opened else none
  number _ := 7
  number_ne _ := by decide
  getSocket m := by
    cases h : m.2.isOpen <;> simp [withSockets, h]

/-- A connector whose first two operations each wait for the socket once. -/
def waitingTwice (failures : List Bool) : MariadbImplementation (Script × Net) :=
  .construct ({ failures, waits := [[⟨false, true, false⟩], [⟨true, false, false⟩]] }, {})

theorem waits_on_current_query :
    ∃ v v' : Watch (Script × Net) Nat,
      exec (Watch.step (sockets Script.library)) (.start (waitingTwice []))
        [.initiate (.connect (Script.login defaultFlags)), .fire 0 .clear] = some v ∧
      v.step (sockets Script.library) (.initiate (.query "do 1")) = some v' ∧
      v'.world.waits.map Wait.on = [.read] ∧ v'.registered = some 1 := by
  obtain ⟨v1, v, v', x, h1, h2, h3, hx, hon, hwaits, hcur, hok1, hok2, hok3⟩ :
      ∃ (v1 v v' : Watch (Script × Net) Nat) (x : Wait),
        (Watch.start (waitingTwice [])).step (sockets Script.library)
          (.initiate (.connect (Script.login defaultFlags))) = some v1 ∧
        v1.step (sockets Script.library) (.fire 0 .clear) = some v ∧
        v.step (sockets Script.library) (.initiate (.query "do 1")) = some v' ∧
        v.Registers (.initiate (.query "do 1")) v' x ∧ x.on = .read ∧
        v'.world.waits.map Wait.on = [.read] ∧
        (sockets Script.library).current v'.world.impl.mysql.st = some 1 ∧
        (Watch.start (waitingTwice [])).Unreused (sockets Script.library)
          (.initiate (.connect (Script.login defaultFlags))) ∧
        v1.Unreused (sockets Script.library) (.fire 0 .clear) ∧
        v.Unreused (sockets Script.library) (.initiate (.query "do 1")) :=
    ⟨_, _, _, _, rfl, rfl, rfl, ⟨rfl, rfl⟩, rfl, rfl, rfl,
      fun w h => by cases h; decide,
      fun w h => by cases h; decide, fun w h => by cases h; decide⟩
  have hrun : Run (Watch.step (sockets Script.library)) (Watch.Unreused (sockets Script.library))
      _ _ v := (Run.single hok1 h1).snoc hok2 h2
  refine ⟨v, v', hrun.exec, h3, hwaits, ?_⟩
  rw [waits_on_current hrun hok3 h3 hx (by rw [hon]; decide), hcur]

/-- A connect fails and is tried again: its second wait is on a descriptor that
is registered for no socket, since the new socket got the number of the old one. -/
theorem retry_waits_on_none :
    ∃ (v v' : Watch (Script × Net) Nat) (x : Wait),
      Run (Watch.step (sockets Script.library)) anyStep (.start (waitingTwice [true]))
        [.initiate (.connect (Script.login defaultFlags)), .fire 0 .clear] v ∧
      v.step (sockets Script.library) (.initiate (.connect (Script.login defaultFlags))) =
        some v' ∧
      v.Registers (.initiate (.connect (Script.login defaultFlags))) v' x ∧ x.on = .read ∧
      (sockets Script.library).current v'.world.impl.mysql.st = some 2 ∧
      v'.registered = none := by
  obtain ⟨v, v', x, hv, h⟩ : ∃ (v v' : Watch (Script × Net) Nat) (x : Wait),
      exec (Watch.step (sockets Script.library)) (.start (waitingTwice [true]))
        [.initiate (.connect (Script.login defaultFlags)), .fire 0 .clear] = some v ∧
      v.step (sockets Script.library) (.initiate (.connect (Script.login defaultFlags))) =
        some v' ∧
      v.Registers (.initiate (.connect (Script.login defaultFlags))) v' x ∧ x.on = .read ∧
      (sockets Script.library).current v'.world.impl.mysql.st = some 2 ∧
      v'.registered = none := ⟨_, _, _, rfl, rfl, ⟨rfl, rfl⟩, rfl, rfl, rfl⟩
  exact ⟨v, v', x, run_of_exec (fun _ _ _ => trivial) hv, h⟩

end MariadbService

end Amy
