import Amy.Connector
import Amy.Base.Brackets
import Amy.Base.Runs

/-!
# The client library's own lifetime

Every service has a `mysql_lib_init`, a reference to the one `do_init` object.
The first service makes the object, whose constructor initialises the library,
and the last reference to go ends it. The `static` in `instance()` is one of
them: it goes when the program ends, services that are left after it keep the
library until they go. A library that could not be initialised stays so, and
every constructor throws.

`Process` is a program with its services, by number.
-/

namespace Amy

open Base

/-- Calls of the client library: `mysql_library_init`, `mysql_library_end`, and
those a service makes. -/
inductive LibraryCall where
  | init
  | «end»
  | used (k : Nat)
  deriving DecidableEq, Repr

structure Process where
  /-- The `do_init` object: its `result_`. -/
  doInit : Option Int32
  /-- The services there are, each with its `ref_`. -/
  services : List Nat
  /-- The program has ended, the `static` reference with it. -/
  exited : Bool
  calls : List LibraryCall
  /-- The codes thrown, each with the text given to `system_error`. -/
  thrown : List (ErrorCode × String)

namespace Process

inductive Action where
  /-- The constructor of a service. -/
  | construct (k : Nat)
  /-- A service calls the library. -/
  | use (k : Nat)
  /-- The destructor. -/
  | destroy (k : Nat)
  /-- Objects with static lifetime are destroyed. -/
  | exit
  deriving DecidableEq, Repr

def start : Process := ⟨none, [], false, [], []⟩

/-- What `instance()` throws. -/
def initError (result : Int32) : ErrorCode × String := (⟨result, .system⟩, "mysql_library_init()")

variable (result : Int32) (p : Process)

/-- `static std::shared_ptr<do_init> init(new do_init())`, `mysql_library_init`
answering `result`. -/
def makeInit : Process :=
  match p.doInit with
  | some _ => p
  | none => { p with doInit := some result, calls := p.calls ++ [.init] }

/-- `mysql_lib_init()`, for service `k`. -/
def construct (k : Nat) : Process :=
  let p := p.makeInit result
  match p.doInit with
  | some r => if r ≠ 0 then { p with thrown := p.thrown ++ [initError r] }
    else { p with services := p.services ++ [k] }
  | none => p

/-- A reference is gone: with the last one the object goes. -/
def release : Process :=
  if p.exited && p.services.isEmpty && p.doInit.isSome then
    { p with doInit := none, calls := p.calls ++ [.end] }
  else p

def step : Action → Option Process
  | .construct k => if p.exited || p.services.contains k then none else some (p.construct result k)
  | .use k => if p.services.contains k then some { p with calls := p.calls ++ [.used k] } else none
  | .destroy k =>
    if p.services.contains k then some ({ p with services := p.services.erase k } : Process).release
    else none
  | .exit => if p.exited then none else some ({ p with exited := true } : Process).release

/-! ## What every step keeps -/

variable {result p} {p' : Process} {as : List Action}

def constructs (as : List Action) : Nat :=
  as.countP fun a => match a with
    | .construct _ => true
    | _ => false

/-- The books of a program, but for what its end still has to release. -/
structure Booked (result : Int32) (as : List Action) (p : Process) : Prop where
  trace : Bracketed (· = LibraryCall.init) (· = LibraryCall.end) (fun _ => False) p.calls
    p.doInit.isSome
  answer : ∀ r ∈ p.doInit, r = result
  serving : p.services ≠ [] → p.doInit = some 0
  stays : p.exited = false → p.calls.count .end = 0
  once : p.calls.count .init = p.calls.count .end + p.doInit.isSome.toNat
  most : p.calls.count .init ≤ 1
  failing : result ≠ 0 →
    p.services = [] ∧ p.thrown = List.replicate (constructs as) (initError result)

structure Kept (result : Int32) (as : List Action) (p : Process) : Prop
    extends Booked result as p where
  /-- After the program the object goes with the last service. -/
  goes : p.exited = true → p.services = [] → p.doInit = none

theorem start_kept (result : Int32) : Kept result [] start where
  trace := .nil
  answer := nofun
  serving h := absurd rfl h
  stays _ := rfl
  once := rfl
  most := by simp [start]
  failing _ := ⟨rfl, rfl⟩
  goes _ _ := rfl

theorem Booked.release (h : Booked result as p) : Kept result as p.release := by
  unfold Process.release
  split_ifs with hlast
  · simp only [Bool.and_eq_true, List.isEmpty_iff, Option.isSome_iff_exists] at hlast
    obtain ⟨⟨hexit, hnone⟩, r, hr⟩ := hlast
    have htrace := h.trace
    have honce := h.once
    rw [hr] at htrace honce
    refine ⟨⟨.closed htrace rfl, nofun, fun hs => absurd hnone hs, fun he => ?_, ?_, ?_, h.failing⟩,
      fun _ _ => rfl⟩
    · simp [hexit] at he
    · simpa using honce
    · simpa using h.most
  · refine ⟨h, fun hexit hnone => ?_⟩
    simpa [hexit, hnone] using hlast

theorem Kept.makeInit (h : Kept result as p) (hexit : p.exited = false) :
    Kept result as (p.makeInit result) ∧ (p.makeInit result).doInit = some result := by
  unfold Process.makeInit
  cases hd : p.doInit with
  | some r => exact ⟨h, by rw [hd, h.answer r hd]⟩
  | none =>
    have htrace := h.trace
    have honce := h.once
    have hstays := h.stays hexit
    rw [hd] at htrace honce
    have hnone : p.services = [] := by
      by_contra hs
      simp [h.serving hs] at hd
    refine ⟨⟨⟨.opened true htrace rfl, ?_, fun hs => absurd hnone hs, ?_, ?_, ?_, h.failing⟩, ?_⟩, rfl⟩
    · rintro r ⟨⟩
      rfl
    · simpa using h.stays
    · simpa using honce
    · simp [honce, hstays]
    · intro hend
      simp [hexit] at hend

theorem Kept.construct (h : Kept result as p) (hexit : p.exited = false) (k : Nat) :
    Kept result (as ++ [.construct k]) (p.construct result k) := by
  obtain ⟨hm, hd⟩ := h.makeInit hexit
  have hexit' : (p.makeInit result).exited = false := by
    unfold Process.makeInit
    cases p.doInit <;> exact hexit
  have heq : p.construct result k = if result ≠ 0 then
      { p.makeInit result with
        thrown := (p.makeInit result).thrown ++ [initError result] }
      else { p.makeInit result with services := (p.makeInit result).services ++ [k] } := by
    simp only [Process.construct, hd]
  generalize p.makeInit result = q at hm hd hexit' heq
  rw [heq]
  split_ifs with hr
  · -- the constructor throws
    refine ⟨⟨hm.trace, hm.answer, hm.serving, hm.stays, hm.once, hm.most, fun _ => ?_⟩, hm.goes⟩
    obtain ⟨hnone, hthrown⟩ := hm.failing hr
    refine ⟨hnone, ?_⟩
    simp [hthrown, constructs, List.replicate_add]
  · have hzero : result = 0 := not_not.mp hr
    refine ⟨⟨hm.trace, hm.answer, fun _ => by rw [← hzero]; exact hd, hm.stays, hm.once, hm.most,
      fun hne => absurd hzero hne⟩, fun hend => ?_⟩
    rw [hexit'] at hend
    cases hend

theorem Kept.step (h : Kept result as p) {a : Action} (hstep : p.step result a = some p') :
    Kept result (as ++ [a]) p' := by
  cases a with
  | construct k =>
    simp only [Process.step] at hstep
    split_ifs at hstep with hno
    obtain rfl := Option.some_inj.mp hstep
    simp only [Bool.or_eq_true, not_or, Bool.not_eq_true] at hno
    exact h.construct hno.1 k
  | use k =>
    simp only [Process.step] at hstep
    split_ifs at hstep with hk
    obtain rfl := Option.some_inj.mp hstep
    have hd : p.doInit = some 0 := h.serving fun hs => by simp [hs] at hk
    have htrace := h.trace
    rw [hd] at htrace
    refine ⟨⟨?_, h.answer, h.serving, ?_, ?_, ?_, ?_⟩, h.goes⟩
    · simp only [hd]
      exact .used htrace LibraryCall.noConfusion
    · simpa using h.stays
    · simpa using h.once
    · simpa using h.most
    · simpa [constructs] using h.failing
  | destroy k =>
    simp only [Process.step] at hstep
    split_ifs at hstep with hk
    obtain rfl := Option.some_inj.mp hstep
    have hne : p.services ≠ [] := fun hs => by simp [hs] at hk
    refine Booked.release ⟨h.trace, h.answer, fun _ => h.serving hne, h.stays, h.once, h.most,
      fun hr => ?_⟩
    exact absurd (h.failing hr).1 hne
  | exit =>
    simp only [Process.step] at hstep
    split_ifs at hstep with hexit
    obtain rfl := Option.some_inj.mp hstep
    refine Booked.release ⟨h.trace, h.answer, h.serving, nofun, h.once, h.most, ?_⟩
    simpa [constructs] using h.failing

/-! ## Runs -/

/-- **The library lives as long as anything uses it.** In every run of a program
each call a service makes comes after `mysql_library_init` and before
`mysql_library_end`; both are called at most once, the second exactly when the
program and the services there were have gone; and if the first failed there is
no service, and every constructor has thrown its code. -/
theorem library_lifetime (hrun : Run (Process.step result) anyStep start as p) :
    (∀ x k y, p.calls = x ++ .used k :: y →
      ∃ u v, x = u ++ .init :: v ∧ LibraryCall.end ∉ v) ∧
    p.calls.count .init ≤ 1 ∧
    p.calls.count .end =
      (if p.exited = true ∧ p.services = [] then p.calls.count .init else 0) ∧
    (result ≠ 0 → p.services = [] ∧
      p.thrown = List.replicate (constructs as) (initError result)) := by
  have h : Kept result as p := hrun.invariantAlong (start_kept result)
    fun _ _ _ _ h _ hstep => h.step hstep
  refine ⟨fun x k y hc => ?_, h.most, ?_, h.failing⟩
  · obtain ⟨u, o, v, rfl, rfl, hv⟩ := h.trace.covers hc LibraryCall.noConfusion not_false
    exact ⟨u, v, rfl, fun hmem => hv _ hmem rfl⟩
  · split_ifs with hend
    · have hd := h.goes hend.1 hend.2
      simpa [hd] using h.once.symm
    · by_cases hexit : p.exited = true
      · -- a service is left, which holds the library
        have hs : p.services ≠ [] := fun hs => hend ⟨hexit, hs⟩
        have honce := h.once
        have hmost := h.most
        simp only [h.serving hs, Option.isSome_some, Bool.toNat_true] at honce
        omega
      · exact h.stays (by simpa using hexit)

theorem library_lifetime_two :
    ∃ p, exec (Process.step 0) start
        [.construct 0, .use 0, .construct 1, .destroy 0, .exit, .use 1, .destroy 1] = some p ∧
      p.calls = [.init, .used 0, .used 1, .end] ∧ p.calls.count .init ≤ 1 := by
  obtain ⟨p, hp, hcalls⟩ : ∃ p, exec (Process.step 0) start
        [.construct 0, .use 0, .construct 1, .destroy 0, .exit, .use 1, .destroy 1] = some p ∧
      p.calls = [.init, .used 0, .used 1, .end] := ⟨_, rfl, rfl⟩
  exact ⟨p, hp, hcalls, (library_lifetime (run_of_exec (fun _ _ _ => trivial) hp)).2.1⟩

end Process

end Amy
