import Amy.Drain
import Amy.Expiry
import Amy.Base.Leases
import Amy.Base.Runs

/-!
# Several `results_iterator`s on one connector

An iterator keeps the set it designates, but the results come from the
connector's one stream: an increment takes the next result of the stream
whichever iterator it is made on, and frees the result that all others refer to.
Equality asks for the end mark and the connector only. `Pool` is any number of
iterators on one connector, made, copied, incremented and destroyed in any
order; a dereference changes nothing.
-/

namespace Amy

open Base

variable {M : Type}

/-- An iterator, with the number of the `store_result` that its set is of, which is
what the set's weak pointer tells results apart by. -/
structure Placed where
  it : ResultsIterator
  result : Nat
  deriving DecidableEq, Repr

namespace Placed

def Same (a b : Placed) : Prop := a.result = b.result ∧ a.it.resultSet = b.it.resultSet

/-- The set is of the `n`th store and refers to the native result at `ptr`. -/
def Refers (n : Nat) (a : Placed) (ptr : Nat) : Prop :=
  a.result = n ∧ a.it.resultSet.resultSet = some ptr

end Placed

structure Pool (M : Type) where
  impl : Implementation M
  /-- How many results the iterators have asked the connector to store. -/
  stored : Nat
  iters : List Placed

namespace Pool

inductive Action where
  /-- `results_iterator(connector)`. -/
  | construct
  /-- `results_iterator()`. -/
  | sentinel
  | copy (k : Nat)
  | drop (k : Nat)
  /-- `++it`. -/
  | pre (k : Nat)
  /-- `it++`; the iterator it returns is the last of the pool. -/
  | post (k : Nat)
  deriving DecidableEq, Repr

variable (svc : MySQLService) (L : Library M)

def start (i : Implementation M) : Pool M := ⟨i, 0, []⟩

/-- An increment now stores a result. -/
def Stores (p : Pool M) : Prop := (Connector.hasMoreResults svc L p.impl).1 = true

instance (p : Pool M) : Decidable (p.Stores svc L) := inferInstanceAs (Decidable (_ = true))

/-- The pool after `t`, and the iterator it leaves, whose set is the one of `result` if
nothing was stored. There is none after an exception. -/
def filled (p : Pool M) (result : Nat) (t : Thrown M ResultsIterator) : Pool M × Option Placed :=
  let n := if p.Stores svc L then p.stored + 1 else p.stored
  (⟨t.impl, n, p.iters⟩,
    t.out.toOption.map fun it => ⟨it, if p.Stores svc L then n else result⟩)

def increment (p : Pool M) (a : Placed) : Pool M × Option Placed :=
  p.filled svc L a.result (a.it.increment svc L p.impl)

def construct (p : Pool M) : Pool M :=
  let r := p.filled svc L 0 (ResultsIterator.construct svc L p.impl)
  { r.1 with iters := r.1.iters ++ r.2.toList }

/-- `last` is what `it++` returns. -/
def advance (p : Pool M) (k : Nat) (last : Placed → List Placed) : Option (Pool M) :=
  match p.iters[k]? with
  | none => none
  | some a =>
    -- an iterator without a connector cannot be incremented
    if a.it.connector then
      let r := p.increment svc L a
      match r.2 with
      | some b => some { r.1 with iters := r.1.iters.set k b ++ last a }
      | none => some r.1
    else none

def step (p : Pool M) : Action → Option (Pool M)
  | .construct => some (p.construct svc L)
  | .sentinel => some { p with iters := p.iters ++ [⟨.sentinel, 0⟩] }
  | .copy k => (p.iters[k]?).map fun a => { p with iters := p.iters ++ [a] }
  | .drop k => if k < p.iters.length then some { p with iters := p.iters.eraseIdx k } else none
  | .pre k => p.advance svc L k fun _ => []
  | .post k => p.advance svc L k fun a => [a]

/-! ## What is expected of the iterators -/

/-- Iterators that compare equal and are not at the end designate the same result. -/
def Coherent (p : Pool M) : Prop :=
  ∀ a ∈ p.iters, ∀ b ∈ p.iters, a.it.equal b.it = true → a.it.end = false → a.Same b

def Action.Increments (k : Nat) (x : Action) : Prop := x = .pre k ∨ x = .post k

/-- In `r` the iterators `k` and `l` are equal, with the same result where they have one. -/
def Agree (r : Pool M) (k l : Nat) : Prop :=
  ∃ a b, r.iters[k]? = some a ∧ r.iters[l]? = some b ∧ a.it.equal b.it = true ∧
    (a.it.end = false → a.Same b)

/-- The last iterator of `q` is one as `a`, and its result is live. -/
def Yields (q : Pool M) (a : Placed) : Prop :=
  ∃ b, q.iters.getLast? = some b ∧ b.it.end = false ∧ b.Same a ∧
    b.it.resultSet.expired q.impl = false

/-! ## Careful use -/

/-- The result of `a` is a native one, the last the connector stored. -/
def Live (p : Pool M) (a : Placed) : Prop :=
  a.result = p.stored ∧ a.it.resultSet.resultSet.isSome = true

instance (p : Pool M) (a : Placed) : Decidable (p.Live a) := inferInstanceAs (Decidable (_ ∧ _))

def AllEnd (as : List Placed) : Prop := ∀ a ∈ as, a.it.end = true

instance (as : List Placed) : Decidable (AllEnd as) := inferInstanceAs (Decidable (∀ a ∈ as, _))

/-- A result is stored for one iterator only while all others are at the end, and not
by `it++`, which is made on a live result. -/
def Careful (p : Pool M) : Action → Prop
  | .construct => p.Stores svc L → AllEnd p.iters
  | .pre k => ∀ a ∈ p.iters[k]?, a.it.end = false → p.Stores svc L → AllEnd (p.iters.eraseIdx k)
  | .post k => ∀ a ∈ p.iters[k]?, a.it.end = false → ¬ p.Stores svc L ∧ p.Live a
  | _ => True

/-- The forward-iterator law at `p`, of increments that are careful. -/
structure Forward (p : Pool M) : Prop where
  coherent : p.Coherent
  /-- Two equal iterators that are both incremented agree. -/
  agree : ∀ k l a b x y q r, p.iters[k]? = some a → p.iters[l]? = some b →
    a.it.equal b.it = true → a.it.end = false → x.Increments k → y.Increments l →
    Careful svc L p x → p.step svc L x = some q → Careful svc L q y → q.step svc L y = some r →
    r.Agree k l
  /-- `*it++` is the result of before, live. -/
  yields : ∀ k a q, p.iters[k]? = some a → a.it.end = false → Careful svc L p (.post k) →
    p.step svc L (.post k) = some q → q.Yields a

/-! ## What an increment does -/

section Increment

variable {svc L} {p q : Pool M} {a b : Placed} {i : Implementation M}

theorem stores_iff : p.Stores svc L ↔ (Service.hasMoreResults L p.impl).1 = true := by
  rw [Stores, Connector.hasMoreResults_eq]

theorem increment_done (h : ¬ p.Stores svc L) : p.increment svc L a =
    (⟨(Service.hasMoreResults L p.impl).2, p.stored, p.iters⟩,
      some ⟨{ a.it with «end» := true }, a.result⟩) := by
  have hmore : (Service.hasMoreResults L p.impl).1 = false := by simpa [stores_iff] using h
  simp [increment, filled, ResultsIterator.increment, h, hmore, Except.toOption]

theorem storeResult_leased {rs : ResultSet} {ptr : Nat}
    (h : (Connector.storeResult svc L i).out = .ok rs) (hptr : rs.resultSet = some ptr) :
    (Connector.storeResult svc L i).impl.lastResult.map MysqlRes.ptr = some ptr := by
  simp only [Connector.storeResult, Connector.storeResultEc_eq] at h ⊢
  set o := Service.storeResult L i .clear with ho
  obtain ⟨log, himpl, -⟩ := Detail.throwError_impl L o.ec o.impl
  have hrs : o.rs = rs := by
    cases ht : (Detail.throwError L o.ec o.impl).out with
    | error e => simp [ht, Except.map] at h
    | ok u => simpa [ht, Except.map] using h
  rw [himpl]
  exact Service.storeResult_refers (hrs ▸ hptr)

theorem increment_next (h : p.Stores svc L) (hb : (p.increment svc L a).2 = some b) :
    b.result = p.stored + 1 ∧ b.it.end = a.it.end ∧ ∀ ptr, b.it.resultSet.resultSet = some ptr →
      (p.increment svc L a).1.impl.lastResult.map MysqlRes.ptr = some ptr := by
  have hmore : (Connector.hasMoreResults svc L p.impl).1 = true := h
  simp only [increment, filled, ResultsIterator.increment, hmore, h, if_true, Bool.not_true,
    Bool.false_eq_true, if_false] at hb ⊢
  set j := (Connector.hasMoreResults svc L p.impl).2
  cases hout : (Connector.storeResult svc L j).out with
  | error e => simp [hout, Except.map, Except.toOption] at hb
  | ok rs =>
    simp only [hout, Except.map, Except.toOption, Option.map_some, Option.some.injEq] at hb
    subst hb
    exact ⟨rfl, rfl, fun ptr hptr => storeResult_leased hout hptr⟩

theorem increment_stored (h : p.Stores svc L) :
    (p.increment svc L a).1.stored = p.stored + 1 := by
  simp [increment, filled, h]

theorem construct_open (h : p.impl.initialized = true) :
    ResultsIterator.construct svc L p.impl =
      ResultsIterator.increment svc L ⟨true, .fresh, false⟩ p.impl := by
  simp [ResultsIterator.construct, h]

theorem construct_closed (h : p.impl.initialized = false) :
    ResultsIterator.construct svc L p.impl = ⟨p.impl, .error ⟨.notInitialized, ""⟩⟩ := by
  have hthrow : Detail.throwError L .notInitialized p.impl =
      ⟨p.impl, .error ⟨.notInitialized, ""⟩⟩ := Detail.throwError_ite rfl (by decide) true p.impl
  simp [ResultsIterator.construct, h, hthrow]

/-- What an increment of the `k`th iterator leaves: an exception left the pool's iterators
as they were, or the iterator was moved on. -/
theorem advance_cases {k : Nat} {last : Placed → List Placed}
    (h : p.advance svc L k last = some q) : ∃ a, p.iters[k]? = some a ∧
      (((p.increment svc L a).2 = none ∧ q = (p.increment svc L a).1) ∨
        ∃ b, (p.increment svc L a).2 = some b ∧
          q = { (p.increment svc L a).1 with iters := p.iters.set k b ++ last a }) := by
  unfold advance at h
  cases hk : p.iters[k]? with
  | none => simp [hk] at h
  | some a =>
    simp only [hk] at h
    split_ifs at h
    cases hb : (p.increment svc L a).2 with
    | none =>
      simp only [hb, Option.some.injEq] at h
      exact ⟨a, rfl, .inl ⟨hb, h.symm⟩⟩
    | some b =>
      simp only [hb, Option.some.injEq] at h
      exact ⟨a, rfl, .inr ⟨b, hb, h.symm⟩⟩

theorem equal_end (h : a.it.equal b.it = true) : a.it.end = b.it.end := by
  simp only [ResultsIterator.equal, Bool.and_eq_true, beq_iff_eq] at h
  exact h.1

theorem mem_set_cases {as : List Placed} {k : Nat} (h : a ∈ as.set k b) :
    a = b ∨ a ∈ as.eraseIdx k := by
  obtain ⟨l, hl⟩ := List.mem_iff_getElem?.mp h
  rw [List.getElem?_set] at hl
  split_ifs at hl with hkl hlen
  · exact .inl (Option.some.inj hl).symm
  · exact .inr (List.mem_eraseIdx_iff_getElem?.mpr ⟨l, Ne.symm hkl, hl⟩)

theorem construct_eq : p.construct svc L =
    if p.impl.initialized then
      let r := p.increment svc L ⟨⟨true, .fresh, false⟩, 0⟩
      { r.1 with iters := r.1.iters ++ r.2.toList }
    else p := by
  unfold construct
  split_ifs with hopen
  · rw [construct_open hopen]
    rfl
  · have hclosed : p.impl.initialized = false := by simpa using hopen
    have hno : ¬ p.Stores svc L := by simp [stores_iff, Service.hasMoreResults_closed hclosed]
    simp [filled, hno, construct_closed hclosed, Except.toOption]

end Increment

/-! ## The invariant of careful use -/

/-- The iterators that are not at the end designate one result, and a set whose
weak pointer is not null is live as long as it is of the last store. -/
structure Sound (p : Pool M) : Prop where
  together : ∀ a ∈ p.iters, ∀ b ∈ p.iters, a.it.end = false → b.it.end = false → a.Same b
  numbered : ∀ a ∈ p.iters, a.result ≤ p.stored
  leased : Leased (Placed.Refers p.stored) (p.impl.lastResult.map MysqlRes.ptr) p.iters

namespace Sound

variable {svc L} {p q : Pool M} {a b : Placed}

theorem start (i : Implementation M) : (Pool.start i).Sound := by
  refine ⟨?_, ?_, Leased.nil _ _⟩ <;> intro a ha <;> cases ha

theorem kept (h : p.Sound) (hstored : q.stored = p.stored)
    (hlast : q.impl.lastResult = p.impl.lastResult)
    (hmem : ∀ a ∈ q.iters, (∃ b ∈ p.iters, a.Same b ∧ (a.it.end = false → b.it.end = false)) ∨
      (a.it.end = true ∧ a.result ≤ p.stored ∧ a.it.resultSet.resultSet = none)) : q.Sound := by
  refine ⟨fun a ha b hb haend hbend => ?_, fun a ha => ?_, ?_⟩
  · rcases hmem a ha with ⟨c, hc, hac, hcend⟩ | ⟨hend, -⟩
    · rcases hmem b hb with ⟨d, hd, hbd, hdend⟩ | ⟨hend, -⟩
      · have hcd := h.together c hc d hd (hcend haend) (hdend hbend)
        exact ⟨hac.1.trans (hcd.1.trans hbd.1.symm), hac.2.trans (hcd.2.trans hbd.2.symm)⟩
      · simp [hend] at hbend
    · simp [hend] at haend
  · rw [hstored]
    rcases hmem a ha with ⟨c, hc, hac, -⟩ | ⟨-, hle, -⟩
    · rw [hac.1]
      exact h.numbered c hc
    · exact hle
  · rw [hstored, hlast]
    intro a ha ptr href
    rcases hmem a ha with ⟨c, hc, hac, -⟩ | ⟨-, -, hnone⟩
    · exact h.leased c hc ptr ⟨hac.1 ▸ href.1, hac.2 ▸ href.2⟩
    · exact absurd href.2 (by simp [hnone])

theorem stored (h : p.Sound) (hstored : q.stored = p.stored + 1)
    (hmem : ∀ a ∈ q.iters, a ∈ p.iters ∨ (a.result = q.stored ∧
      ∀ ptr, a.it.resultSet.resultSet = some ptr →
        q.impl.lastResult.map MysqlRes.ptr = some ptr))
    (htogether : ∀ a ∈ q.iters, ∀ b ∈ q.iters, a.it.end = false → b.it.end = false → a.Same b) :
    q.Sound := by
  refine ⟨htogether, fun a ha => ?_, fun a ha ptr href => ?_⟩
  · rcases hmem a ha with hold | ⟨hnew, -⟩
    · have := h.numbered a hold
      omega
    · omega
  · rcases hmem a ha with hold | ⟨-, hnew⟩
    · -- an old set is of an earlier store
      have := h.numbered a hold
      have := href.1
      omega
    · exact hnew ptr href.2

/-- **An increment keeps the pool sound** if, when it stores a result for an iterator that
is not at the end, all others of the pool it leaves are. -/
theorem increment (h : p.Sound) {as : List Placed}
    (ha : a ∈ p.iters ∨ (a.result ≤ p.stored ∧ a.it.resultSet.resultSet = none))
    (hmem : ∀ x ∈ as, x ∈ p.iters ∨ (p.increment svc L a).2 = some x)
    (hok : p.Stores svc L → a.it.end = false → as = p.iters ∨
      ∀ x ∈ as, x.it.end = false → (p.increment svc L a).2 = some x) :
    Sound { (p.increment svc L a).1 with iters := as } := by
  by_cases hst : p.Stores svc L
  · have hstored : (p.increment svc L a).1.stored = p.stored + 1 := increment_stored hst
    refine h.stored hstored (fun x hx => ?_) fun x hx y hy hxend hyend => ?_
    · rcases hmem x hx with hold | hnew
      · exact .inl hold
      · obtain ⟨hresult, -, hleased⟩ := increment_next hst hnew
        exact .inr ⟨hresult.trans hstored.symm, hleased⟩
    · cases haend : a.it.end with
      | true =>
        -- the new iterator is at the end, as `a` was
        have hold : ∀ z ∈ as, z.it.end = false → z ∈ p.iters := by
          intro z hz hzend
          rcases hmem z hz with hold | hnew
          · exact hold
          · have := (increment_next hst hnew).2.1
            simp [haend, hzend] at this
        exact h.together x (hold x hx hxend) y (hold y hy hyend) hxend hyend
      | false =>
        rcases hok hst haend with rfl | hone
        · exact h.together x hx y hy hxend hyend
        · have hxy : some x = some y := (hone x hx hxend).symm.trans (hone y hy hyend)
          cases hxy
          exact ⟨rfl, rfl⟩
  · rw [increment_done hst] at hmem ⊢
    refine h.kept rfl (by simp [Service.hasMoreResults_impl]) fun x hx => ?_
    rcases hmem x hx with hold | hnew
    · exact .inl ⟨x, hold, ⟨rfl, rfl⟩, id⟩
    · cases hnew
      rcases ha with hmema | hblank
      · exact .inl ⟨a, hmema, ⟨rfl, rfl⟩, fun hend => by cases hend⟩
      · exact .inr ⟨rfl, hblank⟩

theorem construct (h : p.Sound) (hok : Careful svc L p .construct) :
    (p.construct svc L).Sound := by
  rw [construct_eq]
  split_ifs
  · refine h.increment (.inr ⟨Nat.zero_le _, rfl⟩) (fun x hx => ?_)
      fun hst _ => .inr fun x hx hxend => ?_
    · exact (List.mem_append.mp hx).imp id Option.mem_toList.mp
    · rcases List.mem_append.mp hx with hold | hnew
      · simp [hok hst x hold] at hxend
      · exact Option.mem_toList.mp hnew
  · exact h

theorem advance (h : p.Sound) {k : Nat} {last : Placed → List Placed}
    (hlast : ∀ a, ∀ x ∈ last a, x = a)
    (hok : ∀ a ∈ p.iters[k]?, a.it.end = false → p.Stores svc L →
      AllEnd (p.iters.eraseIdx k) ∧ last a = [])
    (hstep : p.advance svc L k last = some q) : q.Sound := by
  obtain ⟨a, hk, ⟨-, rfl⟩ | ⟨b, hb, rfl⟩⟩ := advance_cases hstep
  · exact h.increment (.inl (List.mem_of_getElem? hk)) (fun x hx => .inl hx) fun _ _ => .inl rfl
  · have ha : a ∈ p.iters := List.mem_of_getElem? hk
    refine h.increment (.inl ha) (fun x hx => ?_) fun hst haend => .inr fun x hx hxend => ?_
    · rcases List.mem_append.mp hx with hset | hx
      · rcases List.mem_or_eq_of_mem_set hset with hold | rfl
        · exact .inl hold
        · exact .inr hb
      · exact .inl (hlast a x hx ▸ ha)
    · obtain ⟨hends, hnil⟩ := hok a hk haend hst
      rw [hnil, List.append_nil] at hx
      rcases mem_set_cases hx with rfl | hother
      · exact hb
      · simp [hends x hother] at hxend

theorem step {x : Action} (h : p.Sound) (hok : Careful svc L p x)
    (hstep : p.step svc L x = some q) : q.Sound := by
  cases x with
  | construct =>
    cases hstep
    exact h.construct hok
  | sentinel =>
    cases hstep
    refine h.kept rfl rfl fun a ha => ?_
    rcases List.mem_append.mp ha with hold | hnew
    · exact .inl ⟨a, hold, ⟨rfl, rfl⟩, id⟩
    · rw [List.mem_singleton.mp hnew]
      exact .inr ⟨rfl, Nat.zero_le _, rfl⟩
  | copy k =>
    obtain ⟨b, hk, rfl⟩ := Option.map_eq_some_iff.mp hstep
    refine h.kept rfl rfl fun a ha => .inl ⟨a, ?_, ⟨rfl, rfl⟩, id⟩
    rcases List.mem_append.mp ha with hold | hnew
    · exact hold
    · rw [List.mem_singleton.mp hnew]
      exact List.mem_of_getElem? hk
  | drop k =>
    simp only [Pool.step] at hstep
    split_ifs at hstep
    cases hstep
    exact h.kept rfl rfl fun a ha => .inl ⟨a, List.mem_of_mem_eraseIdx ha, ⟨rfl, rfl⟩, id⟩
  | pre k =>
    refine h.advance (fun a x hx => by cases hx) (fun a hk hend hst => ⟨?_, rfl⟩) hstep
    exact hok a hk hend hst
  | post k =>
    refine h.advance (fun a x hx => List.mem_singleton.mp hx) (fun a hk hend hst => ?_) hstep
    exact absurd hst (hok a hk hend).1

theorem of_run {i : Implementation M} {xs : List Action}
    (hrun : Run (Pool.step svc L) (Careful svc L) (.start i) xs p) : p.Sound :=
  hrun.invariant (start i) fun _ _ _ hu hok hstep => hu.step hok hstep

theorem coherent (h : p.Sound) : p.Coherent := by
  intro a ha b hb heq haend
  have hbend : b.it.end = false := (equal_end heq).symm.trans haend
  exact h.together a ha b hb haend hbend

end Sound

/-! ## Two increments, and `*it++` -/

section Laws

variable {svc L} {p q r : Pool M} {a b : Placed} {k l : Nat} {x y : Action}

theorem hasMoreResults_again (i : Implementation M) :
    (Service.hasMoreResults L (Service.hasMoreResults L i).2).1 =
      (Service.hasMoreResults L i).1 := by
  rw [Service.hasMoreResults_impl]
  exact Service.hasMoreResults_congr rfl rfl rfl rfl rfl

/-- With no more results an increment moves its iterator to the end, no other, and there
are no more results afterwards. -/
theorem step_done (h : ¬ p.Stores svc L) (hx : x.Increments k) (hstep : p.step svc L x = some q) :
    ¬ q.Stores svc L ∧ (∃ a, q.iters[k]? = some a ∧ a.it.end = true) ∧
      ∀ l ≠ k, ∀ b, p.iters[l]? = some b → q.iters[l]? = some b := by
  have hadv : ∀ last, p.advance svc L k last = some q → ¬ q.Stores svc L ∧
      (∃ a, q.iters[k]? = some a ∧ a.it.end = true) ∧
        ∀ l ≠ k, ∀ b, p.iters[l]? = some b → q.iters[l]? = some b := by
    intro last hq
    obtain ⟨a, hk, ⟨hnone, -⟩ | ⟨b, hb, rfl⟩⟩ := advance_cases hq
    · simp [increment_done h] at hnone
    · have hlen : k < p.iters.length := (List.getElem?_eq_some_iff.mp hk).1
      rw [increment_done h] at hb ⊢
      cases hb
      refine ⟨?_, ⟨⟨{ a.it with «end» := true }, a.result⟩, ?_, rfl⟩, fun l hl c hc => ?_⟩
      · rw [stores_iff, hasMoreResults_again, ← stores_iff]
        exact h
      · rw [List.getElem?_append_left (by simpa using hlen), List.getElem?_set_self hlen]
      · have hlenl : l < p.iters.length := (List.getElem?_eq_some_iff.mp hc).1
        rw [List.getElem?_append_left (by simpa using hlenl), List.getElem?_set_ne hl.symm]
        exact hc
  rcases hx with rfl | rfl
  · exact hadv _ hstep
  · exact hadv _ hstep

/-- Carefully incremented beside another iterator that is not at the end, an iterator
finds no more results. -/
theorem careful_beside (hx : x.Increments k) (hok : Careful svc L p x) (ha : p.iters[k]? = some a)
    (haend : a.it.end = false) (hb : p.iters[l]? = some b) (hbend : b.it.end = false)
    (hkl : l ≠ k) : ¬ p.Stores svc L := by
  rcases hx with rfl | rfl
  · intro hst
    have hmem : b ∈ p.iters.eraseIdx k := List.mem_eraseIdx_iff_getElem?.mpr ⟨l, hkl, hb⟩
    have := hok a ha haend hst b hmem
    simp [hbend] at this
  · exact (hok a ha haend).1

theorem step_some (hx : x.Increments k) (hstep : p.step svc L x = some q) :
    ∃ a, q.iters[k]? = some a := by
  have hadv : ∀ last, p.advance svc L k last = some q → ∃ a, q.iters[k]? = some a := by
    intro last h
    obtain ⟨a, hk, ⟨-, rfl⟩ | ⟨b, -, rfl⟩⟩ := advance_cases h
    · exact ⟨a, hk⟩
    · refine ⟨b, ?_⟩
      have hlen : k < p.iters.length := (List.getElem?_eq_some_iff.mp hk).1
      rw [List.getElem?_append_left (by simpa using hlen), List.getElem?_set_self hlen]
  rcases hx with rfl | rfl
  · exact hadv _ hstep
  · exact hadv _ hstep

theorem agree (ha : p.iters[k]? = some a) (hb : p.iters[l]? = some b)
    (heq : a.it.equal b.it = true) (haend : a.it.end = false) (hx : x.Increments k)
    (hy : y.Increments l) (hokx : Careful svc L p x) (hstepx : p.step svc L x = some q)
    (hstepy : q.step svc L y = some r) : r.Agree k l := by
  by_cases hkl : l = k
  · subst hkl
    obtain ⟨c, hc⟩ := step_some hy hstepy
    exact ⟨c, c, hc, hc, by simp [ResultsIterator.equal], fun _ => ⟨rfl, rfl⟩⟩
  · have hp : ¬ p.Stores svc L :=
      careful_beside hx hokx ha haend hb ((equal_end heq).symm.trans haend) hkl
    obtain ⟨hq, ⟨c, hc, hcend⟩, -⟩ := step_done hp hx hstepx
    obtain ⟨-, ⟨d, hd, hdend⟩, hother⟩ := step_done hq hy hstepy
    -- both are at the end
    refine ⟨c, d, hother k (Ne.symm hkl) c hc, hd, ?_, fun hend => ?_⟩
    · simp [ResultsIterator.equal, hcend, hdend]
    · simp [hcend] at hend

theorem yields (h : p.Sound) (ha : p.iters[k]? = some a) (haend : a.it.end = false)
    (hok : Careful svc L p (.post k)) (hstep : p.step svc L (.post k) = some q) : q.Yields a := by
  obtain ⟨hno, hlast, hnative⟩ := hok a ha haend
  obtain ⟨ptr, hptr⟩ := Option.isSome_iff_exists.mp hnative
  have hheld : p.impl.lastResult.map MysqlRes.ptr = some ptr :=
    h.leased a (List.mem_of_getElem? ha) ptr ⟨hlast, hptr⟩
  obtain ⟨c, hc, ⟨hnone, -⟩ | ⟨b, -, rfl⟩⟩ := advance_cases hstep
  · simp [increment_done hno] at hnone
  · obtain rfl : a = c := Option.some.inj (ha.symm.trans hc)
    refine ⟨a, by simp, haend, ⟨rfl, rfl⟩, ResultSet.expired_eq_false hptr ?_⟩
    rw [increment_done hno]
    simpa [Service.hasMoreResults_impl] using hheld

end Laws

/-- **Careful use obeys the forward-iterator law**: in every state that a run of careful
steps reaches equal iterators designate one result, two that are incremented agree,
and `*it++` is the result of before, live. -/
theorem forward_law (svc : MySQLService) (L : Library M) (i : Implementation M)
    (xs : List Action) (p : Pool M)
    (hrun : Run (step svc L) (Careful svc L) (.start i) xs p) : p.Forward svc L := by
  have hs : p.Sound := Sound.of_run hrun
  refine ⟨hs.coherent, ?_, fun k a q ha haend hok hstep => yields hs ha haend hok hstep⟩
  intro k l a b x y q r ha hb heq haend hx hy hokx hstepx _ hstepy
  exact agree ha hb heq haend hx hy hokx hstepx hstepy

/-! ## A batch of two row sets -/

def otherRow : RowSet :=
  ⟨⟨2, 1, [⟨"n", 1, 1, 0⟩], [[⟨some [50], 1⟩]]⟩, by decide⟩

def twoResults : Implementation Script :=
  Script.opened { held := ⟨some (.rows Script.oneRow), [.rows otherRow], some clientMultiResults⟩ }
    clientMultiResults

instance (p : Pool Script) : (x : Action) → Decidable (Careful .mysql Script.library p x)
  | .construct => inferInstanceAs (Decidable (_ → _))
  | .pre _ => inferInstanceAs (Decidable (∀ a ∈ _, _))
  | .post _ => inferInstanceAs (Decidable (∀ a ∈ _, _))
  | .sentinel | .copy _ | .drop _ => .isTrue trivial

def after (xs : List Action) : Option (Pool Script) :=
  exec (step .mysql Script.library) (.start twoResults) xs

theorem forward_law_two :
    ∃ p, exec (allowed (step .mysql Script.library) (Careful .mysql Script.library))
      (.start twoResults) [.construct, .pre 0, .copy 0, .post 0, .pre 1] = some p ∧
      p.Forward .mysql Script.library :=
  ⟨_, rfl, forward_law .mysql Script.library twoResults
    [.construct, .pre 0, .copy 0, .post 0, .pre 1] _ (run_of_exec_allowed rfl)⟩

/-- Of two equal iterators at the first result one is incremented: they still compare
equal, one result apart. Incremented too, the other is at the end alone. And `*it++`
is expired. -/
theorem increment_moves_copies :
    (∃ p, after [.construct, .copy 0, .pre 0] = some p ∧ ¬ p.Coherent) ∧
    (∃ r, after [.construct, .copy 0, .pre 0, .pre 1] = some r ∧ ¬ r.Agree 0 1) ∧
    (∃ p a q, after [.construct] = some p ∧ p.iters[0]? = some a ∧
      p.step .mysql Script.library (.post 0) = some q ∧ ¬ q.Yields a) := by
  refine ⟨⟨_, rfl, fun h => ?_⟩, ⟨_, rfl, fun h => ?_⟩, ⟨_, _, _, rfl, rfl, rfl, fun h => ?_⟩⟩
  · have hsame := h _ (.head _) _ (.tail _ (.head _)) rfl rfl
    exact absurd hsame.1 (by decide)
  · obtain ⟨a, b, ha, hb, heq, -⟩ := h
    cases ha
    cases hb
    exact absurd heq (by decide)
  · obtain ⟨b, hb, -, -, hexp⟩ := h
    cases hb
    exact absurd hexp (by decide)

end Pool

end Amy
