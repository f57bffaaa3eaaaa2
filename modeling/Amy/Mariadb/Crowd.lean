import Amy.Mariadb.Shared
import Amy.Mariadb.Clients
import Amy.Base.Crowds

/-!
# Clients that share a `mariadb_service`

Every connector of the io_service has a client, which goes on in its handlers.
What waits is each connector's own, what is posted is in one queue; the waits of
one client complete however far the others are. Each client makes its own
blocking program, and none is left waiting.
-/

namespace Amy

namespace MariadbService

open Base

variable {M σ : Type}

structure Crowd (M σ : Type) where
  shared : SharedWorld M
  /-- How many handlers of each client have run. -/
  handled : Nat → Nat
  /-- Each client's memory and what its handlers were called with; nothing before
  it starts. -/
  clients : Nat → Option (σ × List Outcome)

inductive CrowdAction where
  /-- Client `k` starts its first operation. -/
  | «begin» (k : Nat)
  /-- The `n`th wait of client `k` completes. -/
  | fire (k n : Nat)
  /-- A handler of client `k` runs: the next one invoked, or else the oldest posted. -/
  | handle (k : Nat)
  deriving DecidableEq, Repr

namespace Crowd

def start (impls : Nat → Implementation M) : Crowd M σ :=
  ⟨.start fun k => { impls k with ev := -1 }, fun _ => 0, fun _ => none⟩

variable (L : Library M) (handler : Nat → σ → Outcome → Next σ Request)
  (first : Nat → σ × Request)

def ask (k : Nat) (s : SharedWorld M) : SharedWorld M × Bool :=
  let h := MariadbService.hasMoreResults L (s.impls k).toImplementation
  (s.update k ((s.impls k).update h.2), h.1)

def submitted (k : Nat) (s : SharedWorld M) : Option Request → SharedWorld M
  | none => s
  | some r => s.initiate L k r

def ran (c : Crowd M σ) (k : Nat) (m : σ × List Outcome) (o : Outcome) : Crowd M σ :=
  let n := (handler k m.1 o).finish (ask L k) c.shared
  ⟨submitted L k n.1 n.2.2, Function.update c.handled k (c.handled k + 1),
    Function.update c.clients k (some (n.2.1, m.2 ++ [o]))⟩

def step (c : Crowd M σ) : CrowdAction → Option (Crowd M σ)
  | .begin k =>
    match c.clients k with
    | some _ => none
    | none => some { c with
        shared := c.shared.initiate L k (first k).2
        clients := Function.update c.clients k (some ((first k).1, [])) }
  | .fire k n =>
    -- not while a handler of the connector that was invoked has still to run
    if c.handled k = (restrict k c.shared.invoked).length then
      (c.shared.step L (.fire k n .clear)).map fun s => { c with shared := s }
    else none
  | .handle k =>
    match (restrict k c.shared.invoked)[c.handled k]? with
    | some x => (c.clients k).map fun m => c.ran L handler k m x.outcome
    | none =>
      match c.shared.posted with
      | [] => none
      | (j, x) :: _ =>
        if j = k then
          (c.shared.step L .deliver).bind fun s => (c.clients k).map fun m =>
            { c with shared := s }.ran L handler k m x.outcome
        else none

/-- Client `k`'s connector, as on an io_service of its own. -/
def attended (c : Crowd M σ) (k : Nat) : Attended M := ⟨c.shared.view k, c.handled k⟩

variable {L handler first} {c c' : Crowd M σ} {s : SharedWorld M} {k j : Nat}

/-! ## What a client sees -/

theorem attended_submitted (r : Option Request) (h : Nat) :
    (⟨(submitted L j s r).view j, h⟩ : Attended M) =
      (machine L).submitted ⟨s.view j, h⟩ r := by
  cases r with
  | none => rfl
  | some r => simp [submitted, Machine.submitted, machine, SharedWorld.view_initiate]

theorem attended_ask (h : Nat) :
    (⟨(ask L j s).1.view j, h⟩ : Attended M) = ((machine L).ask ⟨s.view j, h⟩).1 := by
  simp only [ask, machine, SharedWorld.view_update, if_true]
  rfl

theorem attended_finish (n : Next σ Request) (h : Nat) :
    (n.finish (ask L j) s).2 = (n.finish (machine L).ask ⟨s.view j, h⟩).2 ∧
      (⟨(submitted L j (n.finish (ask L j) s).1 (n.finish (ask L j) s).2.2).view j, h⟩ : Attended M) =
        (machine L).submitted (n.finish (machine L).ask ⟨s.view j, h⟩).1
          (n.finish (machine L).ask ⟨s.view j, h⟩).2.2 := by
  rw [attended_submitted]
  cases n with
  | stop m => exact ⟨rfl, rfl⟩
  | start m r => exact ⟨rfl, rfl⟩
  | startIf m r =>
    refine ⟨rfl, ?_⟩
    simp only [Next.finish, attended_ask]
    rfl

theorem view_other (h : j ≠ k) (n : Next σ Request) :
    (submitted L j (n.finish (ask L j) s).1 (n.finish (ask L j) s).2.2).view k = s.view k := by
  have hsub : ∀ (s : SharedWorld M) r, (submitted L j s r).view k = s.view k := by
    intro s r
    cases r with
    | none => rfl
    | some r => rw [submitted, SharedWorld.view_initiate, if_neg h]
  rw [hsub]
  cases n with
  | stop m => rfl
  | start m r => rfl
  | startIf m r =>
    simp only [Next.finish, ask]
    rw [SharedWorld.view_update, if_neg h]

/-- A wait of client `k` completes for it, and for no other. -/
theorem step_fire {n : Nat} (hstep : c.step L handler first (.fire k n) = some c') :
    (machine L).step (c.attended k) n = some (c'.attended k) ∧ c'.clients = c.clients ∧
      ∀ j, k ≠ j → c'.attended j = c.attended j := by
  simp only [step] at hstep
  split_ifs at hstep with hn
  obtain ⟨s, hs, rfl⟩ := Option.map_eq_some_iff.mp hstep
  obtain ⟨hself, hother⟩ := SharedWorld.view_fire hs
  have hn' : (c.attended k).handled = (c.attended k).world.invoked.length := hn
  refine ⟨?_, rfl, fun j h => ?_⟩
  · simp only [machine]
    rw [if_pos hn', show (c.attended k).world = c.shared.view k from rfl, hself]
    rfl
  · simp [attended, hother j h]

variable (L handler) in
/-- A handler of client `k` that runs does for it what it would alone, and nothing
for any other. -/
theorem ran_attended (c : Crowd M σ) (k : Nat) (m : σ × List Outcome) (o : Outcome) :
    let n := (handler k m.1 o).finish (machine L).ask ⟨c.shared.view k, c.handled k + 1⟩
    (c.ran L handler k m o).attended k = (machine L).submitted n.1 n.2.2 ∧
      (c.ran L handler k m o).clients k = some (n.2.1, m.2 ++ [o]) ∧
      ∀ j, k ≠ j → (c.ran L handler k m o).attended j = c.attended j ∧
        (c.ran L handler k m o).clients j = c.clients j := by
  obtain ⟨hmem, hsub⟩ := attended_finish (L := L) (s := c.shared) (j := k) (handler k m.1 o)
    (c.handled k + 1)
  refine ⟨?_, ?_, fun j h => ⟨?_, ?_⟩⟩
  · simp only [← hsub, ran, attended, Function.update_self]
  · simp only [ran, Function.update_self, hmem]
  · simp only [ran, attended, Function.update_of_ne (Ne.symm h), view_other h]
  · simp only [ran, Function.update_of_ne (Ne.symm h)]

/-- **A handler runs for its client**, as on an io_service of its own, and for no
other. -/
theorem step_handle (hstep : c.step L handler first (.handle k) = some c') :
    (∃ m m', c.clients k = some m ∧ c'.clients k = some m' ∧
        (machine L).drive (handler k) ⟨c.attended k, m.1, m.2⟩ .handle =
          some ⟨c'.attended k, m'.1, m'.2⟩) ∧
      ∀ j, k ≠ j → c'.attended j = c.attended j ∧ c'.clients j = c.clients j := by
  simp only [step] at hstep
  cases hx : (restrict k c.shared.invoked)[c.handled k]? with
  | some x =>
    rw [hx] at hstep
    obtain ⟨m, hm, rfl⟩ := Option.map_eq_some_iff.mp hstep
    obtain ⟨hself, hmem, hother⟩ := ran_attended L handler c k m x.outcome
    have hanswer : (machine L).answer (c.attended k) =
        some (⟨c.shared.view k, c.handled k + 1⟩, x.outcome) := by
      have hx' : (c.attended k).world.invoked[(c.attended k).handled]? = some x := hx
      simp only [machine, hx']
      rfl
    refine ⟨⟨m, _, hm, hmem, ?_⟩, hother⟩
    simp only [Machine.drive, hanswer, Option.map_some, hself]
  | none =>
    rw [hx] at hstep
    cases hp : c.shared.posted with
    | nil => simp [hp] at hstep
    | cons p cs =>
      obtain ⟨i, x⟩ := p
      simp only [hp] at hstep
      split_ifs at hstep with hik
      subst hik
      obtain ⟨s, hs, hstep⟩ := Option.bind_eq_some_iff.mp hstep
      obtain ⟨m, hm, rfl⟩ := Option.map_eq_some_iff.mp hstep
      obtain ⟨hown, hrest⟩ := SharedWorld.view_deliver hp hs
      obtain ⟨hself, hmem, hother⟩ :=
        ran_attended L handler { c with shared := s } i m x.outcome
      have hanswer : (machine L).answer (c.attended i) =
          some (⟨s.view i, c.handled i + 1⟩, x.outcome) := by
        have hx' : (c.attended i).world.invoked[(c.attended i).handled]? = none := hx
        have hp' : (c.attended i).world.posted.head? = some x := by
          simp [attended, SharedWorld.view, hp]
        have hown' : (c.attended i).world.step L .deliver = some (s.view i) := hown
        simp only [machine, hx', hp', Option.bind_some, hown', Option.map_some]
        rfl
      refine ⟨⟨m, _, hm, hmem, ?_⟩, fun j h => ⟨(hother j h).1.trans ?_, (hother j h).2⟩⟩
      · simp only [Machine.drive, hanswer, Option.map_some, hself]
      · simp [attended, hrest j h]

/-! ## Each client makes its own program -/

section Program

variable {impls : Nat → Implementation M} {susp : NbCall → M → List UInt32}

def program (impls : Nat → Implementation M) (first : Nat → σ × Request) (k : Nat) :
    Play (Implementation M) σ Request Outcome :=
  .begin (impls k) (first k).1 (first k).2

/-- Every client is at its program. -/
def Playing (L : Library M) (handler : Nat → σ → Outcome → Next σ Request)
    (first : Nat → σ × Request) (impls : Nat → Implementation M) (c : Crowd M σ) : Prop :=
  ∀ k, AtProgram (calls L) Attended.Idle (Attended.Busy L) (handler k) (program impls first k)
    (c.attended k) (c.clients k)

/-- Every operation of every program is one that may be initiated. -/
def Allowed (L : Library M) (handler : Nat → σ → Outcome → Next σ Request)
    (first : Nat → σ × Request) (impls : Nat → Implementation M) : Prop :=
  ∀ k, (calls L).Allowed (handler k) Askable (program impls first k)

theorem Playing.begin (hL : Settling L susp) (h : Playing L handler first impls c)
    (hok : Allowed L handler first impls)
    (hstep : c.step L handler first (.begin k) = some c') : Playing L handler first impls c' := by
  have hk := h k
  simp only [step] at hstep
  cases hc : c.clients k with
  | some m => rw [hc] at hstep; cases hstep
  | none =>
    rw [hc] at hk hstep
    obtain rfl := Option.some_inj.mp hstep
    have hview := fun j => SharedWorld.view_initiate (L := L) (s := c.shared) (j := k) (k := j)
      (first k).2
    refine AtProgram.own attended clients (k := k) h ?_ fun j hkj =>
      ⟨?_, Function.update_of_ne (Ne.symm hkj) _ _⟩
    · simp only [attended, hview, if_true, Function.update_self]
      exact ⟨0, rfl, rfl, Attended.Idle.initiate hL hk (hok k 0 (first k).2 rfl)⟩
    · simp only [attended, hview, if_neg hkj]

theorem Playing.fire (hL : Settling L susp) (h : Playing L handler first impls c) {n : Nat}
    (hstep : c.step L handler first (.fire k n) = some c') : Playing L handler first impls c' := by
  have hk := h k
  obtain ⟨hself, hclients, hother⟩ := step_fire hstep
  refine AtProgram.own attended clients (k := k) h ?_ fun j hkj => ⟨hother j hkj, by rw [hclients]⟩
  rw [hclients]
  cases hc : c.clients k with
  | none =>
    -- before its client starts a connector has no waits
    rw [hc] at hk
    rw [((realises hL).rests hk).1] at hself
    cases hself
  | some m =>
    rw [hc] at hk
    obtain ⟨i, hi⟩ := hk
    exact ⟨i, (realises hL).kept hi hself⟩

theorem Playing.handle (hL : Settling L susp) (h : Playing L handler first impls c)
    (hok : Allowed L handler first impls)
    (hstep : c.step L handler first (.handle k) = some c') : Playing L handler first impls c' := by
  have hk := h k
  obtain ⟨⟨m, m', hm, hm', hdrive⟩, hother⟩ := step_handle hstep
  refine AtProgram.own attended clients (k := k) h ?_ hother
  rw [hm] at hk
  obtain ⟨n, hn⟩ := hk
  rw [hm']
  exact ⟨n + 1, by
    rw [Function.iterate_succ_apply']
    exact (realises hL).handle hn ((hok k).rounds n) hdrive⟩

theorem Playing.kept (hL : Settling L susp) (h : Playing L handler first impls c)
    (hok : Allowed L handler first impls) {a : CrowdAction}
    (hstep : c.step L handler first a = some c') : Playing L handler first impls c' := by
  cases a with
  | «begin» k => exact h.begin hL hok hstep
  | fire k n => exact h.fire hL hstep
  | handle k => exact h.handle hL hok hstep

theorem start_playing (impls : Nat → Implementation M) :
    Playing L handler first impls (start impls) :=
  fun _ => ⟨Same.refl _, rfl, rfl, rfl⟩

/-! ## Nobody is left waiting -/

/-- Waits complete and handlers run, and no client starts. -/
def Serving : Crowd M σ → CrowdAction → Prop := fun _ a => ∀ k, a ≠ .begin k

variable {p : Play (Implementation M) σ Request Outcome} {m : σ × List Outcome}

variable (handler first) in
theorem can_fire {n : Nat} {t : Attended M} (h : (machine L).step (c.attended k) n = some t) :
    ∃ c', c.step L handler first (.fire k n) = some c' ∧ c'.attended k = t := by
  have hc : (c.step L handler first (.fire k n)).isSome := by
    simp only [machine] at h
    split_ifs at h with hn
    obtain ⟨w, hw, -⟩ := Option.map_eq_some_iff.mp h
    have hn' : c.handled k = (restrict k c.shared.invoked).length := hn
    simp only [Crowd.step]
    rw [if_pos hn', Option.isSome_map]
    simp only [World.step] at hw
    simp only [SharedWorld.step]
    have hwaits : (c.attended k).world.waits = c.shared.waits k := rfl
    rw [hwaits] at hw
    cases hx : (c.shared.waits k)[n]? with
    | none => rw [hx] at hw; cases hw
    | some x => rfl
  obtain ⟨c', hstep⟩ := Option.isSome_iff_exists.mp hc
  exact ⟨c', hstep, Option.some_inj.mp ((step_fire hstep).1.symm.trans h)⟩

variable (L handler) in
theorem ran_posted (c : Crowd M σ) (k : Nat) (m : σ × List Outcome) (o : Outcome) :
    ∃ ext, (c.ran L handler k m o).shared.posted = c.shared.posted ++ ext := by
  have hsettle : ∀ (s : SharedWorld M) (id : Nat) t, (s.settle k id t).posted = s.posted := by
    intro s id t
    cases t <;> rfl
  have hsub : ∀ (s : SharedWorld M) r, ∃ ext, (submitted L k s r).posted = s.posted ++ ext := by
    intro s r
    cases r with
    | none => exact ⟨[], by simp [submitted]⟩
    | some r =>
      simp only [submitted, SharedWorld.initiate]
      cases MariadbService.initiate L (s.impls k) r with
      | posted i o => exact ⟨_, rfl⟩
      | ran t => exact ⟨[], by simp [hsettle, SharedWorld.count]⟩
  simp only [ran]
  cases handler k m.1 o with
  | stop m => exact ⟨[], by simp [Next.finish, submitted]⟩
  | start m r => exact hsub _ (some r)
  | startIf m r => exact hsub (SharedWorld.update _ k _) _

theorem Playing.can_deliver (h : Playing L handler first impls c) {x : Completion}
    {cs : List (Nat × Completion)} (hp : c.shared.posted = (j, x) :: cs) :
    ∃ c', c.step L handler first (.handle j) = some c' ∧ ∃ ext, c'.shared.posted = cs ++ ext := by
  have hposted : (c.attended j).world.posted ≠ [] := by simp [attended, SharedWorld.view, hp]
  have hj := h j
  cases hm : c.clients j with
  | none =>
    rw [hm] at hj
    exact absurd hj.posted hposted
  | some m =>
    rw [hm] at hj
    obtain ⟨n, -, -, hat⟩ := hj
    have hx : (restrict j c.shared.invoked)[c.handled j]? = none := by
      cases hr : (((calls L).round (handler j))^[n] (program impls first j)).request with
      | none =>
        rw [hr] at hat
        exact absurd hat.posted hposted
      | some r =>
        rw [hr] at hat
        cases hat with
        | posted _ _ _ _ hn => exact List.getElem?_eq_none hn.ge
        | invoked _ _ _ _ hnil => exact absurd hnil hposted
        | waiting _ _ _ hnil => exact absurd hnil hposted
    obtain ⟨ext, hext⟩ := ran_posted L handler
      { c with shared := { c.shared with posted := cs, invoked := c.shared.invoked ++ [(j, x)] } }
      j m x.outcome
    exact ⟨_, by simp [Crowd.step, hx, hp, hm, SharedWorld.step], ext, hext⟩

theorem Playing.fires (hL : Settling L susp) (h : Playing L handler first impls c) {ns : List Nat}
    {t : Attended M} (hrun : Run (machine L).step anyStep (c.attended k) ns t) :
    ∃ c', Run (step L handler first) Serving c (ns.map (.fire k)) c' ∧
      Playing L handler first impls c' ∧ c'.attended k = t ∧ c'.clients = c.clients := by
  induction hrun with
  | start => exact ⟨c, .start, h, rfl, rfl⟩
  | snoc _ _ hs ih =>
    obtain ⟨d, hd, hplay, rfl, hclients⟩ := ih
    obtain ⟨c', hstep, hc'⟩ := can_fire handler first hs
    rw [List.map_append]
    exact ⟨c', hd.snoc (by simp [Serving]) hstep, hplay.fire hL hstep, hc',
      (step_fire hstep).2.1.trans hclients⟩

theorem Playing.comes (hL : Settling L susp) (h : Playing L handler first impls c)
    (hp : AtPlay (calls L) Attended.Idle (Attended.Busy L) p ⟨c.attended k, m.1, m.2⟩)
    {r : Request} (hr : p.request = some r) :
    ∃ bs c', Run (step L handler first) Serving c bs c' ∧ Playing L handler first impls c' ∧
      c'.clients = c.clients ∧
      AtPlay (calls L) Attended.Idle (Attended.Busy L) p ⟨c'.attended k, m.1, m.2⟩ ∧
      ((machine L).answer (c'.attended k)).isSome := by
  obtain ⟨hmem, hseen, hat⟩ := hp
  rw [hr] at hat
  obtain ⟨ns, t, hrun, ht⟩ := (realises hL).finishes hat
  have hbusy : Attended.Busy L ((calls L).exec p.service r).1 ((calls L).exec p.service r).2 t :=
    hrun.invariant (I := Attended.Busy L ((calls L).exec p.service r).1
      ((calls L).exec p.service r).2) hat fun _ _ _ hu _ hs => (realises hL).step hu hs
  obtain ⟨c', hrun', hplay, rfl, hclients⟩ := h.fires hL hrun
  exact ⟨_, c', hrun', hplay, hclients, ⟨hmem, hseen, by rw [hr]; exact hbusy⟩, ht⟩

theorem Playing.ends_round (hL : Settling L susp) (hm : c.clients k = some m)
    (hp : AtPlay (calls L) Attended.Idle (Attended.Busy L) p ⟨c.attended k, m.1, m.2⟩)
    (hokp : (calls L).Allowed (handler k) Askable p)
    (hstep : c.step L handler first (.handle k) = some c') :
    ∃ m', c'.clients k = some m' ∧ AtPlay (calls L) Attended.Idle (Attended.Busy L)
      ((calls L).round (handler k) p) ⟨c'.attended k, m'.1, m'.2⟩ := by
  obtain ⟨⟨m₀, m', hm₀, hm', hdrive⟩, -⟩ := step_handle hstep
  obtain rfl := Option.some_inj.mp (hm.symm.trans hm₀)
  exact ⟨m', hm', (realises hL).handle hp hokp hdrive⟩

theorem Playing.serves (hL : Settling L susp) (h : Playing L handler first impls c)
    (hok : Allowed L handler first impls) (hm : c.clients k = some m)
    (hp : AtPlay (calls L) Attended.Idle (Attended.Busy L) p ⟨c.attended k, m.1, m.2⟩)
    (hokp : (calls L).Allowed (handler k) Askable p) {before after : List (Nat × Completion)}
    {x : Completion} (hio : c.shared.posted = before ++ (k, x) :: after)
    (hb : ∀ y ∈ before, y.1 ≠ k) :
    ∃ bs c' m', Run (step L handler first) Serving c bs c' ∧ c'.clients k = some m' ∧
      AtPlay (calls L) Attended.Idle (Attended.Busy L)
        ((calls L).round (handler k) p) ⟨c'.attended k, m'.1, m'.2⟩ := by
  induction before generalizing c after with
  | nil =>
    rw [List.nil_append] at hio
    obtain ⟨c', hstep, -⟩ := h.can_deliver hio
    obtain ⟨m', hm', hp'⟩ := Playing.ends_round hL hm hp hokp hstep
    exact ⟨[.handle k], c', m', .single (by simp [Serving]) hstep, hm', hp'⟩
  | cons y before ih =>
    obtain ⟨j, y⟩ := y
    have hjk : j ≠ k := hb (j, y) (by simp)
    rw [List.cons_append] at hio
    obtain ⟨c', hstep, ext, hext⟩ := h.can_deliver hio
    have hio' : c'.shared.posted = before ++ (k, x) :: (after ++ ext) := by simp [hext]
    obtain ⟨hseat, hclient⟩ := (step_handle hstep).2 k hjk
    obtain ⟨bs, c'', m', hrun, hdone⟩ := ih (h.handle hL hok hstep) (hclient.trans hm)
      (by rwa [hseat]) hio' fun z hz => hb z (by simp [hz])
    exact ⟨_, c'', m', (Run.single (by simp [Serving]) hstep).trans hrun, hdone⟩

/-- **Every client comes to the end of its round**, whatever the others do. -/
theorem Playing.advance (hL : Settling L susp) (h : Playing L handler first impls c)
    (hok : Allowed L handler first impls) (hm : c.clients k = some m)
    (hp : AtPlay (calls L) Attended.Idle (Attended.Busy L) p ⟨c.attended k, m.1, m.2⟩)
    (hokp : (calls L).Allowed (handler k) Askable p) (hr : p.request.isSome) :
    ∃ bs c' m', Run (step L handler first) Serving c bs c' ∧ c'.clients k = some m' ∧
      AtPlay (calls L) Attended.Idle (Attended.Busy L)
        ((calls L).round (handler k) p) ⟨c'.attended k, m'.1, m'.2⟩ := by
  obtain ⟨r, hr⟩ := Option.isSome_iff_exists.mp hr
  obtain ⟨bs, d, hrun, hd, hclients, hpd, hanswer⟩ := h.comes hL hp hr
  have hmd : d.clients k = some m := by rw [hclients, hm]
  cases hx : (restrict k d.shared.invoked)[d.handled k]? with
  | some x =>
    have hstep : (d.step L handler first (.handle k)).isSome := by simp [Crowd.step, hx, hmd]
    obtain ⟨c', hstep⟩ := Option.isSome_iff_exists.mp hstep
    obtain ⟨m', hm', hp'⟩ := Playing.ends_round hL hmd hpd hokp hstep
    exact ⟨_, c', m', hrun.snoc (by simp [Serving]) hstep, hm', hp'⟩
  | none =>
    have hposted : restrict k d.shared.posted ≠ [] := by
      have hx' : (d.attended k).world.invoked[(d.attended k).handled]? = none := hx
      intro hnil
      have hnil' : (d.attended k).world.posted = [] := hnil
      simp [machine, hx', hnil'] at hanswer
    obtain ⟨before, x, after, hio, hb⟩ := restrict_first hposted
    obtain ⟨bs', c', m', hrun', hdone⟩ := hd.serves hL hok hmd hpd hokp hio hb
    exact ⟨_, c', m', hrun.trans hrun', hdone⟩

theorem Playing.ended (h : Playing L handler first impls c) (hm : c.clients k = some m)
    (hp : AtPlay (calls L) Attended.Idle (Attended.Busy L) p ⟨c.attended k, m.1, m.2⟩)
    (hstuck : ∀ a, Serving c a → c.step L handler first a = none) : p.request = none := by
  have hnone : ∀ a c', Serving c a → c.step L handler first a ≠ some c' := by
    intro a c' ha hstep
    rw [hstuck a ha] at hstep
    cases hstep
  cases hr : p.request with
  | none => rfl
  | some r =>
    have hbusy := hp.2.2
    rw [hr] at hbusy
    change Attended.Busy L _ _ (c.attended k) at hbusy
    cases hbusy with
    | posted n _ _ hposted _ =>
      cases hio : c.shared.posted with
      | nil => simp [attended, SharedWorld.view, hio] at hposted
      | cons y cs =>
        obtain ⟨c', hstep, -⟩ := h.can_deliver (j := y.1) (x := y.2) hio
        exact absurd hstep (hnone _ _ (by simp [Serving]))
    | invoked n before _ _ _ hi hn =>
      have hx : (c.attended k).world.invoked[(c.attended k).handled]? =
          some ⟨n, ((calls L).exec p.service r).2⟩ := by
        rw [hi, hn, List.getElem?_concat_length]
      change (restrict k c.shared.invoked)[c.handled k]? = _ at hx
      have hstep : (c.step L handler first (.handle k)).isSome := by simp [Crowd.step, hx, hm]
      obtain ⟨c', hstep⟩ := Option.isSome_iff_exists.mp hstep
      exact absurd hstep (hnone _ _ (by simp [Serving]))
    | waiting x j hw _ hn _ _ =>
      have hfire : ((machine L).step (c.attended k) 0).isSome := by
        simp [machine, hn, World.step, hw]
      obtain ⟨t, ht⟩ := Option.isSome_iff_exists.mp hfire
      obtain ⟨c', hstep, -⟩ := can_fire handler first ht
      exact absurd hstep (hnone _ _ (by simp [Serving]))

theorem attends (hL : Settling L susp) (hok : Allowed L handler first impls) :
    Attends (step L handler first) Serving (Playing L handler first impls) attended clients
      (calls L) Askable Attended.Idle (Attended.Busy L) handler (program impls first) where
  kept h hstep := h.kept hL hok hstep
  at_program h := h
  advance h hm hp hokp hr := h.advance hL hok hm hp hokp hr
  stuck h hm hp hstuck := h.ended hm hp hstuck

/-- **Clients that share an io_service each make their own blocking program.** In
every state of every interleaving of their starts, waits and handlers, the
handlers of each client have been called with what the first `n` blocking calls of
its program return on its connector alone; the io_service can bring any of them as
far as its program gets, and is stuck only where every program has ended. -/
theorem crowd_resumes (hL : Settling L susp) (hok : Allowed L handler first impls)
    {as : List CrowdAction}
    (hrun : Run (step L handler first) anyStep (start impls) as c)
    (hm : c.clients k = some m) :
    ∃ n, let q := ((calls L).round (handler k))^[n] (program impls first k)
      m.1 = q.memory ∧ m.2 = q.seen ∧
        (q.request = none → Same (c.shared.impls k).toImplementation q.service) ∧
        ((∀ a, Serving c a → c.step L handler first a = none) → q.request = none) ∧
        ∀ N, ∃ bs c' m', Run (step L handler first) Serving c bs c' ∧
          c'.clients k = some m' ∧
          m'.2 = (((calls L).round (handler k))^[N + n] (program impls first k)).seen := by
  obtain ⟨n, hmem, hseen, hidle, hstuck, hfar⟩ :=
    (attends hL hok).plays (start_playing impls) hrun (hok k) hm
  exact ⟨n, hmem, hseen, fun hnone => (hidle hnone).same, hstuck, hfar⟩

end Program

theorem crowd_resumes_two :
    ∃ c m n, exec (step Script.library (fun _ => BatchReader.handler verbs "select 1; oops")
          fun _ => (BatchReader.main, verbs.asyncConnect (Script.login clientMultiStatements)))
        (start fun _ => (BatchReader.multiQuery verbs).service)
        [.begin 0, .begin 1, .fire 1 0, .handle 1, .fire 0 0, .handle 0, .handle 1, .handle 0,
          .fire 0 0, .fire 1 0, .fire 0 0, .handle 0] = some c ∧
      c.clients 0 = some m ∧ m.1.printed = [.ofRes Script.oneRow.val] ∧
      m.1 = (((calls Script.library).round (BatchReader.handler verbs "select 1; oops"))^[n]
        (BatchReader.multiQuery verbs)).memory := by
  obtain ⟨c, m, hc, hm, hprinted⟩ : ∃ c m,
      exec (step Script.library (fun _ => BatchReader.handler verbs "select 1; oops")
          fun _ => (BatchReader.main, verbs.asyncConnect (Script.login clientMultiStatements)))
        (start fun _ => (BatchReader.multiQuery verbs).service)
        [.begin 0, .begin 1, .fire 1 0, .handle 1, .fire 0 0, .handle 0, .handle 1, .handle 0,
          .fire 0 0, .fire 1 0, .fire 0 0, .handle 0] = some c ∧
      c.clients 0 = some m ∧ m.1.printed = [.ofRes Script.oneRow.val] := ⟨_, _, rfl, rfl, rfl⟩
  have hplay : (calls Script.library).Allowed (BatchReader.handler verbs "select 1; oops") Askable
      (BatchReader.multiQuery verbs) := .of_ended (n := 4) (by decide) (by decide)
  have hok : Allowed Script.library (fun _ => BatchReader.handler verbs "select 1; oops")
      (fun _ => (BatchReader.main, verbs.asyncConnect (Script.login clientMultiStatements)))
      (fun _ => (BatchReader.multiQuery verbs).service) := fun _ => hplay
  obtain ⟨n, hmem, -⟩ := crowd_resumes Script.settling hok (run_of_exec (fun _ _ _ => trivial) hc) hm
  exact ⟨c, m, n, hc, hm, hprinted, hmem⟩

end Crowd

end MariadbService

end Amy
