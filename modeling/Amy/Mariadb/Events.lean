import Amy.Mariadb.Heed

/-!
# Which events resume an operation

A suspended call names the events it waits for; any of them should resume the
operation. `async_wait_mysql` registers a wait for the first of read, write and
timeout that is named and for no other, so an operation whose call names more
than one is resumed by the first only.
-/

namespace Amy

open Base

variable {M : Type} {L : Library M}

/-- The call waits for `e`, and maybe for other events too. -/
def Heard.asks (h : Heard) (e : WaitFor) : Prop := h.status &&& e.status ≠ 0

namespace WaitFor

theorem asks_of {h : Heard} {on : WaitFor} (hon : WaitFor.of h.status = some on) : h.asks on := by
  unfold WaitFor.of at hon
  split_ifs at hon with h1 h2 h3
  · cases hon; exact h1
  · cases hon; exact h2
  · cases hon; exact h3

@[simp] theorem of_status (e : WaitFor) : WaitFor.of e.status = some e := by
  cases e <;> rfl

theorem eq_of_asks {h : Heard} {e e' : WaitFor} (hst : h.status = e.status) (ha : h.asks e') :
    e' = e := by
  rw [Heard.asks, hst] at ha
  cases e <;> cases e' <;> first | rfl | exact absurd rfl ha

theorem masks {status : UInt32} (hbits : status &&& waitBits = status) :
    status ∈ ([0, 1, 2, 3, 8, 9, 10, 11] : List UInt32) := by
  have hle : status.toNat ≤ 11 := by
    rw [← hbits, UInt32.toNat_and]
    exact Nat.and_le_right
  have hsmall : ∀ n < 12, UInt32.ofNat n &&& waitBits = UInt32.ofNat n →
      UInt32.ofNat n ∈ ([0, 1, 2, 3, 8, 9, 10, 11] : List UInt32) := by decide
  have h := hsmall status.toNat (by omega)
  rw [UInt32.ofNat_toNat] at h
  exact h hbits

theorem status_of_asks {h : Heard} {on : WaitFor} (h0 : h.status ≠ 0)
    (hbits : h.status &&& waitBits = h.status) (hall : ∀ e, h.asks e → e = on) :
    h.status = on.status := by
  have hr := hall .read
  have hw := hall .write
  have ht := hall .timeout
  unfold Heard.asks at hr hw ht
  have hm := masks hbits
  generalize h.status = s at *
  simp only [List.mem_cons, List.not_mem_nil, or_false] at hm
  cases on <;> rcases hm with rfl | rfl | rfl | rfl | rfl | rfl | rfl | rfl <;>
    first
    | rfl
    | exact absurd rfl h0
    | exact absurd (hr (by decide)) (by decide)
    | exact absurd (hw (by decide)) (by decide)
    | exact absurd (ht (by decide)) (by decide)

end WaitFor

namespace MariadbService.World

variable {w w' w1 : World M} {id : Nat} {h : Heard} {e : WaitFor}

def running (w : World M) : Action → Option Nat
  | .initiate _ => some w.next
  | .fire k _ => (w.waits[k]?).map Wait.id
  | .deliver | .cancel | .close | .call _ _ => none

def left (w : World M) : Action → List Wait
  | .fire k _ => w.waits.eraseIdx k
  | .initiate _ | .deliver | .cancel | .close | .call _ _ => w.waits

/-- The last answer of the native calls made between `w` and `w'`. -/
def answer (w w' : World M) : Option Heard :=
  lastHeard (w'.impl.mysql.calls.drop w.impl.mysql.calls.length)

/-- Event `e` completes a wait of operation `id`, which is resumed and continues
its call with a status that names `e`. -/
def ResumedBy (L : Library M) (w : World M) (id : Nat) (e : WaitFor) : Prop :=
  ∃ k x w', w.waits[k]? = some x ∧ x.id = id ∧ x.on = e ∧ w.step L (.fire k .clear) = some w' ∧
    ∃ c h log, w'.impl.mysql.calls = w.impl.mysql.calls ++ .cont c e.status h :: log

theorem answer_of_hears {o : Option Heard}
    (h : Hears w.impl.toImplementation w'.impl.toImplementation none o) : w.answer w' = o := by
  obtain ⟨log, hlog, ho⟩ := h
  rw [answer, hlog, List.drop_left, ← ho, Option.or_none]

theorem not_resumedBy (h : id ∉ w.waits.map Wait.id) : ¬ ResumedBy L w id e := by
  rintro ⟨k, x, -, hx, rfl, -⟩
  exact h (List.mem_map_of_mem (List.mem_of_getElem? hx))

theorem settle_calls {i : MariadbImplementation M} {o : Option Heard} {t : Turn M Handler}
    (ht : t.Heeds L i o) (w : World M) (id : Nat) :
    ∃ log, (w.settle id t).impl.mysql.calls = i.mysql.calls ++ log := by
  cases t with
  | wait j p on =>
    obtain ⟨-, ⟨log, hlog, -⟩, -⟩ := ht
    exact ⟨log, hlog⟩
  | dropped j =>
    obtain ⟨-, ⟨log, hlog, -⟩, -⟩ := ht
    exact ⟨log, hlog⟩
  | invoke j out =>
    obtain ⟨-, ⟨log, hlog, -⟩, -⟩ := ht
    exact ⟨log, hlog⟩
  | assertion => exact ht.elim
  | spinning => exact ht.elim

theorem resumedBy_last {j : MariadbImplementation M} {p : Handler} {on : WaitFor} {c : NbCall}
    (hr : p.Rests j.cancelationToken c) : ResumedBy L (w.settle id (.wait j p on)) id on := by
  have hx : (w.settle id (.wait j p on)).waits[w.waits.length]? = some ⟨id, p, on⟩ := by
    simp [settle]
  have hc : (checkToken p.token j .clear).failed = false := by
    rw [checkToken_of_eq hr.token]
    rfl
  obtain ⟨i, hd, hi, -, ht⟩ := Handler.resumed_continues (L := L) hr hc on.status
  obtain ⟨log, hlog⟩ := settle_calls ht { w.settle id (.wait j p on) with
    waits := (w.settle id (.wait j p on)).waits.eraseIdx w.waits.length } id
  refine ⟨w.waits.length, ⟨id, p, on⟩, _, hx, rfl, rfl, by rw [World.step, hx]; rfl, c, hd, log,
    hlog.trans ?_⟩
  rw [hi, List.append_assoc]
  rfl

/-- An operation that waits for `on` alone is resumed by all that `h` asks for just
when `h` asks for one event. -/
theorem resumedBy_wait_iff {j : MariadbImplementation M} {p : Handler} {on : WaitFor} {c : NbCall}
    (hr : p.Rests j.cancelationToken c) (hnew : id ∉ w.waits.map Wait.id)
    (hon : WaitFor.of h.status = some on) (h0 : h.status ≠ 0)
    (hbits : h.status &&& waitBits = h.status) :
    (∀ e, h.asks e → ResumedBy L (w.settle id (.wait j p on)) id e) ↔
      ∃ e : WaitFor, h.status = e.status := by
  constructor
  · intro hall
    refine ⟨on, WaitFor.status_of_asks h0 hbits fun e he => ?_⟩
    obtain ⟨k, x, -, hx, hxid, rfl, -⟩ := hall e he
    rcases List.mem_append.mp (List.mem_of_getElem? hx) with hx | hx
    · exact absurd (hxid ▸ List.mem_map_of_mem hx) hnew
    · obtain rfl := List.mem_singleton.mp hx
      rfl
  · rintro ⟨e0, he0⟩ e he
    obtain rfl := WaitFor.eq_of_asks he0 he
    obtain rfl : e = on := by
      rw [he0, WaitFor.of_status] at hon
      exact Option.some_inj.mp hon
    exact resumedBy_last hr

/-- An action runs a turn: what it hears and what it waits for; its operation has
no other wait. -/
structure Runs (L : Library M) (w : World M) (a : Action) (w' : World M) (id : Nat) (w1 : World M)
    (t : Turn M Handler) : Prop where
  settled : w' = w1.settle id t
  left : w1.waits = w.left a
  new : id ∉ w1.waits.map Wait.id
  heeds : t.Heeds L w.impl none
  post : ∃ s, t.Post (Handler.Rests w.impl.cancelationToken) w.impl s

/-- **The turn of a handler's step**, unless the operation failed before its first. -/
theorem Sound.runs (hs : w.Sound) {a : Action} (hstep : w.step L a = some w')
    (hid : w.running a = some id) :
    (∃ w1 t, Runs L w a w' id w1 t) ∨ (w.answer w' = none ∧ w'.waits = w.left a) := by
  cases a with
  | initiate r =>
    cases hstep
    obtain rfl : w.next = id := Option.some_inj.mp hid
    have hheeds := initiate_heeds L w.impl r
    have hpost := initiate_post L w.impl r
    unfold World.initiate
    cases hi : MariadbService.initiate L w.impl r with
    | posted j o =>
      rw [hi] at hheeds
      exact .inr ⟨answer_of_hears (hheeds.hears none), rfl⟩
    | ran t =>
      rw [hi] at hheeds hpost
      obtain ⟨j, -, hm, hp⟩ := hpost
      refine .inl ⟨{ w with next := w.next + 1 }, t, rfl, rfl, fun hmem => ?_, hheeds, none, ?_⟩
      · have hlt := hs.tickets.issued w.next (List.mem_append_left _ hmem)
        omega
      · rw [← hm.token]
        exact Turn.Post.of_moves hm hp
  | fire k ec =>
    obtain ⟨x, hx, rfl⟩ := World.step_fire hstep
    obtain rfl : x.id = id := by simpa [running, hx] using hid
    obtain ⟨hk, hget⟩ := List.getElem?_eq_some_iff.mp hx
    have hperm : (x :: w.waits.eraseIdx k).Perm w.waits :=
      hget ▸ List.getElem_cons_eraseIdx_perm hk
    have hnew : x.id ∉ (w.waits.eraseIdx k).map Wait.id := by
      have hnodup := ((hperm.map Wait.id).nodup_iff).mpr (List.nodup_append.mp hs.tickets.nodup).1
      exact (List.nodup_cons.mp hnodup).1
    suffices hturn : (x.handler.call L w.impl ec x.on.status).Heeds L w.impl none ∧
        ∃ s, (x.handler.call L w.impl ec x.on.status).Post
          (Handler.Rests w.impl.cancelationToken) w.impl s by
      exact .inl ⟨{ w with waits := w.waits.eraseIdx k }, _, rfl, rfl, hnew, hturn.1, hturn.2⟩
    cases hck : (checkToken x.handler.token w.impl ec).failed with
    | true =>
      rw [Handler.call_stopped hck]
      exact ⟨⟨none, .same rfl _, fun h hh => (by cases hh), rfl⟩, none,
        .refl w.impl.toImplementation none⟩
    | false =>
      obtain ⟨c, hr⟩ := hs.resting x (hget ▸ List.getElem_mem hk)
      have ht : x.handler.token = w.impl.cancelationToken := (token_of_checkToken hck).1
      exact ⟨(Handler.resumed_continues hr hck _).heeds none, some c,
        ht ▸ Handler.resumed_post hr hck _⟩
  | deliver => cases hid
  | cancel => cases hid
  | close => cases hid
  | call ec op => cases hid

end MariadbService.World

namespace MariadbService

/-- **An operation is resumed by every event its call asks for** just when the
call asks for one event (and leaves no error, as suspended calls do). -/
theorem resumed_by_all_iff {st : M} {as : List Action} {w w' : World M}
    (hrun : Run (World.step L) anyStep (.start (MariadbImplementation.construct st)) as w)
    {a : Action} (hstep : w.step L a = some w') {id : Nat} (hid : w.running a = some id)
    {h : Heard} (ha : w.answer w' = some h) (h0 : h.status ≠ 0)
    (hbits : h.status &&& waitBits = h.status) :
    (∀ e, h.asks e → w'.ResumedBy L id e) ↔ h.calm = true ∧ ∃ e : WaitFor, h.status = e.status := by
  have hs : w.Sound := hrun.invariant (World.start_sound st) fun _ _ _ h _ hstep => h.step hstep
  -- the call asks for some event
  obtain ⟨on0, hon0⟩ : ∃ on, WaitFor.of h.status = some on := by
    cases hw : WaitFor.of h.status with
    | some on => exact ⟨on, rfl⟩
    | none => exact absurd (hbits ▸ WaitFor.of_eq_none hw) h0
  obtain ⟨w1, t, hr⟩ : ∃ w1 t, World.Runs L w a w' id w1 t :=
    (hs.runs hstep hid).resolve_right fun hnone => by rw [hnone.1] at ha; cases ha
  obtain ⟨rfl, -, hnew, hheeds, s, hpost⟩ := hr
  -- an operation without a wait is resumed by nothing
  have hlost : (w1.settle id t).waits = w1.waits →
      ¬ ∀ e, h.asks e → (w1.settle id t).ResumedBy L id e := fun hw hall =>
    World.not_resumedBy (by rw [hw]; exact hnew) (hall on0 (WaitFor.asks_of hon0))
  cases t with
  | wait j p on =>
    obtain ⟨hd, hears, -, hcalm, hon, -⟩ := hheeds
    obtain rfl : hd = h := Option.some_inj.mp ((World.answer_of_hears hears).symm.trans ha)
    obtain ⟨c, hrest, hm⟩ := hpost
    rw [World.resumedBy_wait_iff (hm.token ▸ hrest) hnew hon h0 hbits]
    exact (and_iff_right hcalm).symm
  | dropped j =>
    obtain ⟨hd, hears, -, -, hon, -⟩ := hheeds
    obtain rfl : hd = h := Option.some_inj.mp ((World.answer_of_hears hears).symm.trans ha)
    rw [hon0] at hon
    cases hon
  | invoke j out =>
    obtain ⟨o, hears, hend, -⟩ := hheeds
    have ho : o = some h := (World.answer_of_hears hears).symm.trans ha
    refine ⟨fun hall => absurd hall (hlost rfl), fun ⟨hcalm, _⟩ => ?_⟩
    rcases hend h ho with hz | hz
    · exact absurd hz h0
    · rw [hcalm] at hz
      cases hz
  | assertion => exact hheeds.elim
  | spinning => exact hheeds.elim

theorem resumed_by_all_writable :
    ∃ (w : World Script) (h : Heard),
      (World.start (MariadbImplementation.construct { waits := [[⟨false, true, false⟩]] })).step
        Script.library (.initiate (.connect (Script.login defaultFlags))) = some w ∧
      h.status = WaitType.write ∧ ∀ e, h.asks e → w.ResumedBy Script.library 0 e := by
  obtain ⟨w, h, hw, ha, hcalm, hst⟩ : ∃ (w : World Script) (h : Heard),
      (World.start (MariadbImplementation.construct { waits := [[⟨false, true, false⟩]] })).step
        Script.library (.initiate (.connect (Script.login defaultFlags))) = some w ∧
      World.answer (.start (MariadbImplementation.construct { waits := [[⟨false, true, false⟩]] }))
        w = some h ∧
      h.calm = true ∧ h.status = WaitType.write := ⟨_, _, rfl, rfl, rfl, rfl⟩
  exact ⟨w, h, hw, hst, (resumed_by_all_iff .start hw rfl ha (by rw [hst]; decide)
    (by rw [hst]; decide)).mpr ⟨hcalm, .write, hst⟩⟩

/-- A connect that waits for the socket or a timeout is resumed by the socket
only: when the timeout elapses first, it hangs. -/
theorem timeout_not_resumed :
    ∃ (w : World Script) (h : Heard),
      (World.start (MariadbImplementation.construct { waits := [[⟨false, true, true⟩]] })).step
        Script.library (.initiate (.connect (Script.login defaultFlags))) = some w ∧
      World.answer (.start (MariadbImplementation.construct { waits := [[⟨false, true, true⟩]] }))
        w = some h ∧
      h.calm = true ∧ h.status = WaitType.write ||| WaitType.timeout ∧
      h.asks .write ∧ w.ResumedBy Script.library 0 .write ∧
      h.asks .timeout ∧ ¬ w.ResumedBy Script.library 0 .timeout := by
  obtain ⟨w, h, hw, ha, hcalm, hst, hon⟩ : ∃ (w : World Script) (h : Heard),
      (World.start (MariadbImplementation.construct { waits := [[⟨false, true, true⟩]] })).step
        Script.library (.initiate (.connect (Script.login defaultFlags))) = some w ∧
      World.answer (.start (MariadbImplementation.construct { waits := [[⟨false, true, true⟩]] }))
        w = some h ∧
      h.calm = true ∧ h.status = WaitType.write ||| WaitType.timeout ∧
      (∀ x ∈ w.waits, x.on = .write) := ⟨_, _, rfl, rfl, rfl, rfl, by decide⟩
  refine ⟨w, h, hw, ha, hcalm, hst, ?_, ?_, ?_, ?_⟩
  · rw [Heard.asks, hst]; decide
  · cases hw
    exact ⟨0, _, _, rfl, rfl, rfl, rfl, _, _, [], rfl⟩
  · rw [Heard.asks, hst]; decide
  · rintro ⟨k, x, -, hx, -, hx', -⟩
    rw [hon x (List.mem_of_getElem? hx)] at hx'
    cases hx'

end MariadbService

end Amy
