import Amy.Mariadb.Completion

/-!
# The handle is not entered while a call is suspended on it

A caller that is patient starts an operation once the handler of the previous
one was invoked. Then at most one operation is under way, and the call its wait
will continue is the one the library has suspended (`Talks`), as long as no
operation ends early: by a wait that fails, by a token that has expired, or by
a suspended answer that is not calm.
-/

namespace Amy

open Base

namespace MariadbService

variable {M : Type} {L : Library M}

namespace World

def Idle (w : World M) : Prop := w.invoked.length = w.next

/-- The caller waits for the previous operation; `cancel` may come at any time. -/
def Patient (w : World M) : Action → Prop
  | .initiate _ | .call _ _ | .close => w.Idle
  | .fire _ _ | .deliver | .cancel => True

/-- No wait ends its operation early: by an error, or by a token that has expired. -/
def Clean (w : World M) : Action → Prop
  | .fire k ec => ec.failed = false ∧ w.waits[k]?.all (fun x => !x.handler.expired w.impl)
  | _ => True

def Unbroken (w : World M) (a : Action) : Prop := w.Patient a ∧ w.Clean a

instance (w : World M) : Decidable w.Idle := inferInstanceAs (Decidable (_ = _))

instance (w : World M) : (a : Action) → Decidable (w.Patient a)
  | .initiate _ | .call _ _ | .close => inferInstanceAs (Decidable w.Idle)
  | .fire _ _ | .deliver | .cancel => inferInstanceAs (Decidable True)

instance (w : World M) : (a : Action) → Decidable (w.Clean a)
  | .fire _ _ => inferInstanceAs (Decidable (_ ∧ _))
  | .initiate _ | .call _ _ | .close | .deliver | .cancel => inferInstanceAs (Decidable True)

instance (w : World M) (a : Action) : Decidable (w.Unbroken a) :=
  inferInstanceAs (Decidable (_ ∧ _))

/-- The native calls so far leave `s` suspended, unless an answer was not calm. -/
def Suspended (w : World M) (s : Option NbCall) : Prop :=
  (∀ c ∈ w.impl.mysql.calls, c.calm = true) → exec Talk.step none w.impl.mysql.calls = some s

/-- The library has suspended the call that the wait, if there is one, continues. -/
def Talks (w : World M) : Prop :=
  ∃ s, w.Suspended s ∧ (w.waits = [] → w.bares = 0 → s = none) ∧
    ∀ x ∈ w.waits, ∃ c, x.handler.Rests x.handler.token c ∧ s = some c

structure Orderly (w : World M) : Prop where
  sound : w.Sound
  one : w.next ≤ w.invoked.length + 1
  talks : w.Talks

variable {w w' : World M} {id k : Nat} {t : Turn M Handler} {s : Option NbCall}

/-- Every operation waits, is posted, was invoked, or was lost. -/
theorem Sound.total (h : w.Sound) :
    w.waits.length + w.posted.length + w.invoked.length + w.bares = w.next := by
  have := h.tickets.total
  simp only [ids, List.length_append, List.length_map] at this
  omega

theorem Suspended.moves {i : MariadbImplementation M} {s' : Option NbCall} {n : Nat}
    (hs : w.Suspended s) (hm : w.impl.Moves i s s' n) : World.Suspended { w with impl := i } s' :=
  hm.talk hs

theorem Orderly.idle (h : w.Orderly) (hidle : w.Idle) :
    w.waits = [] ∧ w.bares = 0 ∧ w.Suspended none := by
  have htotal := h.sound.total
  have hlen : w.invoked.length = w.next := hidle
  have hw : w.waits = [] := List.length_eq_zero_iff.mp (by omega)
  have hb : w.bares = 0 := by omega
  obtain ⟨s, hs, hnone, -⟩ := h.talks
  exact ⟨hw, hb, hnone hw hb ▸ hs⟩

theorem Orderly.waiting (h : w.Orderly) {x : Wait} (hx : w.waits[k]? = some x) :
    w.waits.eraseIdx k = [] ∧ w.bares = 0 ∧
      ∃ c, x.handler.Rests x.handler.token c ∧ w.Suspended (some c) := by
  have htotal := h.sound.total
  have hone := h.one
  obtain ⟨hk, hget⟩ := List.getElem?_eq_some_iff.mp hx
  obtain ⟨s, hs, -, hrest⟩ := h.talks
  obtain ⟨c, hc, rfl⟩ := hrest x (hget ▸ List.getElem_mem hk)
  refine ⟨List.length_eq_zero_iff.mp ?_, by omega, c, hc, hs⟩
  rw [List.length_eraseIdx_of_lt hk]
  omega

theorem settle_talks (hw : w.waits = []) (hb : w.bares = 0) (hs : w.Suspended s)
    (hpost : t.Post (Handler.Rests k) w.impl s) : (w.settle id t).Talks := by
  cases t with
  | wait j h on =>
    obtain ⟨c, hc, hm⟩ := hpost
    refine ⟨some c, hs.moves hm, by simp [settle], fun x hx => ?_⟩
    simp only [settle, hw, List.nil_append, List.mem_singleton] at hx
    subst hx
    exact ⟨c, hc.token ▸ hc, rfl⟩
  | dropped j =>
    obtain ⟨c, hm⟩ := hpost
    have hb' : (w.settle id (.dropped j : Turn M Handler)).bares = w.bares + 1 := hm.bares
    refine ⟨some c, hs.moves hm, fun _ h0 => by omega, fun x hx => ?_⟩
    simp only [settle, hw, List.not_mem_nil] at hx
  | invoke j o =>
    refine ⟨none, hs.moves hpost, fun _ _ => rfl, fun x hx => ?_⟩
    simp only [settle, hw, List.not_mem_nil] at hx
  | assertion => exact hpost.elim
  | spinning => exact hpost.elim

/-- Changes to an idle connector that suspend nothing. -/
theorem Orderly.idle_talks (h : w.Orderly) (hidle : w.Idle) {i : MariadbImplementation M}
    {log : List Call} (hlog : i.mysql.calls = w.impl.mysql.calls ++ log)
    (hu : ∀ c ∈ log, c.heard? = none) : World.Talks { w with impl := i } := by
  obtain ⟨hw, -, hs⟩ := h.idle hidle
  refine ⟨none, fun hc => ?_, fun _ _ => rfl, fun x hx => ?_⟩
  · simp only [hlog] at hc ⊢
    rw [exec_append, hs fun c hm => hc c (by simp [hm]), Option.bind_some]
    exact Talk.exec_unheard hu
  · simp only [hw, List.not_mem_nil] at hx

theorem le_settle_invoked (w : World M) (id : Nat) (t : Turn M Handler) :
    w.invoked.length ≤ (w.settle id t).invoked.length := by
  cases t <;> simp [settle]

theorem start_orderly (st : M) : Orderly (.start (MariadbImplementation.construct st)) :=
  ⟨start_sound st, Nat.zero_le _, none, fun _ => rfl, fun _ _ => rfl, fun x hx => by cases hx⟩

theorem Orderly.step (h : w.Orderly) {a : Action} (hok : w.Unbroken a)
    (hstep : w.step L a = some w') : w'.Orderly := by
  have hsound := h.sound.step hstep
  have hone := h.one
  obtain ⟨hpatient, hclean⟩ := hok
  cases a with
  | initiate r =>
    simp only [World.step, Option.some.injEq] at hstep
    subst hstep
    have hidle : w.invoked.length = w.next := hpatient
    obtain ⟨hw, hb, hs⟩ := h.idle hpatient
    have hp := initiate_post L w.impl r
    unfold World.initiate at hsound ⊢
    cases hi : MariadbService.initiate L w.impl r with
    | posted j o =>
      rw [hi] at hp hsound
      refine ⟨hsound, Nat.le_of_eq (by rw [hidle]), none, hs.moves hp, fun _ _ => rfl, fun x hx => ?_⟩
      simp only [hw, List.not_mem_nil] at hx
    | ran t =>
      rw [hi] at hp hsound
      obtain ⟨j, -, hm, hp⟩ := hp
      refine ⟨hsound, ?_, settle_talks (w := { w with next := w.next + 1 }) hw hb hs
        (Turn.Post.of_moves hm hp)⟩
      calc _ = w.invoked.length + 1 := by simp [hidle]
        _ ≤ _ := Nat.succ_le_succ (le_settle_invoked { w with next := w.next + 1 } w.next t)
  | fire k ec =>
    obtain ⟨hec, hexp⟩ := hclean
    obtain ⟨x, hx, rfl⟩ := World.step_fire hstep
    obtain ⟨hw, hb, c, hc, hs⟩ := h.waiting hx
    have htoken : x.handler.token = w.impl.cancelationToken := by
      simpa [hx, Handler.expired] using hexp
    have hck : (checkToken x.handler.token w.impl ec).failed = false := by
      rw [checkToken_of_eq htoken, hec]
    refine ⟨hsound, ?_, settle_talks (w := { w with waits := w.waits.eraseIdx k }) hw hb hs
      (Handler.resumed_post hc hck _)⟩
    calc _ = w.next := by simp
      _ ≤ w.invoked.length + 1 := hone
      _ ≤ _ := Nat.succ_le_succ (le_settle_invoked { w with waits := w.waits.eraseIdx k } x.id _)
  | deliver =>
    obtain ⟨c, cs, hp, rfl⟩ := World.step_deliver hstep
    exact ⟨hsound, by simp only [List.length_append]; omega, h.talks⟩
  | cancel =>
    cases hstep
    exact ⟨hsound, hone, h.talks⟩
  | close =>
    cases hstep
    refine ⟨hsound, hone, ?_⟩
    split_ifs
    · obtain ⟨log, hlog, hu⟩ := close_calls L w.impl.toImplementation
      exact h.idle_talks hpatient hlog hu
    · exact h.talks
  | call ec op =>
    cases hstep
    obtain ⟨hw, -, hs⟩ := h.idle hpatient
    have hm : w.impl.Moves (w.impl.update (perform .mariadb L w.impl.toImplementation ec op).1)
      none none 0 := perform_moves ..
    refine ⟨hsound, hone, none, hs.moves hm, fun _ _ => rfl, fun x hx => ?_⟩
    simp only [hw, List.not_mem_nil] at hx

end World

/-- **The handle is not entered while a call is suspended on it**, in no run of
a patient caller whose operations do not end early and whose suspended answers
are all calm. -/
theorem handle_not_reentered {st : M} {as : List Action} {w : World M}
    (hrun : Run (World.step L) World.Unbroken (.start (MariadbImplementation.construct st)) as w)
    (hcalm : ∀ c ∈ w.impl.mysql.calls, c.calm = true) :
    exec Talk.step none w.impl.mysql.calls ≠ none := by
  have h : w.Orderly := hrun.invariant (World.start_orderly st) fun _ _ _ h hok hs => h.step hok hs
  obtain ⟨s, hs, -⟩ := h.talks
  rw [hs hcalm]
  exact Option.some_ne_none s

/-- Two queries, the first of which suspends. -/
def oneWait : Script := { waits := [[], [⟨true, false, false⟩]] }

theorem handle_not_reentered_resumed :
    ∃ w : World Script, w.invoked = [⟨0, .clear, none⟩, ⟨1, .clear, none⟩] ∧
      exec Talk.step none w.impl.mysql.calls ≠ none := by
  obtain ⟨w, hw, hinv, hcalm⟩ : ∃ w : World Script,
      exec (allowed (World.step Script.library) World.Unbroken)
        (.start (MariadbImplementation.construct oneWait))
        [.call .clear (.connect (Script.login defaultFlags)), .initiate (.query "do 1"),
          .fire 0 .clear, .initiate (.query "do 2")] = some w ∧
      w.invoked = [⟨0, .clear, none⟩, ⟨1, .clear, none⟩] ∧
      ∀ c ∈ w.impl.mysql.calls, c.calm = true :=
    ⟨_, rfl, by decide, by decide⟩
  exact ⟨w, hinv, handle_not_reentered (run_of_exec_allowed hw) hcalm⟩

/-- A canceled query ends while its call is suspended, and the next one enters
the handle. -/
theorem canceled_query_reentered :
    ∃ w : World Script,
      Run (World.step Script.library) World.Patient
        (.start (MariadbImplementation.construct oneWait))
        [.call .clear (.connect (Script.login defaultFlags)), .initiate (.query "do 1"), .cancel,
          .fire 0 .clear, .initiate (.query "do 2")] w ∧
      (∀ c ∈ w.impl.mysql.calls, c.calm = true) ∧
      exec Talk.step none w.impl.mysql.calls = none := by
  obtain ⟨w, hw, h⟩ : ∃ w : World Script,
      exec (allowed (World.step Script.library) World.Patient)
        (.start (MariadbImplementation.construct oneWait))
        [.call .clear (.connect (Script.login defaultFlags)), .initiate (.query "do 1"), .cancel,
          .fire 0 .clear, .initiate (.query "do 2")] = some w ∧
      (∀ c ∈ w.impl.mysql.calls, c.calm = true) ∧
      exec Talk.step none w.impl.mysql.calls = none :=
    ⟨_, rfl, by decide, by decide⟩
  exact ⟨w, run_of_exec_allowed hw, h⟩

end MariadbService

end Amy
