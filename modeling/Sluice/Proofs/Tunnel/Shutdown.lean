import Sluice.Proofs.Tunnel.Chronicle
import Sluice.Proofs.Tunnel.Effort

/-!
# The end of a tunnel

A tunnel that is shut down comes to its end whatever it is busy with, without clients, remotes or
bytes to wait for and without time passing. When the end is reported nothing of the tunnel is left.

* `Tunnel.Farewell`: the end is reported at last, when nobody is at work any more;
* `Tunnel.Sound`: what holds of a tunnel at any time of any run;
* `Tunnel.Drained`: what holds when the end is reported;
* `Tunnel.exists_acts`: as long as the end is not reported there is something that the tunnel does
  by itself;
* `Tunnel.drained_of_shutDown`: a tunnel that is shut down comes to its end.
-/

namespace Sluice.Tunnel

open Event (openedId? closedId?)

/-- The end is reported when nobody is at work any more, and nothing is reported after it. -/
inductive Farewell (t : Tunnel) : Prop
  | unreported (hhandle : t.handle ≠ .closed) (hevents : .stopped ∉ t.events)
  | reported {before : List Event} (hhandle : t.handle = .closed) (hfinished : t.isFinished)
      (hlast : t.events = before ++ [.stopped]) (hbefore : .stopped ∉ before)

/-- What holds of a tunnel at any time. -/
structure Sound (t : Tunnel) : Prop where
  books : t.Books
  pays : t.relay.PaysWithin
  chronicle : Chronicle t.owner t.events
  farewell : t.Farewell

/-- Nothing of the tunnel is left. -/
structure Drained (t : Tunnel) : Prop where
  /-- The owner, the acceptor and every direction are gone. -/
  finished : t.isFinished
  /-- No listener belongs to the tunnel any more. -/
  listener : t.hasListener = false
  /-- No connection is active. -/
  active : t.counters.active = 0
  /-- The beginning of the end was reported once, and the end itself is the last event. Between the
  two every connection was closed, for the reason of the shutdown, that was active before. -/
  events : ∃ before after, t.events = before ++ .shutdownStarted :: (after ++ [.stopped]) ∧
    .shutdownStarted ∉ before ++ after ∧ .stopped ∉ before ++ after ∧
    ∀ id ∈ before.filterMap openedId?, id ∉ before.filterMap closedId? →
      .connectionClosed id .shutdown ∈ after

variable {t t' : Tunnel} {now : ℕ} {action : Action}

theorem isFinished_iff :
    t.isFinished ↔ t.owner = .stopped ∧ t.acceptor = .ended ∧ t.relay.tasks = 0 := by
  cases hacceptor : t.acceptor <;> simp [isFinished, hacceptor]

/-! ## The report of the end -/

/-- The end is reported by its own action only. -/
theorem Turn.stopped_not_mem {owner owner' : Owner} {phase phase' : Phase} {news : List Event}
    (h : Turn action owner phase news owner' phase') (haction : action ≠ .finish) :
    .stopped ∉ news := by
  cases h with
  | finish => exact absurd rfl haction
  | aside hnews =>
    intro he
    cases hnews _ he
  | takeNotice hcloses | stop hcloses =>
    intro he
    obtain ⟨id, heq⟩ := hcloses _ he
    cases heq
  | loseListener hcloses =>
    intro he
    rcases List.mem_cons.1 he with heq | he
    · cases heq
    · rcases List.mem_append.1 he with he | he
      · obtain ⟨id, heq⟩ := hcloses _ he
        cases heq
      · simp at he
  | _ => simp

theorem Stepped.handle_ne_closed (hs : t.Stepped now action t') (haction : action ≠ .finish)
    (h : t.handle ≠ .closed) : t'.handle ≠ .closed := by
  cases hs with
  | finish => exact absurd rfl haction
  | shutDown | drop => simp
  | _ => exact h

/-- After the end is reported nothing happens any more. -/
theorem Stepped.of_closed (hs : t.Stepped now action t') (hhandle : t.handle = .closed)
    (hfinished : t.isFinished) :
    t'.handle = .closed ∧ t'.isFinished ∧ t'.events = t.events := by
  -- each action but the two below needs an owner, an acceptor, a direction or an open handle
  obtain ⟨howner, hacceptor, htasks⟩ := isFinished_iff.1 hfinished
  have hshut : t.isShut = true := by simp [isShut, hhandle]
  cases hs with
  | giveUp | handUpdate => exact ⟨hhandle, hfinished, rfl⟩
  | work hwork => exact absurd htasks hwork.tasks_ne_zero
  | _ => simp_all

theorem Farewell.step (h : t.Farewell) (hs : t.Stepped now action t') : t'.Farewell := by
  cases h with
  | reported hhandle hfinished hlast hbefore =>
    obtain ⟨hhandle', hfinished', hevents⟩ := hs.of_closed hhandle hfinished
    exact .reported hhandle' hfinished' (hevents.trans hlast) hbefore
  | unreported hhandle hevents =>
    by_cases haction : action = .finish
    · subst haction
      cases hs with
      | finish hclosing hfinished => exact .reported rfl hfinished rfl hevents
    · obtain ⟨news, hnews, hturn⟩ := hs.turn
      refine .unreported (hs.handle_ne_closed haction hhandle) ?_
      rw [hnews, List.mem_append, not_or]
      exact ⟨hevents, hturn.stopped_not_mem haction⟩

/-! ## At any time -/

theorem sound_start (plan : TunnelPlan) (now : ℕ) (listener : Listener) :
    (start plan now listener).Sound where
  books := books_start plan now listener
  pays := by simp [start, Relay.PaysWithin]
  chronicle := chronicle_start plan now listener
  farewell := .unreported (by simp [start]) (by simp [start, events])

theorem Sound.step (h : t.Sound) (hs : t.Stepped now action t') : t'.Sound where
  books := h.books.step hs
  pays := hs.every Worker.lasting_paysWithin h.pays
  chronicle := hs.chronicle h.chronicle
  farewell := h.farewell.step hs

theorem Sound.run {actions : List (ℕ × Action)} (h : t.Sound) (hrun : t.run actions = some t') :
    t'.Sound :=
  run_keeps (fun _ _ _ _ _ hsound hs => hsound.step hs) h hrun

/-! ## When the end is reported -/

/-- A connection that was opened and not closed before the end began was closed after it, for the
reason of the shutdown. -/
theorem Sound.mem_closed {before after : List Event} {id : ℕ} (h : t.Sound)
    (howner : t.owner = .stopped) (hsplit : t.events = before ++ .shutdownStarted :: after)
    (hopened : id ∈ before.filterMap openedId?) (hclosed : id ∉ before.filterMap closedId?) :
    .connectionClosed id .shutdown ∈ after := by
  have hperm := (Ledger.agrees_of_replay h.books.relay.replay).opened
  rw [h.books.stopped howner, List.append_nil] at hperm
  -- nothing is active any more, so that all that was opened was closed
  have hmem : id ∈ t.events.filterMap closedId? := by
    refine hperm.subset ?_
    rw [← events, hsplit, List.filterMap_append]
    exact List.mem_append_left _ hopened
  rw [hsplit, List.filterMap_append, List.mem_append] at hmem
  -- it was not closed before the end began, and after that there is one reason only
  obtain ⟨e, he, hid⟩ := List.mem_filterMap.1 (hmem.resolve_left hclosed)
  rcases List.mem_cons.1 he with rfl | he
  · cases hid
  · have hend := (h.chronicle.isOfEnd_of_split hsplit).2 e he
    cases e with
    | connectionClosed other reason =>
      cases hid
      cases reason <;> first | cases hend; done | exact he
    | _ => cases hid

/-- When the end is reported nothing of the tunnel is left. -/
theorem Sound.drained (h : t.Sound) (hstopped : .stopped ∈ t.events) : t.Drained := by
  cases h.farewell with
  | unreported _ hevents => exact absurd hstopped hevents
  | @reported early hhandle hfinished hlast hearly =>
    obtain ⟨howner, hacceptor, htasks⟩ := isFinished_iff.1 hfinished
    refine ⟨hfinished, ?_, ?_, ?_⟩
    · simp [hasListener, howner, hacceptor]
    · rw [counters, h.books.relay.active, h.books.stopped howner]
      rfl
    · obtain ⟨before, rest, hsplit, -⟩ := h.chronicle.leaving_inv (by rw [howner]; rfl)
      obtain ⟨hbefore, hrest⟩ := h.chronicle.isOfEnd_of_split hsplit
      -- the last event is the end, and not the beginning of it
      rcases Ledger.concat_eq_append_cons (hlast.symm.trans hsplit) with
        ⟨-, heq⟩ | ⟨after, rfl, rfl⟩
      · cases heq
      · have hafter : .shutdownStarted ∉ after := fun he =>
          Event.ne_shutdownStarted_of_isOfEnd (hrest _ (List.mem_append_left _ he)) rfl
        refine ⟨before, after, hsplit, ?_, ?_, fun id hopened hclosed => ?_⟩
        · simp [hbefore, hafter]
        · simpa using hearly
        · have hmem := h.mem_closed howner hsplit hopened hclosed
          simpa using hmem

/-! ## The way to the end -/

theorem exists_acts_of_isSome (action : Action) (hown : action.isOwn)
    (hready : t.IsReady now action) (h : (t.step now action).isSome) : ∃ t', Acts now t t' := by
  obtain ⟨t', hstep⟩ := Option.isSome_iff_exists.1 h
  exact ⟨t', action, hown, hready, hstep⟩

/-- When the owner is gone, the acceptor leaves, the directions end, and the end is reported. -/
theorem exists_acts_of_stopped (h : t.Sound) (howner : t.owner = .stopped)
    (hclosing : t.handle = .closing) (now : ℕ) : ∃ t', Acts now t t' := by
  have hshut : t.isShut = true := by simp [isShut, hclosing]
  by_cases htasks : t.relay.tasks = 0
  · cases hacceptor : t.acceptor with
    | ended =>
      have hfinished : t.isFinished := isFinished_iff.2 ⟨howner, hacceptor, htasks⟩
      refine exists_acts_of_isSome .finish rfl trivial ?_
      simp [step, Tunnel.finish, hclosing, hfinished]
    | accepting | handing =>
      refine exists_acts_of_isSome .retire rfl trivial ?_
      simp [step, Tunnel.retire, hshut, hacceptor]
  · -- some direction has not ended, and its connection is closed as all are
    simp only [Relay.tasks_eq_zero_iff, not_forall, Bool.not_eq_false] at htasks
    obtain ⟨c, hc, direction, halive⟩ := htasks
    have hclosed : c.closed := by
      by_contra hopen
      have hactive := Relay.mem_active.2 ⟨c, hc, rfl, by simpa using hopen⟩
      rw [h.books.stopped howner] at hactive
      cases hactive
    obtain ⟨work, hown, hready, hsome⟩ :=
      Relay.exists_own_work h.books.relay.nodup h.pays hc hclosed halive now
    refine exists_acts_of_isSome (.work c.id direction work) hown hready ?_
    simpa [step] using hsome

/-- As long as the end of a tunnel that is shut down is not reported, there is something that the
tunnel does by itself. -/
theorem exists_acts (h : t.Sound) (hclosing : t.handle = .closing) (now : ℕ) :
    ∃ t', Acts now t t' := by
  have hshut : t.isShut = true := by simp [isShut, hclosing]
  cases howner : t.owner with
  | opening inService =>
    refine exists_acts_of_isSome .openFirst rfl trivial ?_
    simp [step, Tunnel.openFirst, howner]
  | serving | retrying =>
    refine exists_acts_of_isSome .heed rfl trivial ?_
    simp [step, Tunnel.heed, howner, hshut]
  | dialing =>
    refine exists_acts_of_isSome .abandonDial rfl trivial ?_
    simp [step, Tunnel.abandonDial, howner, hshut]
  | binding =>
    refine exists_acts_of_isSome (.bound (.error .writeZero)) rfl trivial ?_
    simp [step, Tunnel.bound, howner]
  | ending =>
    refine exists_acts_of_isSome .stop rfl trivial ?_
    simp [step, Tunnel.stop, howner]
  | stopped => exact exists_acts_of_stopped h howner hclosing now

/-- Who waits for the end goes on waiting until it is reported. -/
theorem Stepped.handle_closing (hs : t.Stepped now action t')
    (h : t.handle = .closing ∨ t.handle = .closed) :
    t'.handle = .closing ∨ t'.handle = .closed := by
  cases hs with
  | finish => exact .inr rfl
  | shutDown hheld | drop hheld => rcases h with h | h <;> simp [isShut, h] at hheld
  | _ => exact h

theorem Unaided.sound {n : ℕ} (h : Unaided now n t t') (hsound : t.Sound)
    (hclosing : t.handle = .closing ∨ t.handle = .closed) :
    t'.Sound ∧ (t'.handle = .closing ∨ t'.handle = .closed) := by
  induction h with
  | refl => exact ⟨hsound, hclosing⟩
  | step hacts _ ih =>
    obtain ⟨action, -, -, hstep⟩ := hacts
    have hs := stepped_of_step hstep
    exact ih (hsound.step hs) (hs.handle_closing hclosing)

/-- In whatever state of whatever run a tunnel is shut down: at this instant, it can do only so many
things by itself, it can always go on until the end is reported, and whenever the end is reported
nothing of the tunnel is left. The tunnel must not attempt to listen again and again without a
pause. -/
theorem drained_of_shutDown {plan : TunnelPlan} {listener : Listener} {first : ℕ}
    {actions : List (ℕ × Action)} (hretry : 0 < plan.retryInterval.nanos)
    (hrun : (start plan first listener).run actions = some t)
    (hshut : t.step now .shutDown = some t') :
    (∃ bound, ∀ n t'', Unaided now n t' t'' → n ≤ bound) ∧
      (∀ n t'', Unaided now n t' t'' → .stopped ∉ t''.events → ∃ next, Acts now t'' next) ∧
      ∀ later t'', t'.run later = some t'' → .stopped ∈ t''.events → t''.Drained := by
  -- the plan is needed for the delay before the next attempt to listen only
  have hplan : t.plan = plan :=
    run_keeps (motive := fun t => t.plan = plan) (fun _ _ _ _ _ h hs => hs.plan_eq.trans h) rfl hrun
  have hs := stepped_of_step hshut
  have hsound := ((sound_start plan first listener).run hrun).step hs
  have hclosing : t'.handle = .closing := by
    cases hs
    rfl
  refine ⟨⟨t'.effort now, fun n t'' h => ?_⟩, fun n t'' h hopen => ?_, fun later t'' h => ?_⟩
  · rw [← hplan, ← hs.plan_eq] at hretry
    have hle := h.add_effort_le hsound.books hretry
    omega
  · obtain ⟨hsound', hclosing'⟩ := h.sound hsound (.inl hclosing)
    refine exists_acts hsound' (hclosing'.resolve_right fun hclosed => ?_) now
    -- the end would be reported
    cases hsound'.farewell with
    | unreported hhandle => exact hhandle hclosed
    | reported _ _ hlast => exact hopen (by simp [hlast])
  · exact (hsound.run h).drained

/-- A client is served, another one waits, and new limits are asked for. -/
def busy : List (ℕ × Action) :=
  [(0, .openFirst), (0, .arrive (.ok ⟨.v4 10 0 0 1, 4000, 0⟩)), (0, .handArrival),
    (0, .takeArrival), (1000000, .endDial (.ok ())),
    (1000000, .work 1 .upstream (.forward (.received [1, 2, 3]))),
    (2000000, .arrive (.ok ⟨.v4 10 0 0 2, 4000, 0⟩)), (2000000, .handArrival),
    (2000000, .requestUpdate ⟨2000, 900⟩)]

theorem drained_of_busy :
    ∃ t t', (start ⟨"web", "in", "out", ⟨1000, 500⟩, .ofMillis 5, .ofMillis 3⟩ 0
          (.stable ⟨.v4 127 0 0 1, 80, 0⟩)).run busy = some t ∧
      t.step 2000000 .shutDown = some t' ∧
      (∃ bound, ∀ n t'', Unaided 2000000 n t' t'' → n ≤ bound) ∧
      (∀ n t'', Unaided 2000000 n t' t'' → .stopped ∉ t''.events →
        ∃ next, Acts 2000000 t'' next) ∧
      ∀ later t'', t'.run later = some t'' → .stopped ∈ t''.events → t''.Drained := by
  have hrun : (start ⟨"web", "in", "out", ⟨1000, 500⟩, .ofMillis 5, .ofMillis 3⟩ 0
      (.stable ⟨.v4 127 0 0 1, 80, 0⟩)).run busy = some _ := rfl
  exact ⟨_, _, hrun, rfl, drained_of_shutDown (by decide) hrun rfl⟩

end Sluice.Tunnel
