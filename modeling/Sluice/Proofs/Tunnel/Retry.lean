import Sluice.Proofs.Tunnel.Waiting

/-!
# The end of a wait

A wait to listen again ends at its deadline with an attempt to listen, or before with the end of
the tunnel.

* `Tunnel.Ends deadline t now last rest`: how a wait ends;
* `Tunnel.mayAttempt`: requests do not keep the owner from its attempt;
* `Tunnel.Waits.run`: a wait lasts until something ends it;
* `Tunnel.retry_of_run`: in every run, limits take effect at once during a wait, and the owner
  attempts to listen exactly at the deadline, once, unless the end is asked for before. The deadline
  is the end of the delay if and only if the timers can count so far.
-/

namespace Sluice.Tunnel

open Timer (grain lastTick)

variable {t t' begun : Tunnel} {now deadline since : ℕ} {action : Action} {diary : Diary}

/-- Another wait was announced since the tunnel was `t`. -/
def WaitsAnew (t t' : Tunnel) : Prop :=
  ∃ news delay, t'.events = t.events ++ news ∧ .listenRetryScheduled delay ∈ news

/-- The attempt to listen that the owner makes now is the only one of its wait: whatever follows,
before it makes another one it announces another wait. -/
def AttemptsOnce (t : Tunnel) (now : ℕ) : Prop :=
  ∀ more t' again t'', t.run ((now, .wake) :: more) = some t' → t'.step again .wake = some t'' →
    t.WaitsAnew t'

/-- If nobody asks for anything more, the owner attempts to listen at the deadline. -/
def MayAttempt (t : Tunnel) (now deadline : ℕ) : Prop :=
  ∃ more t', Schedule.InOrder now (more ++ [(deadline, .wake)]) deadline ∧
    t.IsPrompt now (more ++ [(deadline, .wake)]) deadline ∧
    t.run (more ++ [(deadline, .wake)]) = some t'

/-- How a wait ends in which the tunnel is `t` at last, with the actions that follow. -/
inductive Ends (deadline : ℕ) (t : Tunnel) (now last : ℕ) : Schedule Action → Prop
  /-- It is not over at the last instant. -/
  | goesOn (hlast : now = last) (hattempt : t.isShut = false → t.MayAttempt now deadline) :
      Ends deadline t now last []
  /-- The owner attempts to listen at the deadline, once. -/
  | attempt {after : Schedule Action} (hdeadline : now = deadline) (honce : t.AttemptsOnce now) :
      Ends deadline t now last ((now, .wake) :: after)
  /-- The end was asked for, and the owner never attempts to listen again. -/
  | calledOff {after : Schedule Action} (hshut : t.isShut) (hnever : ∀ x ∈ after, x.2 ≠ .wake) :
      Ends deadline t now last ((now, .heed) :: after)

/-- The owner begins to wait only with an announcement. -/
theorem Turn.announced {owner owner' : Owner} {phase phase' : Phase} {news : List Event}
    (h : Turn action owner phase news owner' phase') (howner' : owner' = .retrying deadline) :
    (∃ deadline, owner = .retrying deadline) ∨ ∃ delay, .listenRetryScheduled delay ∈ news := by
  cases h with
  | aside => exact .inl ⟨deadline, howner'⟩
  | takeUpdate howner => exact .inl ⟨deadline, howner'⟩
  | @loseListener _ _ _ delay => exact .inr ⟨delay, by simp⟩
  | @failBind _ _ _ delay => exact .inr ⟨delay, by simp⟩
  | _ => cases howner'

/-- An owner that leaves does not listen again. -/
theorem Stepped.isLeaving (hs : t.Stepped now action t') (h : t.owner.isLeaving) :
    t'.owner.isLeaving ∧ action ≠ .wake := by
  cases hs with
  | finish | takeUpdate => exact ⟨h, nofun⟩
  | heed | stop => exact ⟨rfl, nofun⟩
  | _ => simp_all [Owner.isLeaving, Tunnel.giveUp]

theorem Stepped.asksEnd_eq_false (hs : t.Stepped now action t') (hshut : t.isShut) :
    action.asksEnd = false := by
  cases hs with
  | shutDown hheld | drop hheld =>
    rw [hheld] at hshut
    cases hshut
  | _ => rfl

/-- If the owner waits, then since an announcement made after the tunnel was `t`. -/
def AnnouncesWaits (t t' : Tunnel) : Prop :=
  ∃ news, t'.events = t.events ++ news ∧ ∀ deadline, t'.owner = .retrying deadline →
    ∃ delay, .listenRetryScheduled delay ∈ news

theorem AnnouncesWaits.step (h : begun.AnnouncesWaits t) (hs : t.Stepped now action t') :
    begun.AnnouncesWaits t' := by
  obtain ⟨news, hnews, hwaits⟩ := h
  obtain ⟨news', hnews', hturn⟩ := hs.turn
  refine ⟨news ++ news', by rw [hnews', hnews, List.append_assoc], fun deadline howner => ?_⟩
  obtain ⟨deadline', howner'⟩ | ⟨delay, hmem⟩ := hturn.announced howner
  · obtain ⟨delay, hmem⟩ := hwaits deadline' howner'
    exact ⟨delay, List.mem_append_left _ hmem⟩
  · exact ⟨delay, List.mem_append_right _ hmem⟩

theorem AnnouncesWaits.run {actions : Schedule Action} (h : begun.AnnouncesWaits t)
    (hrun : t.run actions = some t') : begun.AnnouncesWaits t' :=
  run_keeps (motive := begun.AnnouncesWaits) (fun _ _ _ _ _ h hs => h.step hs) h hrun

/-- An owner that attempts to listen waits no more, and waits again only with an announcement. -/
theorem attemptsOnce (t : Tunnel) (now : ℕ) : t.AttemptsOnce now := by
  intro more t' again t'' hrun hagain
  obtain ⟨bound, hwake, hrun⟩ := run_cons_eq_some.1 hrun
  have hbound : t.AnnouncesWaits bound := by
    cases stepped_of_step hwake
    exact ⟨[], (List.append_nil _).symm, nofun⟩
  obtain ⟨news, hnews, hwaits⟩ := hbound.run hrun
  cases stepped_of_step hagain with
  | wake howner =>
    obtain ⟨delay, hmem⟩ := hwaits _ howner
    exact ⟨news, delay, hnews, hmem⟩

namespace MayAttempt

/-- What the tunnel does by itself at once leaves the attempt possible. -/
theorem of_step (hstep : t.step now action = some t') (h : t'.MayAttempt now deadline) :
    t.MayAttempt now deadline := by
  obtain ⟨more, t'', horder, hprompt, hrun⟩ := h
  exact ⟨(now, action) :: more, t'', ⟨le_rfl, horder⟩, hprompt.cons (t.mayPause_self now) hstep,
    run_cons_eq_some.2 ⟨t', hstep, hrun⟩⟩

/-- When nothing is asked any more, the owner waits for its deadline. -/
theorem of_desk (howner : t.owner = .retrying deadline) (hheld : t.isShut = false)
    (hle : now ≤ deadline) (hdesk : t.desk = []) : t.MayAttempt now deadline := by
  have hwake : t.step deadline .wake = some { t with owner := .binding } := by
    simp [step, Tunnel.wake, howner]
  exact ⟨[], _, ⟨hle, le_rfl⟩,
    .cons (mayPause_of_desk howner hheld hdesk le_rfl) hwake (mayPause_self _ _),
    run_cons_eq_some.2 ⟨_, hwake, rfl⟩⟩

/-- Requests that are made before are served at once. -/
theorem of_requests {requests : List Update} (hrequests : t.requests = requests)
    (hslot : t.update = none) (howner : t.owner = .retrying deadline) (hheld : t.isShut = false)
    (hle : now ≤ deadline) : t.MayAttempt now deadline := by
  induction requests generalizing t with
  | nil => exact of_desk howner hheld hle (by simp [desk, hslot, hrequests])
  | cons u rest ih =>
    -- the oldest request is handed over and takes effect
    have hhand : t.step now .handUpdate = some { t with update := some u, requests := rest } := by
      simp [step, Tunnel.handUpdate, hslot, hrequests]
    have htake : Tunnel.step { t with update := some u, requests := rest } now .takeUpdate =
        some (Tunnel.apply { t with update := some u, requests := rest } now u) := by
      simp [step, Tunnel.takeUpdate, howner]
    exact of_step hhand (of_step htake (ih rfl rfl howner hheld))

end MayAttempt

/-- An owner that waits can attempt to listen at its deadline, whatever was asked for. -/
theorem mayAttempt (howner : t.owner = .retrying deadline) (hheld : t.isShut = false)
    (hle : now ≤ deadline) : t.MayAttempt now deadline := by
  cases hslot : t.update with
  | none => exact .of_requests rfl hslot howner hheld hle
  | some u =>
    have htake : t.step now .takeUpdate = some (t.apply now u) := by
      simp [step, Tunnel.takeUpdate, howner, hslot]
    exact .of_step htake (.of_requests rfl rfl howner hheld hle)

/-- An owner that leaves attempts nothing any more. -/
theorem ne_wake_of_isLeaving {actions : Schedule Action} (h : t.owner.isLeaving)
    (hrun : t.run actions = some t') : ∀ x ∈ actions, x.2 ≠ .wake :=
  forall_mem_of_run (motive := fun t => t.owner.isLeaving) (fun _ _ _ _ h hs => hs.isLeaving h) h
    hrun

/-- Nobody asks for the end of a tunnel that is shut. -/
theorem asksEnd_eq_false_of_isShut {actions : Schedule Action} (h : t.isShut)
    (hrun : t.run actions = some t') : ∀ x ∈ actions, x.2.asksEnd = false :=
  forall_mem_of_run (motive := fun t => t.isShut)
    (fun _ _ _ _ h hs => ⟨hs.stays_shut h, hs.asksEnd_eq_false h⟩) h hrun

namespace Waits

/-- A wait ends with what ends it. -/
theorem ends {rest : Schedule Action} {last : ℕ} (h : Waits deadline begun now diary t)
    (hrun : t.run rest = some t')
    (hrest : now = last ∧ rest = [] ∨
      ∃ action after, rest = (now, action) :: after ∧ action.endsWait) :
    Ends deadline t now last rest := by
  obtain ⟨hlast, rfl⟩ | ⟨action, after, rfl, hends⟩ := hrest
  · exact .goesOn hlast fun hheld => mayAttempt h.owner hheld h.le
  · obtain ⟨next, hnext, hafter⟩ := run_cons_eq_some.1 hrun
    cases stepped_of_step hnext with
    | wake howner hdue =>
      rw [h.owner] at howner
      cases howner
      exact .attempt (Nat.le_antisymm h.le hdue) (t.attemptsOnce now)
    | heed _ hshut => exact .calledOff hshut (ne_wake_of_isLeaving rfl hafter)
    | _ => cases hends

/-- A wait lasts until something ends it. -/
theorem run {actions : Schedule Action} {last : ℕ}
    (h : Waits deadline begun since (begun.opening since) begun) (hbooks : begun.Books)
    (horder : Schedule.InOrder since actions last) (hprompt : begun.IsPrompt since actions last)
    (hrun : begun.run actions = some t') :
    ∃ now during rest t, actions = during ++ rest ∧ (∀ x ∈ during, x.2.endsWait = false) ∧
      begun.run during = some t ∧ t.run rest = some t' ∧
      Waits deadline begun now (begun.diary since during) t ∧ Ends deadline t now last rest := by
  rw [run_eq] at hrun
  have hkeeps (diary : Diary) (t : Tunnel) (now : ℕ) (action : Action) (t' : Tunnel)
      (hends : action.endsWait = false) (h : t.Books ∧ Waits deadline begun now diary t)
      (hs : t.step now action = some t') :
      t'.Books ∧ Waits deadline begun now (diary ++ t.entries now action) t' :=
    ⟨h.1.step (stepped_of_step hs), h.2.step h.1 (stepped_of_step hs) hends⟩
  obtain ⟨now, during, rest, t, hsplit, hduring, hrun', hrest, ⟨-, hwaits⟩, hend⟩ :=
    Schedule.journal_keeps_until (fun now diary t => t.Books ∧ Waits deadline begun now diary t)
      (fun _ _ _ _ hle hpause h => ⟨h.1, h.2.pause hle hpause⟩) hkeeps horder hprompt ⟨hbooks, h⟩
      hrun
  rw [← run_eq] at hrun' hrest
  exact ⟨now, during, rest, t, hsplit, hduring, hrun', hrest, hwaits, hwaits.ends hrest hend⟩

end Waits

/-! ## The user asks for the end -/

/-- The end is asked for at the instant `s` of a wait that begins at `since`, or was before. -/
def EndAsked (t : Tunnel) (since : ℕ) (actions : Schedule Action) (s : ℕ) : Prop :=
  (t.isShut ∧ s = since) ∨ ∃ action, (s, action) ∈ actions ∧ action.asksEnd

theorem ended_mem_entries (s : ℕ) (t : Tunnel) (now : ℕ) (action : Action) :
    (s, .ended) ∈ t.entries now action ↔ s = now ∧ action.asksEnd := by
  cases action <;> simp [entries, Action.asksEnd]

/-- The diary of a run tells when the end was asked for. -/
theorem ended_mem_diary {actions : Schedule Action} {s : ℕ} (hrun : t.run actions = some t') :
    (s, .ended) ∈ t.diary since actions ↔ t.EndAsked since actions s := by
  rw [run_eq] at hrun
  rw [diary, List.mem_append, ended_mem_opening, EndAsked,
    Schedule.mem_journal_iff (ended_mem_entries s) hrun]
  simp

theorem endAsked_append {during rest : Schedule Action} {s : ℕ} :
    t.EndAsked since (during ++ rest) s ↔
      t.EndAsked since during s ∨ ∃ action, (s, action) ∈ rest ∧ action.asksEnd := by
  simp [EndAsked, or_and_right, exists_or, or_assoc]

namespace Ends

variable {during rest : Schedule Action} {last : ℕ}

/-- A wait whose end is asked for only after its deadline ends with an attempt to listen. -/
theorem attempts (h : Ends deadline t now last rest)
    (hwaits : Waits deadline begun now (begun.diary since during) t)
    (hduring : begun.run during = some t)
    (hlater : ∀ s, begun.EndAsked since during s → deadline < s) (hlast : deadline < last) :
    (∃ after, rest = (deadline, .wake) :: after) ∧ t.AttemptsOnce deadline := by
  cases h with
  | goesOn hnow =>
    subst hnow
    exact absurd hwaits.le (Nat.not_le.2 hlast)
  | attempt hdeadline honce =>
    subst hdeadline
    exact ⟨⟨_, rfl⟩, honce⟩
  | calledOff hshut =>
    -- the end was asked for now, which is not after the deadline
    obtain ⟨s, hs⟩ := hwaits.shut.1 hshut
    have hlt := hlater s ((ended_mem_diary hduring).1 hs)
    rw [hwaits.ended s hs] at hlt
    exact absurd hwaits.le (Nat.not_le.2 hlt)

/-- A wait whose end is asked for before its deadline is called off at once. -/
theorem heeds {s : ℕ} (h : Ends deadline t now last rest)
    (hwaits : Waits deadline begun now (begun.diary since during) t)
    (hduring : begun.run during = some t) (hrest : t.run rest = some t')
    (horder : Schedule.InOrder since (during ++ rest) last)
    (hasked : begun.EndAsked since (during ++ rest) s) (hdeadline : s < deadline)
    (hlast : s < last) :
    (∃ after, rest = (s, .heed) :: after) ∧ ∀ x ∈ rest, x.2 ≠ .wake := by
  have hnow (hs : begun.EndAsked since during s) : s = now :=
    hwaits.ended s ((ended_mem_diary hduring).2 hs)
  obtain hearlier | ⟨action, hmem, hasks⟩ := endAsked_append.1 hasked
  · cases h with
    | goesOn hlast' => exact absurd ((hnow hearlier).trans hlast') hlast.ne
    | attempt hdeadline' => exact absurd ((hnow hearlier).trans hdeadline') hdeadline.ne
    | calledOff hshut hnever =>
      rw [hnow hearlier]
      exact ⟨⟨_, rfl⟩, List.forall_mem_cons.2 ⟨nofun, hnever⟩⟩
  · cases h with
    | goesOn => cases hmem
    | attempt hdeadline' =>
      -- what follows the attempt is not before the deadline
      obtain heq | hafter := List.mem_cons.1 hmem
      · cases heq
        cases hasks
      · have hle := horder.of_append.le_of_mem hafter
        exact absurd hdeadline (Nat.not_lt.2 (hdeadline' ▸ hle))
    | calledOff hshut =>
      have hnot := asksEnd_eq_false_of_isShut hshut hrest _ hmem
      rw [hasks] at hnot
      cases hnot

end Ends

/-- Whatever is asked for while the owner waits to listen again, the deadline stands: it is the first
whole millisecond that is not before the end of the delay of the plan exactly when this end is not
beyond the last tick of the timers. Limits take effect at once, in the order in which they are asked
for, with no active connection. If the end is asked for only later, the owner attempts to listen
exactly at the deadline, once. If it is asked for earlier, the wait is over at that moment, and the
owner never attempts to listen again. -/
theorem retry_of_run {plan : TunnelPlan} {listener : Listener} {first last : ℕ}
    {before actions : List (ℕ × Action)}
    (hbefore : (start plan first listener).run before = some t)
    (hbegin : t.step since action = some begun) (howner : ∀ deadline, t.owner ≠ .retrying deadline)
    (hretrying : begun.owner = .retrying deadline)
    (horder : Schedule.InOrder since actions last) (hprompt : begun.IsPrompt since actions last)
    (hrun : begun.run actions = some t') :
    Timer.Expires since plan.retryInterval deadline ∧
      (since < lastTick →
        (IsLeast {m | grain ∣ m ∧ since + plan.retryInterval.nanos ≤ m} deadline ↔
          since + plan.retryInterval.nanos ≤ lastTick)) ∧
      (∃ now during rest t, actions = during ++ rest ∧ (∀ x ∈ during, x.2.endsWait = false) ∧
        begun.run during = some t ∧ Waits deadline begun now (begun.diary since during) t ∧
        Ends deadline t now last rest) ∧
      ((∀ s, begun.EndAsked since actions s → deadline < s) → deadline < last →
        ∃ during after t, actions = during ++ (deadline, .wake) :: after ∧
          (∀ x ∈ during, x.2.endsWait = false) ∧ begun.run during = some t ∧
          t.AttemptsOnce deadline) ∧
      ∀ s, begun.EndAsked since actions s → s < deadline → s < last →
        (∃ during after, actions = during ++ (s, .heed) :: after) ∧ ∀ x ∈ actions, x.2 ≠ .wake := by
  obtain ⟨hdeadline, hbooks, hwaits⟩ := waits_of_step hbefore hbegin howner hretrying
  obtain ⟨now, during, rest, t, rfl, hduring, hrun', hrest, hwaits, hends⟩ :=
    hwaits.run hbooks horder hprompt hrun
  subst hdeadline
  refine ⟨Timer.expires_deadline since plan.retryInterval,
    fun hsince => Timer.isLeast_deadline_iff hsince plan.retryInterval,
    ⟨now, during, rest, t, rfl, hduring, hrun', hwaits, hends⟩, fun hlater hlast => ?_,
    fun s hasked hs hlast => ?_⟩
  · obtain ⟨⟨after, rfl⟩, honce⟩ := hends.attempts hwaits hrun'
      (fun s hs => hlater s (endAsked_append.2 (.inl hs))) hlast
    exact ⟨during, after, t, rfl, hduring, hrun', honce⟩
  · obtain ⟨⟨after, rfl⟩, hnever⟩ := hends.heeds hwaits hrun' hrest horder hasked hs hlast
    refine ⟨⟨during, after, rfl⟩, List.forall_mem_append.2 ⟨fun x hx heq => ?_, hnever⟩⟩
    have hnot := hduring x hx
    rw [heq] at hnot
    cases hnot

/-- A tunnel whose first listener fails after 1.3 milliseconds. -/
def listenerFails : List (ℕ × Action) :=
  [(0, .openFirst), (1300000, .arrive (.error .writeZero)), (1300000, .handArrival)]

/-- The tunnel after that, for which 5 milliseconds are the delay. -/
def listenerLost : Tunnel :=
  { ((start ⟨"web", "in", "out", ⟨1000, 500⟩, .ofMillis 5, .ofMillis 3⟩ 0
      (.stable ⟨.v4 127 0 0 1, 80, 0⟩)).serve (some ⟨.v4 127 0 0 1, 80, 0⟩)).loseListener 1300000
        .writeZero with
    acceptor := .ended }

/-- Two calls ask for new limits before the owner attempts to listen again. -/
def updatedTwice : List (ℕ × Action) :=
  [(2000000, .requestUpdate ⟨2000, 900⟩), (2000000, .handUpdate), (2000000, .takeUpdate),
    (4000000, .requestUpdate ⟨3000, 700⟩), (4000000, .handUpdate), (4000000, .takeUpdate),
    (7000000, .wake)]

theorem retry_of_updatedTwice :
    ∃ t t', (start ⟨"web", "in", "out", ⟨1000, 500⟩, .ofMillis 5, .ofMillis 3⟩ 0
          (.stable ⟨.v4 127 0 0 1, 80, 0⟩)).run listenerFails = some t ∧
      t.step 1300000 .takeArrival = some listenerLost ∧
      listenerLost.IsPrompt 1300000 updatedTwice 8000000 ∧
      listenerLost.run updatedTwice = some t' ∧ t'.answers = [(0, none), (1, none)] ∧
      IsLeast {m | grain ∣ m ∧ 1300000 + (Duration.ofMillis 5).nanos ≤ m} 7000000 ∧
      ∃ during after t, updatedTwice = during ++ (7000000, .wake) :: after ∧
        (∀ x ∈ during, x.2.endsWait = false) ∧ listenerLost.run during = some t ∧
        t.AttemptsOnce 7000000 := by
  have hbefore : (start ⟨"web", "in", "out", ⟨1000, 500⟩, .ofMillis 5, .ofMillis 3⟩ 0
      (.stable ⟨.v4 127 0 0 1, 80, 0⟩)).run listenerFails = some _ := rfl
  have hprompt : listenerLost.IsPrompt 1300000 updatedTwice 8000000 :=
    -- the owner waits for one call, for the other one, and for its deadline
    .cons (mayPause_of_desk rfl rfl rfl (by decide)) rfl <| .cons (mayPause_self _ _) rfl <|
    .cons (mayPause_self _ _) rfl <| .cons (mayPause_of_desk rfl rfl rfl (by decide)) rfl <|
    .cons (mayPause_self _ _) rfl <| .cons (mayPause_self _ _) rfl <|
    .cons (mayPause_of_desk rfl rfl rfl (by decide)) rfl <| mayPause_of_binding rfl rfl
  have hretrying : listenerLost.owner = .retrying 7000000 := rfl
  obtain ⟨-, hexact, -, hattempt, -⟩ :=
    retry_of_run hbefore (rfl : Tunnel.step _ 1300000 .takeArrival = some listenerLost) nofun
      hretrying (by simp [Schedule.InOrder, updatedTwice]) hprompt rfl
  refine ⟨_, _, hbefore, rfl, hprompt, rfl, rfl, (hexact (by decide)).2 (by decide),
    hattempt (fun s hs => ?_) (by decide)⟩
  -- nobody asks for the end
  obtain ⟨hshut, -⟩ | ⟨action, hmem, hasks⟩ := hs
  · cases hshut
  · have hnone : ∀ x ∈ updatedTwice, x.2.asksEnd = false := by decide
    rw [hnone _ hmem] at hasks
    cases hasks

/-- A tunnel with the longest delay that a configuration can ask for. -/
def patientPlan : TunnelPlan :=
  ⟨"web", "in", "out", ⟨1000, 500⟩, .ofSeconds 18446744073709551615, .ofMillis 3⟩

/-- The clock cannot hold the end of such a delay: the attempt to listen comes after thirty
years. -/
theorem attempt_before_delay :
    ∃ t begun t', (start patientPlan 0 (.stable ⟨.v4 127 0 0 1, 80, 0⟩)).run
        [(0, .openFirst), (0, .arrive (.error .writeZero)), (0, .handArrival)] = some t ∧
      t.step 0 .takeArrival = some begun ∧
      begun.IsPrompt 0 [(946080000000000000, .wake)] 946080000000000000 ∧
      begun.run [(946080000000000000, .wake)] = some t' ∧
      ¬ IsLeast {m | grain ∣ m ∧ 0 + patientPlan.retryInterval.nanos ≤ m} 946080000000000000 :=
  ⟨_, _, _, rfl, rfl, .cons (mayPause_of_desk rfl rfl rfl (by decide)) rfl (mayPause_self _ _), rfl,
    fun h => absurd h.1.2 (by decide)⟩

end Sluice.Tunnel
