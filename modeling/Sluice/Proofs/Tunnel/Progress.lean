import Sluice.Proofs.Tunnel.InUse
import Sluice.Proofs.Tunnel.Shutdown

/-!
# What a tunnel can come to by itself

Whoever waits for a tunnel waits for the end that was asked for, or for the answer to a call for new
limits. The tunnel can come to both by itself: no client, no remote and no byte is needed, and
attempts to listen may end with anything.

* `Tunnel.Attains goal now t`: the tunnel can come to the goal by itself, and nobody can prevent it by
  the end of an attempt to listen;
* `Tunnel.Sound.attains_closed`: a tunnel that is shut down can come to its end;
* `Tunnel.Updating.attains_answer`: a tunnel in use can come to the answer to a call.
-/

namespace Sluice.Tunnel

open Net (IoFault)

/-- The action is the end of an attempt to listen. -/
def Action.isAttempt : Action → Bool
  | .bound _ => true
  | _ => false

/-- From the instant `now` on the tunnel can come to the goal by what it does itself, whatever its
attempts to listen end with. -/
inductive Attains (goal : Tunnel → Prop) : ℕ → Tunnel → Prop
  | here {now : ℕ} {t : Tunnel} (hgoal : goal t) : Attains goal now t
  | step {now later : ℕ} {t t' : Tunnel} {action : Action} (hle : now ≤ later)
      (hstep : t.step later action = some t') (hown : action.isOwn)
      (hready : t.IsReady later action) (hattempt : action.isAttempt = false)
      (hrest : Attains goal later t') : Attains goal now t
  | attempt {now : ℕ} {t : Tunnel} {next : Except IoFault Listener → Tunnel}
      (hstep : ∀ result, t.step now (.bound result) = some (next result))
      (hrest : ∀ result, Attains goal now (next result)) : Attains goal now t

variable {t t' : Tunnel} {now : ℕ} {action : Action} {limits : Limits} {call : ℕ} {u : Update}

/-- An attempt to listen ends in service or with another wait, and changes nothing that the user has
asked for. -/
theorem exists_bound (howner : t.owner = .binding) (now : ℕ) (result : Except IoFault Listener) :
    ∃ t', t.step now (.bound result) = some t' ∧
      (t'.owner = .serving ∨ ∃ deadline, t'.owner = .retrying deadline) ∧
      t'.handle = t.handle ∧ t'.update = t.update := by
  cases result <;> simp [step, Tunnel.bound, howner, serve, awaitRetry, emit]

/-- The owner can come to serve or to wait by itself, and takes what its user asks for then. What it
keeps meanwhile, `P`, it has at last. -/
theorem attains_of_attentive {goal P : Tunnel → Prop} (h : P t)
    (hP : ∀ t now action t', P t → action.isOfUser = false → t.Stepped now action t' → P t')
    (hworking : t.owner.isLeaving = false) (now : ℕ)
    (hrest : ∀ later t', P t' → (t'.owner = .serving ∨ ∃ deadline, t'.owner = .retrying deadline) →
      t'.handle = t.handle → t'.update = t.update → Attains goal later t') :
    Attains goal now t := by
  cases howner : t.owner with
  | opening inService =>
    have hstep : t.step now .openFirst = some (t.serve inService) := by
      simp [step, Tunnel.openFirst, howner]
    have hnext := hP _ _ _ _ h rfl (stepped_of_step hstep)
    exact .step le_rfl hstep rfl trivial rfl (hrest _ _ hnext (.inl rfl) rfl rfl)
  | serving => exact hrest now t h (.inl howner) rfl rfl
  | retrying deadline => exact hrest now t h (.inr ⟨deadline, howner⟩) rfl rfl
  | dialing id deadline =>
    -- the time for the remote runs out at last
    have hstep : t.step (max now deadline) .timeOutDial =
        some (t.failDial id (.timeout t.plan.connectTimeout)) := by
      simp [step, Tunnel.timeOutDial, howner]
    have hnext := hP _ _ _ _ h rfl (stepped_of_step hstep)
    exact .step (le_max_left ..) hstep rfl trivial rfl (hrest _ _ hnext (.inl rfl) rfl rfl)
  | binding =>
    choose next hstep hnext hhandle hupdate using t.exists_bound howner now
    refine .attempt hstep fun result => ?_
    exact hrest _ _ (hP _ _ _ _ h rfl (stepped_of_step (hstep result))) (hnext result)
      (hhandle result) (hupdate result)
  | ending | stopped =>
    rw [howner] at hworking
    cases hworking

/-! ## The end -/

/-- An owner that is gone stays so. -/
theorem Stepped.owner_stopped (hs : t.Stepped now action t') (howner : t.owner = .stopped) :
    t'.owner = .stopped := by
  obtain ⟨news, -, hturn⟩ := hs.turn
  rw [howner] at hturn
  generalize t.phase = phase, t'.phase = phase', t'.owner = owner' at hturn ⊢
  cases hturn with
  | takeUpdate howner => rcases howner with howner | ⟨_, howner⟩ <;> cases howner
  | heed howner => rcases howner with howner | ⟨_, howner⟩ <;> cases howner
  | _ => rfl

namespace Sound

/-- Without an owner the tunnel comes to its end. Everything that it does takes off effort. -/
theorem attains_closed_of_stopped (h : t.Sound) (howner : t.owner = .stopped)
    (hshut : t.handle = .closing ∨ t.handle = .closed) (now : ℕ) :
    Attains (·.handle = .closed) now t := by
  induction hn : t.effort now using Nat.strong_induction_on generalizing t with
  | _ n ih =>
    rcases hshut with hclosing | hclosed
    · obtain ⟨t', action, hown, hready, hstep⟩ := exists_acts_of_stopped h howner hclosing now
      have hs := stepped_of_step hstep
      have hattempt : action.isAttempt = false := by
        cases hs with
        | bound hbinding | failBind hbinding =>
          rw [howner] at hbinding
          cases hbinding
        | _ => rfl
      have hless := hs.effort_lt h.books (absurd howner) hown hready
      refine .step le_rfl hstep hown hready hattempt ?_
      exact ih _ (hn ▸ hless) (h.step hs) (hs.owner_stopped howner)
        (hs.handle_closing (.inl hclosing)) rfl
    · exact .here hclosed

/-- An owner that clears up leaves. -/
theorem attains_closed_of_ending (h : t.Sound) (howner : t.owner = .ending)
    (hclosing : t.handle = .closing) (now : ℕ) : Attains (·.handle = .closed) now t := by
  have hstep : ∃ t', t.step now .stop = some t' ∧ t'.owner = .stopped ∧ t'.handle = t.handle := by
    simp [Tunnel.step, Tunnel.stop, howner, clear]
  obtain ⟨t', hstep, howner', hhandle⟩ := hstep
  refine .step le_rfl hstep rfl trivial rfl ?_
  exact (h.step (stepped_of_step hstep)).attains_closed_of_stopped howner'
    (.inl (hhandle.trans hclosing)) now

/-- An owner that serves or waits heeds the wish of its user. -/
theorem attains_closed_of_attentive (h : t.Sound)
    (howner : t.owner = .serving ∨ ∃ deadline, t.owner = .retrying deadline)
    (hclosing : t.handle = .closing) (now : ℕ) : Attains (·.handle = .closed) now t := by
  have hshut : t.isShut := by simp [isShut, hclosing]
  have hstep : ∃ t', t.step now .heed = some t' ∧ t'.owner = .ending ∧ t'.handle = t.handle := by
    rcases howner with howner | ⟨deadline, howner⟩ <;>
      simp [Tunnel.step, Tunnel.heed, howner, hshut, emit]
  obtain ⟨t', hstep, howner', hhandle⟩ := hstep
  refine .step le_rfl hstep rfl trivial rfl ?_
  exact (h.step (stepped_of_step hstep)).attains_closed_of_ending howner'
    (hhandle.trans hclosing) now

/-- A tunnel that is shut down can come to its end by itself, whatever it is busy with. -/
theorem attains_closed (h : t.Sound) (hshut : t.handle = .closing ∨ t.handle = .closed) (now : ℕ) :
    Attains (·.handle = .closed) now t := by
  rcases hshut with hclosing | hclosed
  · by_cases hworking : t.owner.isLeaving = false
    · refine attains_of_attentive h (fun _ _ _ _ h _ hs => h.step hs) hworking now ?_
      exact fun later t' h' howner' hhandle _ =>
        h'.attains_closed_of_attentive howner' (hhandle.trans hclosing) later
    · cases howner : t.owner with
      | ending => exact h.attains_closed_of_ending howner hclosing now
      | stopped => exact h.attains_closed_of_stopped howner (.inl hclosing) now
      | _ => simp [howner, Owner.isLeaving] at hworking
  · exact .here hclosed

end Sound

/-! ## New limits -/

namespace Updating

/-- A request that is handed over is the only one. -/
theorem requests_eq_nil (h : t.Updating limits call) (hupdate : t.update = some u) :
    t.requests = [] := by
  cases h with
  | waiting h | answered h =>
    have hrequests := h.requests
    rw [hupdate] at hrequests
    simp_all

/-- An owner that serves or waits takes the request. -/
theorem attains_answer_of_attentive (h : t.Updating limits call)
    (howner : t.owner = .serving ∨ ∃ deadline, t.owner = .retrying deadline)
    (hupdate : t.update = some u) (now : ℕ) :
    Attains (fun t => (t.answers.lookup call).isSome) now t := by
  have hstep : t.step now .takeUpdate = some (t.apply now u) := by
    rcases howner with howner | ⟨deadline, howner⟩ <;>
      simp [Tunnel.step, Tunnel.takeUpdate, howner, hupdate]
  refine .step le_rfl hstep rfl trivial rfl (.here ?_)
  cases h.step (stepped_of_step hstep) rfl with
  | waiting h' =>
    -- none is left to wait
    have hwaiting := h'.requests
    simp [apply, h.requests_eq_nil hupdate] at hwaiting
  | answered _ _ hanswer => rw [hanswer, Option.isSome_some]

/-- A request that is handed over is taken as soon as the owner serves or waits. -/
theorem attains_answer_of_handed (h : t.Updating limits call) (hupdate : t.update = some u)
    (now : ℕ) : Attains (fun t => (t.answers.lookup call).isSome) now t := by
  have hworking : t.owner.isLeaving = false := by
    cases h with
    | waiting h | answered h => exact h.working
  refine attains_of_attentive (P := (·.Updating limits call)) h
    (fun _ _ _ _ h hown hs => h.step hs hown) hworking now ?_
  intro later t' h' howner _ hsame
  exact h'.attains_answer_of_attentive howner (hsame.trans hupdate) later

/-- A tunnel in use can come to the answer to a call by itself. -/
theorem attains_answer (h : t.Updating limits call) (now : ℕ) :
    Attains (fun t => (t.answers.lookup call).isSome) now t := by
  cases hupdate : t.update with
  | some u => exact h.attains_answer_of_handed hupdate now
  | none =>
    cases h with
    | answered _ _ hanswer => exact .here (by rw [hanswer, Option.isSome_some])
    | waiting hinUse hopen =>
      have hrequests := hinUse.requests
      rw [hupdate, Option.toList_none, List.nil_append] at hrequests
      have hstep : t.step now .handUpdate =
          some { t with update := some ⟨some call, limits⟩, requests := [] } := by
        simp [Tunnel.step, Tunnel.handUpdate, hupdate, hrequests]
      have hnext := (Updating.waiting hinUse hopen).step (stepped_of_step hstep) rfl
      exact .step le_rfl hstep rfl trivial rfl (hnext.attains_answer_of_handed rfl now)

end Updating

end Sluice.Tunnel
