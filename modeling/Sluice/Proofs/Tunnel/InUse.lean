import Sluice.Proofs.Tunnel.Chronicle

/-!
# Tunnels in use

As long as its user asks for no end, a tunnel goes on, whatever becomes of its listeners and its
connections, and it puts the limits into force that its user asks for.

* `Tunnel.InUse waiting`: the tunnel goes on, and the requests `waiting` are not answered yet;
* `Tunnel.Stepped.inUse`: what a tunnel in use does by itself;
* `Tunnel.Updating limits call`: the call for the limits either waits or has succeeded.
-/

namespace Sluice.Tunnel

/-- Nobody has asked for the end of the tunnel, and the given requests wait. -/
structure InUse (t : Tunnel) (waiting : List Update) : Prop where
  /-- The user holds the tunnel. -/
  held : t.handle = .held
  /-- The owner has not announced the end. -/
  working : t.owner.isLeaving = false
  /-- The user sees that the tunnel goes on. -/
  phase : t.phase ≠ .stopped
  /-- The requests that are not answered yet. -/
  requests : t.update.toList ++ t.requests = waiting
  /-- What waits was called for. -/
  waiting_lt : ∀ u ∈ waiting, ∀ call, u.call = some call → call < t.calls
  /-- What is answered was called for. -/
  answers_lt : ∀ call ∈ t.answers.map (·.1), call < t.calls

/-- The call for the limits either waits or has succeeded. -/
inductive Updating (t : Tunnel) (limits : Limits) (call : ℕ) : Prop
  | waiting (h : t.InUse [⟨some call, limits⟩]) (hopen : call ∉ t.answers.map (·.1))
  | answered (h : t.InUse []) (hlimits : t.limits = limits)
      (hanswer : t.answers.lookup call = some none)

variable {t t' : Tunnel} {now : ℕ} {action : Action} {waiting : List Update} {limits : Limits}
  {call : ℕ}

theorem InUse.isShut_eq (h : t.InUse waiting) : t.isShut = false := by
  simp [isShut, h.held]

theorem inUse_start (plan : TunnelPlan) (now : ℕ) (listener : Listener) :
    (start plan now listener).InUse [] :=
  ⟨rfl, rfl, by simp [start], rfl, by simp, by simp [start]⟩

/-- Unless the end begins, the owner goes on. -/
theorem Turn.goes_on {owner owner' : Owner} {phase phase' : Phase} {news : List Event}
    (h : Turn action owner phase news owner' phase') (haction : action ≠ .heed)
    (howner : owner.isLeaving = false) (hphase : phase ≠ .stopped) :
    owner'.isLeaving = false ∧ phase' ≠ .stopped := by
  cases h with
  | aside | takeUpdate => exact ⟨howner, hphase⟩
  | announce | openConnection | failDial | takeNotice | wake => exact ⟨rfl, hphase⟩
  | @openFirst _ inService => cases inService <;> exact ⟨rfl, by simp [hphase]⟩
  | @bound _ listener =>
    refine ⟨rfl, ?_⟩
    cases listener.inService <;> simp [hphase]
  | loseListener | failBind => exact ⟨rfl, by simp⟩
  | heed => exact absurd rfl haction
  | finish | stop => cases howner

/-- By itself a tunnel in use either goes on as it is, with the same requests and limits, or puts
the limits of the oldest request into force and answers its call. -/
theorem Stepped.inUse (hs : t.Stepped now action t') (haction : action.isOfUser = false)
    (h : t.InUse waiting) :
    (t'.InUse waiting ∧ t'.limits = t.limits ∧ t'.answers = t.answers) ∨
      ∃ u rest, waiting = u :: rest ∧ t'.InUse rest ∧ t'.limits = u.limits ∧
        t'.answers = t.answers ++ (u.call.map fun call => (call, none)).toList := by
  -- the owner hears of the end only from the user
  have hshut := h.isShut_eq
  have hheed : action ≠ .heed := by
    rintro rfl
    cases hs with
    | heed _ hshut' => simp [hshut] at hshut'
  -- owner and phase are settled by the turn, and what waits by the cases below
  obtain ⟨news, -, hturn⟩ := hs.turn
  obtain ⟨howner, hphase⟩ := hturn.goes_on hheed h.working h.phase
  cases hs with
  | refuseUpdate | requestUpdate | giveUp | shutDown | drop => cases haction
  | heed => exact absurd rfl hheed
  | finish hclosing =>
    rw [h.held] at hclosing
    cases hclosing
  | stop hending =>
    have hworking := h.working
    rw [hending] at hworking
    cases hworking
  | handUpdate hslot hrequests =>
    refine .inl ⟨⟨h.held, howner, hphase, ?_, h.waiting_lt, h.answers_lt⟩, rfl, rfl⟩
    rw [← h.requests, hslot, hrequests]
    rfl
  | @takeUpdate u _ hupdate =>
    have hwaiting := h.requests
    rw [hupdate, Option.toList_some, List.singleton_append] at hwaiting
    obtain ⟨hlt, hrest⟩ := List.forall_mem_cons.1 (hwaiting ▸ h.waiting_lt)
    refine .inr ⟨u, t.requests, hwaiting.symm,
      ⟨h.held, howner, hphase, rfl, hrest, ?_⟩, rfl, rfl⟩
    rw [apply, List.map_append]
    refine List.forall_mem_append.2 ⟨h.answers_lt, ?_⟩
    simpa using hlt
  | _ => exact .inl ⟨⟨h.held, howner, hphase, h.requests, h.waiting_lt, h.answers_lt⟩, rfl, rfl⟩

/-- A tunnel in use without requests keeps its limits. -/
theorem Stepped.inUse_nil (hs : t.Stepped now action t') (haction : action.isOfUser = false)
    (h : t.InUse []) : t'.InUse [] ∧ t'.limits = t.limits := by
  rcases hs.inUse haction h with ⟨h', hlimits, -⟩ | ⟨u, rest, heq, -⟩
  · exact ⟨h', hlimits⟩
  · cases heq

/-! ## A call for new limits -/

/-- A call begins to wait. -/
theorem InUse.requestUpdate (h : t.InUse []) (limits : Limits) :
    ∃ t', t.requestUpdate limits = some t' ∧ t'.plan = t.plan ∧ t'.Updating limits t.calls := by
  have hworking : t.owner ≠ .stopped := by
    intro hstopped
    have hworking := h.working
    rw [hstopped] at hworking
    cases hworking
  have hrequest : t.requestUpdate limits =
      some { t with calls := t.calls + 1, requests := t.requests ++ [⟨some t.calls, limits⟩] } := by
    rw [Tunnel.requestUpdate, h.isShut_eq, if_neg Bool.false_ne_true, if_neg hworking]
  refine ⟨_, hrequest, rfl, .waiting ⟨h.held, h.working, h.phase, ?_, ?_, ?_⟩ ?_⟩
  · rw [← List.append_assoc, h.requests, List.nil_append]
  · simp
  · exact fun call hcall => (h.answers_lt call hcall).trans t.calls.lt_succ_self
  · exact fun hcall => (h.answers_lt _ hcall).false

/-- By itself a tunnel goes on with the call, or answers it. -/
theorem Updating.step (h : t.Updating limits call) (hs : t.Stepped now action t')
    (haction : action.isOfUser = false) : t'.Updating limits call := by
  cases h with
  | waiting h hopen =>
    rcases hs.inUse haction h with ⟨h', -, hanswers⟩ | ⟨u, rest, heq, h', hlimits, hanswers⟩
    · exact .waiting h' (by rwa [hanswers])
    · cases heq
      refine .answered h' hlimits ?_
      -- there is no older answer that the lookup could find
      rw [hanswers, List.lookup_append, List.lookup_eq_none_iff.2]
      · simp
      · intro answer hanswer
        simp only [bne_iff_ne, ne_eq]
        rintro rfl
        exact hopen (List.mem_map_of_mem hanswer)
  | answered h hlimits hanswer =>
    rcases hs.inUse haction h with ⟨h', hlimits', hanswers⟩ | ⟨u, rest, heq, -⟩
    · exact .answered h' (hlimits'.trans hlimits) (by rwa [hanswers])
    · cases heq

/-- The answer to the call is that its limits are in force. -/
theorem Updating.eq_none {error : Option TunnelError} (h : t.Updating limits call)
    (hanswer : t.answers.lookup call = some error) :
    error = none ∧ t.InUse [] ∧ t.limits = limits := by
  cases h with
  | waiting _ hopen =>
    obtain ⟨before, after, heq, -⟩ := List.lookup_eq_some_iff.1 hanswer
    simp [heq] at hopen
  | answered h hlimits hgranted =>
    rw [hgranted] at hanswer
    cases hanswer
    exact ⟨rfl, h, hlimits⟩

end Sluice.Tunnel
