import Sluice.Proofs.Tunnel.InUse
import Sluice.Proofs.Tunnel.Limits
import Sluice.Proofs.Tunnel.Shutdown

/-!
# A tunnel that is left alone but for its limits

The user of a tunnel may ask for new limits and nothing else. Then the tunnel goes on with all that it
does by itself, and what is done about the limits changes nothing else of it.

* `Tunnel.SameButLimits t news t'`: of the tunnel `t` only limits changed, and `news` was reported;
* `Tunnel.Kept t own upkeep reports t'`: the tunnel `t` did `own` by itself and became `t'`, while
  `upkeep` was done about its limits, which was reported by `reports`;
* `Tunnel.Kept.events`: what such a tunnel reports about listeners and limits;
* `Tunnel.Attending t limits upkeep reports`: how far the upkeep has come, and `Kept.step` says how it
  goes on.
-/

namespace Sluice

open Event (startedAddress?)
open Net (SocketAddress)

namespace Tunnel

/-- The action is about new limits. -/
def Action.isOfLimits : Action → Bool
  | .requestUpdate _ | .handUpdate | .takeUpdate => true
  | _ => false

/-- The address of the listener with which an attempt to listen ends. -/
def Action.startedAddress? : Action → Option SocketAddress
  | .bound (.ok listener) => some listener.address
  | _ => none

/-- What is done about new limits: the user asks for them, and the tunnel takes them. -/
def upkeep (limits : Limits) : List Action := [.requestUpdate limits, .handUpdate, .takeUpdate]

/-- Of the tunnel `t` only limits changed, which was reported by `news`. -/
structure SameButLimits (t : Tunnel) (news : List Event) (t' : Tunnel) : Prop where
  /-- No connection is closed, and no byte is lost: other limiters are all that connections got. -/
  connections : ∃ f : Connection → Connection, (∀ c, ∃ l, f c = { c with limiter := l }) ∧
    t'.relay.connections = t.relay.connections.map f
  /-- Nothing else was reported. -/
  events : t'.events = t.events ++ news
  /-- Everything else is as it was. -/
  eq : t' =
    { t with
      limits := t'.limits
      update := t'.update
      requests := t'.requests
      calls := t'.calls
      answers := t'.answers
      relay :=
        { t.relay with
          limiter := t'.relay.limiter
          connectionLimit := t'.relay.connectionLimit
          events := t'.relay.events
          connections := t'.relay.connections } }

/-- The tunnel `t` did `own` by itself and became the last one, while `upkeep` was done about its
limits, which was reported by `reports` and changed nothing else. -/
inductive Kept (t : Tunnel) : Schedule Action → List Action → List Event → Tunnel → Prop
  | refl : Kept t [] [] [] t
  | own {own : Schedule Action} {upkeep : List Action} {reports : List Event} {t' t'' : Tunnel}
      {now : ℕ} {action : Action} (h : Kept t own upkeep reports t')
      (huser : action.isOfUser = false) (hlimits : action.isOfLimits = false)
      (hstep : t'.step now action = some t'') :
      Kept t (own ++ [(now, action)]) upkeep reports t''
  | upkeep {own : Schedule Action} {upkeep : List Action} {reports news : List Event}
      {t' t'' : Tunnel} {now : ℕ} {action : Action} (h : Kept t own upkeep reports t')
      (hlimits : action.isOfLimits) (hstep : t'.step now action = some t'')
      (hsame : t'.SameButLimits news t'') :
      Kept t own (upkeep ++ [action]) (reports ++ news) t''

/-- How far the upkeep has come, of which the user has asked for the limits. -/
inductive Attending (t : Tunnel) (limits : Limits) : List Action → List Event → Prop
  | asked {u : Update} (h : t.InUse [u]) (hlimits : u.limits = limits) (hslot : t.update = none) :
      Attending t limits [.requestUpdate limits] []
  | handed {u : Update} (h : t.InUse [u]) (hlimits : u.limits = limits)
      (hslot : t.update = some u) : Attending t limits [.requestUpdate limits, .handUpdate] []
  | done {active : ℕ} (h : t.InUse []) :
      Attending t limits (upkeep limits) [.limitsUpdated limits active]

/-- All is done about limits that the tunnel gets in place of the old ones if they are other ones. -/
def UpkeepDone (old limits : Limits) (done : List Action) (reports : List Event) : Prop :=
  if old = limits then done = [] ∧ reports = []
  else done = upkeep limits ∧ ∃ active, reports = [.limitsUpdated limits active]

variable {t t' t'' : Tunnel} {now : ℕ} {action : Action} {own : Schedule Action}
  {done : List Action} {reports news : List Event} {limits : Limits} {waiting : List Update}

/-! ## What is done about limits -/

/-- A request or its hand-over changes the desk of the user only. -/
theorem sameButLimits_of_eq {update : Option Update} {requests : List Update} {calls : ℕ}
    (heq : t' = { t with update, requests, calls }) : t.SameButLimits [] t' := by
  subst heq
  exact ⟨⟨id, fun c => ⟨c.limiter, rfl⟩, (List.map_id _).symm⟩, (List.append_nil _).symm, rfl⟩

theorem sameButLimits_apply (t : Tunnel) (now : ℕ) (u : Update) :
    t.SameButLimits [.limitsUpdated u.limits t.relay.active.length] (t.apply now u) := by
  obtain ⟨f, hf, heq⟩ := t.apply_eq now u
  rw [heq]
  exact ⟨⟨f, fun c => (hf c).imp fun _ h => h.1, rfl⟩, rfl, rfl⟩

/-- Without requests a tunnel does nothing about its limits. -/
theorem isOfLimits_eq_false (hs : t.Stepped now action t') (h : t.InUse [])
    (huser : action.isOfUser = false) : action.isOfLimits = false := by
  obtain ⟨hupdate, hrequests⟩ := List.append_eq_nil_iff.1 h.requests
  cases hs with
  | refuseUpdate | requestUpdate => cases huser
  | handUpdate _ hrequest => simp [hrequests] at hrequest
  | takeUpdate _ hsome => simp [hsome] at hupdate
  | _ => rfl

/-- What is not about limits leaves the desk of the user as it is. -/
theorem Stepped.desk_eq (hs : t.Stepped now action t') (huser : action.isOfUser = false)
    (hlimits : action.isOfLimits = false) (hworking : t.owner.isLeaving = false) :
    t'.update = t.update ∧ t'.requests = t.requests := by
  cases hs with
  | giveUp => cases huser
  | requestUpdate | handUpdate | takeUpdate => cases hlimits
  | stop hending =>
    rw [hending] at hworking
    cases hworking
  | _ => exact ⟨rfl, rfl⟩

/-- What is not about limits leaves all requests. -/
theorem Stepped.inUse_of_other (hs : t.Stepped now action t') (huser : action.isOfUser = false)
    (hlimits : action.isOfLimits = false) (h : t.InUse waiting) :
    t'.InUse waiting ∧ t'.update = t.update := by
  obtain ⟨hupdate, hrequests⟩ := hs.desk_eq huser hlimits h.working
  refine ⟨?_, hupdate⟩
  rcases hs.inUse huser h with ⟨h', -⟩ | ⟨u, rest, rfl, h', -⟩
  · exact h'
  · -- no request was taken
    have hwaiting := h'.requests
    rw [hupdate, hrequests, h.requests] at hwaiting
    exact absurd hwaiting (List.cons_ne_self u rest)

/-! ## What is reported -/

/-- A listener is started only by an attempt to listen. -/
theorem Turn.filterMap_startedAddress? {owner owner' : Owner} {phase phase' : Phase}
    (h : Turn action owner phase news owner' phase')
    (haction : ∀ listener, action ≠ .bound (.ok listener)) :
    news.filterMap startedAddress? = [] := by
  rw [List.filterMap_eq_nil_iff]
  cases h with
  | aside hnews =>
    intro e he
    have hdirection := hnews e he
    cases e <;> first | rfl | cases hdirection
  | takeNotice hcloses | stop hcloses =>
    intro e he
    obtain ⟨id, rfl⟩ := hcloses e he
    rfl
  | loseListener hcloses =>
    rw [List.forall_mem_cons, List.forall_mem_append]
    refine ⟨rfl, fun e he => ?_, by simp [startedAddress?]⟩
    obtain ⟨id, rfl⟩ := hcloses e he
    rfl
  | bound => exact absurd rfl (haction _)
  | _ => simp [startedAddress?]

theorem Stepped.filterMap_startedAddress? (hs : t.Stepped now action t')
    (hnews : t'.events = t.events ++ news) :
    news.filterMap startedAddress? = action.startedAddress?.toList := by
  obtain ⟨news', hnews', hturn⟩ := hs.turn
  obtain rfl := List.append_cancel_left (hnews.symm.trans hnews')
  by_cases haction : ∃ listener, action = .bound (.ok listener)
  · obtain ⟨listener, rfl⟩ := haction
    cases hs with
    | bound =>
      obtain rfl : [.listenStarted listener.address] = news := List.append_cancel_left hnews
      rfl
  · rw [not_exists] at haction
    rw [hturn.filterMap_startedAddress? haction]
    cases action with
    | bound result =>
      cases result with
      | ok listener => exact absurd rfl (haction listener)
      | error => rfl
    | _ => rfl

/-- A tunnel in use has not reported its end. -/
theorem Sound.going (h : t.Sound) (hinUse : t.InUse waiting) :
    .shutdownStarted ∉ t.events ∧ .stopped ∉ t.events := by
  refine ⟨?_, ?_⟩
  · have hchronicle := h.chronicle
    have hworking := hinUse.working
    generalize t.owner = owner, t.events = events at hchronicle hworking
    cases hchronicle with
    | listening _ _ hnot | waiting _ _ hnot => exact hnot
    | leaving hleaving =>
      rw [hleaving] at hworking
      cases hworking
  · cases h.farewell with
    | unreported _ hnot => exact hnot
    | reported hclosed =>
      rw [hinUse.held] at hclosed
      cases hclosed

theorem Action.startedAddress?_of_isOfLimits (h : action.isOfLimits) :
    action.startedAddress? = none := by
  cases action <;> first | rfl | cases h

namespace Kept

/-- The tunnel starts those listeners only with which its own attempts to listen end, and reports
those limits only that the upkeep is about. -/
theorem events (h : Kept t own done reports t') :
    ∃ news, t'.events = t.events ++ news ∧
      news.filterMap startedAddress? = own.filterMap (·.2.startedAddress?) ∧
      news.filterMap Event.limitsUpdated? = reports.filterMap Event.limitsUpdated? := by
  induction h with
  | refl => exact ⟨[], (List.append_nil _).symm, rfl, rfl⟩
  | @own _ _ _ t' t'' now action _ _ hlimits hstep ih =>
    obtain ⟨news, hnews, hstarted, hupdated⟩ := ih
    have hs := stepped_of_step hstep
    have haction : action ≠ .takeUpdate := by
      rintro rfl
      cases hlimits
    obtain ⟨more, hmore, hturn⟩ := hs.turn
    refine ⟨news ++ more, by rw [hmore, hnews, List.append_assoc], ?_, ?_⟩
    · rw [List.filterMap_append, hstarted, hs.filterMap_startedAddress? hmore,
        List.filterMap_append]
      cases haddress : action.startedAddress? <;> simp [haddress]
    · rw [List.filterMap_append, hupdated, hturn.filterMap_limitsUpdated? haction, List.append_nil]
  | @upkeep own _ reports more t' t'' now action _ hlimits hstep hsame ih =>
    obtain ⟨news, hnews, hstarted, hupdated⟩ := ih
    have hmore := (stepped_of_step hstep).filterMap_startedAddress? hsame.events
    rw [Action.startedAddress?_of_isOfLimits hlimits] at hmore
    refine ⟨news ++ more, by rw [hsame.events, hnews, List.append_assoc], ?_, ?_⟩
    · rw [List.filterMap_append, hstarted, hmore, Option.toList_none, List.append_nil]
    · rw [List.filterMap_append, List.filterMap_append, hupdated]

/-! ## How a tunnel goes on -/

/-- A tunnel without requests goes on by itself. -/
theorem step_of_inUse_nil (h : Kept t own done reports t') (hinUse : t'.InUse [])
    (huser : action.isOfUser = false) (hstep : t'.step now action = some t'') :
    action.isOfLimits = false ∧ Kept t (own ++ [(now, action)]) done reports t'' := by
  have hlimits := isOfLimits_eq_false (stepped_of_step hstep) hinUse huser
  exact ⟨hlimits, h.own huser hlimits hstep⟩

/-- The user asks for limits. -/
theorem ask (h : Kept t own [] [] t') (hinUse : t'.InUse []) (limits : Limits) :
    ∃ t'', t'.requestUpdate limits = some t'' ∧ Kept t own [.requestUpdate limits] [] t'' ∧
      t''.Attending limits [.requestUpdate limits] [] := by
  obtain ⟨t'', hrequest, -, hcall⟩ := hinUse.requestUpdate limits
  have hstep : t'.step 0 (.requestUpdate limits) = some t'' := hrequest
  refine ⟨t'', hrequest, ?_⟩
  cases stepped_of_step hstep with
  | refuseUpdate _ hstopped =>
    have hworking := hinUse.working
    rw [hstopped] at hworking
    cases hworking
  | requestUpdate =>
    have hslot : t'.update = none := by
      simpa using (List.append_eq_nil_iff.1 hinUse.requests).1
    refine ⟨h.upkeep rfl hstep (sameButLimits_of_eq rfl), ?_⟩
    cases hcall with
    | waiting h => exact .asked h rfl hslot
    | answered h => simpa using h.requests

end Kept

/-- What is not about limits leaves the upkeep as it is. -/
theorem Attending.of_other (h : t.Attending limits done reports) (hs : t.Stepped now action t')
    (huser : action.isOfUser = false) (hlimits : action.isOfLimits = false) :
    t'.Attending limits done reports := by
  cases h with
  | asked h heq hslot =>
    obtain ⟨h', hupdate⟩ := hs.inUse_of_other huser hlimits h
    exact .asked h' heq (hupdate.trans hslot)
  | handed h heq hslot =>
    obtain ⟨h', hupdate⟩ := hs.inUse_of_other huser hlimits h
    exact .handed h' heq (hupdate.trans hslot)
  | done h => exact .done (hs.inUse_of_other huser hlimits h).1

/-- What is done so far comes first of what is to be done. -/
theorem Attending.so_far (h : t.Attending limits done reports) :
    done <+: upkeep limits ∧ (reports = [] ∨ ∃ active, reports = [.limitsUpdated limits active]) ∧
      ∃ waiting, t.InUse waiting := by
  cases h with
  | asked h => exact ⟨⟨[.handUpdate, .takeUpdate], rfl⟩, .inl rfl, _, h⟩
  | handed h => exact ⟨⟨[.takeUpdate], rfl⟩, .inl rfl, _, h⟩
  | done h => exact ⟨List.prefix_rfl, .inr ⟨_, rfl⟩, _, h⟩

/-- When no request waits any more all is done. -/
theorem Attending.upkeepDone {old : Limits} (h : t.Attending limits done reports)
    (hinUse : t.InUse []) (hne : old ≠ limits) : UpkeepDone old limits done reports := by
  have hnone := hinUse.requests
  cases h with
  | asked h | handed h =>
    rw [h.requests] at hnone
    cases hnone
  | done => exact (if_neg hne).mpr ⟨rfl, _, rfl⟩

namespace Kept

/-- The request is handed over. -/
theorem handUpdate (h : Kept t own done reports t') (hatt : t'.Attending limits done reports)
    (hstep : t'.step now .handUpdate = some t'') :
    Kept t own [.requestUpdate limits, .handUpdate] [] t'' ∧
      t''.Attending limits [.requestUpdate limits, .handUpdate] [] := by
  have hs := stepped_of_step hstep
  cases hs with
  | handUpdate hslot hrequests =>
    cases hatt with
    | asked hinUse heq =>
      have hsame := hinUse.requests
      rw [hslot, hrequests] at hsame
      cases hsame
      refine ⟨h.upkeep rfl hstep (sameButLimits_of_eq rfl), .handed ?_ heq rfl⟩
      exact { hinUse with requests := rfl }
    | handed _ _ hslot' =>
      rw [hslot] at hslot'
      cases hslot'
    | done hinUse => simpa [hrequests] using hinUse.requests

/-- The limits come into force. -/
theorem takeUpdate (h : Kept t own done reports t') (hatt : t'.Attending limits done reports)
    (hstep : t'.step now .takeUpdate = some t'') :
    ∃ active, Kept t own (Tunnel.upkeep limits) [.limitsUpdated limits active] t'' ∧
      t''.Attending limits (Tunnel.upkeep limits) [.limitsUpdated limits active] := by
  have hs := stepped_of_step hstep
  cases hs with
  | takeUpdate howner hupdate =>
    cases hatt with
    | asked _ _ hslot =>
      rw [hslot] at hupdate
      cases hupdate
    | handed hinUse heq hslot =>
      cases hslot.symm.trans hupdate
      subst heq
      refine ⟨_, h.upkeep rfl hstep (sameButLimits_apply ..), .done ?_⟩
      rcases (stepped_of_step hstep).inUse rfl hinUse with ⟨h', -⟩ | ⟨_, _, heq, h', -⟩
      · -- no other request could still wait
        have hnone : t'.requests = [] := by simpa [hslot] using hinUse.requests
        simpa [apply, hnone] using h'.requests
      · cases heq
        exact h'
    | done hinUse => simpa [hupdate] using hinUse.requests

/-- Of what a tunnel does by itself, what is about limits goes on with the upkeep. -/
theorem step (h : Kept t own done reports t') (hatt : t'.Attending limits done reports)
    (huser : action.isOfUser = false) (hstep : t'.step now action = some t'') :
    ∃ done' reports',
      Kept t (own ++ if action.isOfLimits then [] else [(now, action)]) done' reports' t'' ∧
      t''.Attending limits done' reports' := by
  cases hlimits : action.isOfLimits with
  | false =>
    have hatt' := hatt.of_other (stepped_of_step hstep) huser hlimits
    exact ⟨_, _, h.own huser hlimits hstep, hatt'⟩
  | true =>
    rw [if_pos rfl, List.append_nil]
    cases action with
    | handUpdate => exact ⟨_, _, h.handUpdate hatt hstep⟩
    | takeUpdate =>
      obtain ⟨active, hkept⟩ := h.takeUpdate hatt hstep
      exact ⟨_, _, hkept⟩
    | requestUpdate => cases huser
    | _ => cases hlimits

end Kept

end Tunnel

end Sluice
