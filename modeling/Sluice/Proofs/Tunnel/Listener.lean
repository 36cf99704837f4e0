import Sluice.Proofs.Tunnel.Arrivals
import Sluice.Proofs.Tunnel.InUse

/-!
# The listener of a tunnel

As long as its user asks for no end, a tunnel has a listener or is about to get another one. It loses
its listener only by a fault that the listener returns.

* `Tunnel.isAwaiting`: the tunnel has lost its listener and will listen again;
* `Tunnel.Tended`: where the listener is, and `Stepped.tended` says that every action keeps that;
* `Tunnel.Untroubled`: the tunnel has a listener, which has returned no fault. Every other action than
  the arrival of a fault keeps that, by `Untroubled.step`.
-/

namespace Sluice.Tunnel

open Net (IoFault)

/-- The tunnel has lost its listener and will listen again. -/
def isAwaiting (t : Tunnel) : Bool :=
  match t.arrival with
  | some (.error _) => true
  | _ => t.owner.isWaiting

/-- Where the listener of a tunnel in use is. -/
inductive Tended (t : Tunnel) : Prop
  -- the owner has it
  | opening {inService : Option Net.SocketAddress} (howner : t.owner = .opening inService)
      (hacceptor : t.acceptor = .ended) (harrival : t.arrival = none)
  -- the acceptor has it
  | listening (howner : t.owner.isAttending) (hacceptor : t.acceptor ≠ .ended)
      (harrival : ∀ fault, t.arrival ≠ some (.error fault))
  -- it is lost, which the owner will notice
  | losing {fault : IoFault} (howner : t.owner.isAttending) (hacceptor : t.acceptor = .ended)
      (harrival : t.arrival = some (.error fault))
  -- it is lost, which the owner has noticed
  | waiting (howner : t.owner.isWaiting) (hacceptor : t.acceptor = .ended)
      (harrival : t.arrival = none)

/-- The tunnel has a listener, which has returned no fault. -/
structure Untroubled (t : Tunnel) : Prop where
  listener : t.hasListener
  fault : ∀ fault, t.acceptor ≠ .handing (.error fault)

variable {t t' : Tunnel} {now : ℕ} {action : Action}

theorem tended_start (plan : TunnelPlan) (now : ℕ) (listener : Listener) :
    (start plan now listener).Tended :=
  .opening rfl rfl rfl

theorem untroubled_start (plan : TunnelPlan) (now : ℕ) (listener : Listener) :
    (start plan now listener).Untroubled :=
  ⟨rfl, by simp [start]⟩

/-- As long as the acceptor is there it has the listener. -/
theorem hasListener_of_acceptor (h : t.acceptor ≠ .ended) : t.hasListener := by
  unfold hasListener
  split <;> first | rfl | exact absurd ‹_› h

namespace Tended

/-- A tunnel that is tended has a listener or awaits another one. -/
theorem hasListener_eq (h : t.Tended) : t.hasListener = !t.isAwaiting := by
  cases h with
  | opening howner hacceptor harrival =>
    simp [hasListener, isAwaiting, howner, harrival, Owner.isWaiting]
  | listening howner hacceptor harrival =>
    have hawaiting : t.isAwaiting = false := by
      unfold isAwaiting
      split
      · exact absurd ‹_› (harrival _)
      · cases hattending : t.owner <;> simp_all [Owner.isAttending, Owner.isWaiting]
    rw [hasListener_of_acceptor hacceptor, hawaiting, Bool.not_false]
  | losing howner hacceptor harrival =>
    cases hattending : t.owner <;>
      simp_all [hasListener, isAwaiting, Owner.isAttending]
  | waiting howner hacceptor harrival =>
    cases hwaiting : t.owner <;> simp_all [hasListener, isAwaiting, Owner.isWaiting]

/-- What is not about the listener is of no account. -/
theorem congr (h : t.Tended) (howner : t'.owner = t.owner) (hacceptor : t'.acceptor = t.acceptor)
    (harrival : t'.arrival = t.arrival) : t'.Tended := by
  cases h with
  | opening h₁ h₂ h₃ => exact .opening (howner.trans h₁) (hacceptor.trans h₂) (harrival.trans h₃)
  | listening h₁ h₂ h₃ => exact .listening (howner ▸ h₁) (hacceptor ▸ h₂) (harrival ▸ h₃)
  | losing h₁ h₂ h₃ => exact .losing (howner ▸ h₁) (hacceptor.trans h₂) (harrival.trans h₃)
  | waiting h₁ h₂ h₃ => exact .waiting (howner ▸ h₁) (hacceptor.trans h₂) (harrival.trans h₃)

/-- An acceptor that is there has the listener, and the owner attends to it. -/
theorem of_acceptor (h : t.Tended) (hacceptor : t.acceptor ≠ .ended) :
    t.owner.isAttending ∧ ∀ fault, t.arrival ≠ some (.error fault) := by
  cases h with
  | listening howner _ harrival => exact ⟨howner, harrival⟩
  | opening _ hended | losing _ hended | waiting _ hended => exact absurd hended hacceptor

/-- An owner that attends either has a listener or will notice that it is lost. -/
theorem of_owner (h : t.Tended) (howner : t.owner.isAttending) :
    t.acceptor ≠ .ended ∧ (∀ fault, t.arrival ≠ some (.error fault)) ∨
      ∃ fault, t.acceptor = .ended ∧ t.arrival = some (.error fault) := by
  cases h with
  | listening _ hacceptor harrival => exact .inl ⟨hacceptor, harrival⟩
  | losing _ hacceptor harrival => exact .inr ⟨_, hacceptor, harrival⟩
  | opening hopening =>
    rw [hopening] at howner
    cases howner
  | waiting hwaiting => cases hother : t.owner <;> simp_all [Owner.isAttending, Owner.isWaiting]

/-- The owner goes on to attend to the same listener. -/
theorem attend (h : t.Tended) (howner : t.owner.isAttending) (howner' : t'.owner.isAttending)
    (hacceptor : t'.acceptor = t.acceptor) (harrival : t'.arrival = t.arrival) : t'.Tended := by
  rcases h.of_owner howner with ⟨h₁, h₂⟩ | ⟨fault, h₁, h₂⟩
  · exact .listening howner' (hacceptor ▸ h₁) (harrival ▸ h₂)
  · exact .losing howner' (hacceptor.trans h₁) (harrival.trans h₂)

/-- A tunnel whose owner waits has no listener. -/
theorem of_waiting (h : t.Tended) (howner : t.owner.isWaiting) :
    t.acceptor = .ended ∧ t.arrival = none := by
  cases h with
  | waiting _ hacceptor harrival => exact ⟨hacceptor, harrival⟩
  | opening hopening =>
    rw [hopening] at howner
    cases howner
  | listening hattending | losing hattending =>
    cases hother : t.owner <;> simp_all [Owner.isAttending, Owner.isWaiting]

end Tended

/-- Every action leaves a tunnel tended, unless its user asks for the end. -/
theorem Stepped.tended (hs : t.Stepped now action t') (h : t.Tended) (hheld : t.isShut = false) :
    t'.isShut ∨ t'.Tended := by
  cases hs with
  | shutDown | drop => exact .inl rfl
  | finish hclosing => simp [isShut, hclosing] at hheld
  | heed _ hshut => simp [hheld] at hshut
  | abandonDial _ hshut => simp [hheld] at hshut
  | refuseUpdate | requestUpdate | giveUp | handUpdate | takeNotice | work =>
    exact .inr (h.congr rfl rfl rfl)
  | @takeUpdate u =>
    obtain ⟨f, -, heq⟩ := t.apply_eq now u
    rw [heq]
    exact .inr (h.congr rfl rfl rfl)
  -- the acceptor
  | arrive hacceptor =>
    obtain ⟨howner, harrival⟩ := h.of_acceptor (by simp [hacceptor])
    exact .inr (.listening howner (by simp) harrival)
  | discard hacceptor hreceiving =>
    obtain ⟨howner, -⟩ := h.of_acceptor (by simp [hacceptor])
    cases hother : t.owner <;> simp_all [Owner.isAttending, isReceiving]
  | @handArrival arrival hacceptor hreceiving =>
    obtain ⟨howner, -⟩ := h.of_acceptor (by simp [hacceptor])
    cases arrival with
    | ok peer => exact .inr (.listening howner (by simp [afterHanding]) (by simp))
    | error fault => exact .inr (.losing howner rfl rfl)
  | retire hunneeded hacceptor =>
    obtain ⟨howner, -⟩ := h.of_acceptor hacceptor
    cases hother : t.owner <;> simp_all [Owner.isAttending, isReceiving]
  -- the owner
  | openFirst | bound => exact .inr (.listening rfl (by simp [serve]) (by simp [serve]))
  | announce howner harrival =>
    rcases h.of_owner (by simp [howner, Owner.isAttending]) with ⟨hacceptor, -⟩ | ⟨fault, -, hfault⟩
    · exact .inr (.listening rfl hacceptor (by simp [Tunnel.announce]))
    · simp [harrival] at hfault
  | loseListener howner harrival =>
    rcases h.of_owner (by simp [howner, Owner.isAttending]) with ⟨-, hnone⟩ | ⟨fault, hacceptor, -⟩
    · exact absurd harrival (hnone _)
    · exact .inr (.waiting rfl hacceptor rfl)
  | openConnection howner | failDial howner | timeOutDial howner =>
    exact .inr (h.attend (by simp [howner, Owner.isAttending]) rfl rfl rfl)
  | stop howner =>
    cases h <;> simp_all [Owner.isAttending, Owner.isWaiting]
  | wake howner =>
    obtain ⟨hacceptor, harrival⟩ := h.of_waiting (by simp [howner, Owner.isWaiting])
    exact .inr (.waiting rfl hacceptor harrival)
  | failBind howner =>
    obtain ⟨hacceptor, harrival⟩ := h.of_waiting (by simp [howner, Owner.isWaiting])
    exact .inr (.waiting rfl hacceptor harrival)

namespace Untroubled

/-- A listener that works is with the owner or with the acceptor. -/
theorem place (h : t.Untroubled) (htended : t.Tended) :
    (∃ inService, t.owner = .opening inService) ∧ t.acceptor = .ended ∨
      t.owner.isAttending ∧ t.acceptor ≠ .ended ∧ ∀ fault, t.arrival ≠ some (.error fault) := by
  have hlistener := h.listener
  rw [htended.hasListener_eq, Bool.not_eq_true'] at hlistener
  cases htended with
  | opening howner hacceptor => exact .inl ⟨⟨_, howner⟩, hacceptor⟩
  | listening howner hacceptor harrival => exact .inr ⟨howner, hacceptor, harrival⟩
  | losing _ _ harrival => simp [isAwaiting, harrival] at hlistener
  | waiting howner _ harrival => simp [isAwaiting, harrival, howner] at hlistener

/-- An owner that attends leaves the listener to the acceptor. -/
theorem attend (h : t.Untroubled) (htended : t.Tended) (howner : t.owner.isAttending)
    (hacceptor : t'.acceptor = t.acceptor) : t'.Untroubled := by
  rcases h.place htended with ⟨⟨_, hopening⟩, -⟩ | ⟨-, hthere, -⟩
  · rw [hopening] at howner
    cases howner
  · exact ⟨hasListener_of_acceptor (hacceptor ▸ hthere), hacceptor ▸ h.fault⟩

/-- Only a fault takes the listener from a tunnel in use. -/
theorem step (h : t.Untroubled) (htended : t.Tended) (hheld : t.isShut = false)
    (hs : t.Stepped now action t') (huser : action.isOfUser = false)
    (haction : ∀ fault, action ≠ .arrive (.error fault)) : t'.Untroubled := by
  cases hs with
  | refuseUpdate | requestUpdate | giveUp | shutDown | drop => cases huser
  | finish hclosing => simp [isShut, hclosing] at hheld
  | heed _ hshut => simp [hheld] at hshut
  | abandonDial _ hshut => simp [hheld] at hshut
  | handUpdate | takeNotice | work => exact ⟨h.listener, h.fault⟩
  | @takeUpdate u =>
    obtain ⟨f, -, heq⟩ := t.apply_eq now u
    rw [heq]
    exact ⟨h.listener, h.fault⟩
  -- the acceptor
  | @arrive arrival hacceptor =>
    cases arrival with
    | ok peer => exact ⟨hasListener_of_acceptor (by simp), by simp⟩
    | error fault => exact absurd rfl (haction fault)
  | discard hacceptor hreceiving =>
    obtain ⟨howner, -⟩ := htended.of_acceptor (by simp [hacceptor])
    cases hother : t.owner <;> simp_all [Owner.isAttending, isReceiving]
  | @handArrival arrival hacceptor hreceiving =>
    cases arrival with
    | ok peer => exact ⟨hasListener_of_acceptor (by simp [afterHanding]), by simp [afterHanding]⟩
    | error fault => exact absurd hacceptor (h.fault fault)
  | retire hunneeded hacceptor =>
    obtain ⟨howner, -⟩ := htended.of_acceptor hacceptor
    cases hother : t.owner <;> simp_all [Owner.isAttending, isReceiving]
  -- the owner
  | openFirst | bound => exact ⟨rfl, by simp [serve]⟩
  | announce howner | openConnection howner | failDial howner | timeOutDial howner =>
    exact h.attend htended (by simp [howner, Owner.isAttending]) rfl
  | loseListener howner harrival =>
    rcases h.place htended with ⟨⟨_, hopening⟩, -⟩ | ⟨-, -, hnone⟩
    · rw [hopening] at howner
      cases howner
    · exact absurd harrival (hnone _)
  | stop howner | wake howner | failBind howner =>
    rcases h.place htended with ⟨⟨_, hopening⟩, -⟩ | ⟨hattending, -⟩
    · rw [hopening] at howner
      cases howner
    · rw [howner] at hattending
      cases hattending

end Untroubled

end Sluice.Tunnel
