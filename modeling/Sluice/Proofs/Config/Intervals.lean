import Sluice.Proofs.Config.Rules
import Sluice.Proofs.Timer
import Sluice.Tunnel.Plan

/-!
# The intervals in force

The check of a configuration refuses an interval of zero. The settings may leave an interval open,
though, and then a variable of the environment decides, which nothing checks.

* `Settings.retryInterval_pos_iff`, `Settings.connectTimeout_pos_iff`: when an interval in force is
  positive;
* `TunnelPlan.Waits`: both intervals of a plan are positive, so that no timer for them fires at
  once;
* `Config.plans_wait_iff`: the tunnels of all accepted configurations wait, between two attempts to
  listen and for the remote, exactly if neither variable holds a zero;
* `Config.not_waits_of_zero`: with a zero in a variable, an accepted configuration makes a tunnel
  that does not wait.
-/

namespace Sluice

/-- Some time passes before a timer for the duration fires, whenever it is set. -/
def Duration.Passes (d : Duration) : Prop := ∀ now, now < Timer.deadline now d

/-- Time passes before a timer fires exactly if its duration is positive. -/
theorem Duration.passes_iff {d : Duration} : d.Passes ↔ 0 < d.nanos := by
  constructor
  · intro hpasses
    by_contra hzero
    have hfires : Timer.deadline 0 d = 0 := by
      rw [show d = ⟨0⟩ from congrArg Duration.mk (Nat.eq_zero_of_not_pos hzero)]
      rfl
    exact absurd (hpasses 0) (by rw [hfires]; exact Nat.lt_irrefl 0)
  · exact Timer.lt_deadline

namespace Settings

variable {s : Settings} {env : Environment}

/-- A number of seconds that is chosen, or else held by a variable, or else a positive default: only
the variable can make it zero, if no zero is chosen. -/
theorem seconds_pos_iff {chosen held : Option UInt64} {default : UInt64} (hdefault : 0 < default)
    (hchosen : chosen ≠ some 0) :
    0 < (Duration.ofSeconds (chosen.getD (held.getD default)).toNat).nanos ↔
      ¬ (chosen = none ∧ held = some 0) := by
  have hpos (n : UInt64) : 0 < (Duration.ofSeconds n.toNat).nanos ↔ n ≠ 0 := by
    rw [Duration.ofSeconds, Nat.mul_pos_iff_of_pos_right (by decide), ← UInt64.pos_iff_ne_zero,
      UInt64.lt_iff_toNat_lt]
    rfl
  rw [hpos]
  cases chosen with
  | some n => simpa using hchosen
  | none =>
    cases held with
    | some n => simp
    | none => simpa using UInt64.pos_iff_ne_zero.1 hdefault

/-- The interval between two attempts to listen is positive unless it is left open and the variable
holds a zero. -/
theorem retryInterval_pos_iff (h : s.retryIntervalSecs ≠ some 0) :
    0 < (s.retryInterval env).nanos ↔
      ¬ (s.retryIntervalSecs = none ∧ env.numberIn? "RETRY_INTERVAL_SECS" = some 0) :=
  seconds_pos_iff (by decide) h

/-- The time for an attempt to reach the remote is positive unless it is left open and the variable
holds a zero. -/
theorem connectTimeout_pos_iff (h : s.connectTimeoutSecs ≠ some 0) :
    0 < (s.connectTimeout env).nanos ↔
      ¬ (s.connectTimeoutSecs = none ∧ env.numberIn? "CONNECT_TIMEOUT_SECS" = some 0) :=
  seconds_pos_iff (by decide) h

end Settings

/-- A tunnel with the plan waits between two attempts to listen, and for the remote. -/
structure TunnelPlan.Waits (plan : TunnelPlan) : Prop where
  /-- The interval between the loss of a listener and the next attempt to listen is positive. -/
  retryInterval_pos : 0 < plan.retryInterval.nanos
  /-- The time after which an attempt to reach the remote is given up is positive. -/
  connectTimeout_pos : 0 < plan.connectTimeout.nanos
  /-- The next attempt to listen is never made at once. -/
  retryInterval_passes : plan.retryInterval.Passes
  /-- An attempt to reach the remote is never given up at once. -/
  connectTimeout_passes : plan.connectTimeout.Passes

/-- A tunnel waits exactly if both intervals of its plan are positive. -/
theorem TunnelPlan.waits_iff {plan : TunnelPlan} :
    plan.Waits ↔ 0 < plan.retryInterval.nanos ∧ 0 < plan.connectTimeout.nanos := by
  constructor
  · intro hwaits
    exact ⟨hwaits.retryInterval_pos, hwaits.connectTimeout_pos⟩
  · rintro ⟨hretry, hconnect⟩
    exact ⟨hretry, hconnect, Duration.passes_iff.2 hretry, Duration.passes_iff.2 hconnect⟩

namespace Config

variable {env : Environment}

/-- The tunnels of a valid configuration wait exactly if no interval is left open while the variable
for it holds a zero. -/
theorem Valid.waits_iff {c : Config} (hvalid : c.Valid) (t : TunnelConfig) :
    (t.plan c.settings env).Waits ↔
      ¬ (c.settings.retryIntervalSecs = none ∧ env.numberIn? "RETRY_INTERVAL_SECS" = some 0) ∧
        ¬ (c.settings.connectTimeoutSecs = none ∧
          env.numberIn? "CONNECT_TIMEOUT_SECS" = some 0) := by
  rw [← Settings.retryInterval_pos_iff hvalid.settings.1,
    ← Settings.connectTimeout_pos_iff hvalid.settings.2]
  exact TunnelPlan.waits_iff

/-! ## A configuration that leaves both intervals open -/

/-- One tunnel. -/
def oneTunnel : TunnelConfig := ⟨"a", "127.0.0.1:1", "127.0.0.1:2", 1000, 500⟩

/-- A document with one tunnel. -/
def oneTunnelText : String :=
  "[[tunnels]]\nconnect_to = \"127.0.0.1:2\"\nconnection_limit = 500\n" ++
    "listen_at = \"127.0.0.1:1\"\nname = \"a\"\ntunnel_limit = 1000\n"

/-- The fields of the tunnel. -/
def oneTunnelFields : List (String × Data) :=
  [("connect_to", .text "127.0.0.1:2"), ("connection_limit", .integer 500),
    ("listen_at", .text "127.0.0.1:1"), ("name", .text "a"), ("tunnel_limit", .integer 1000)]

/-- The document under construction after the last line. -/
def oneTunnelDraft : Toml.Draft where
  header := some ⟨[], "tunnels", true⟩
  current := oneTunnelFields.map fun (name, data) => (name, .value data)

set_option maxRecDepth 100000 in
theorem readLines_oneTunnelText :
    Toml.readLines (Toml.skipMark oneTunnelText.toList).length {}
      (Toml.skipMark oneTunnelText.toList) = some oneTunnelDraft := by
  rfl

theorem finish_oneTunnelDraft :
    oneTunnelDraft.finish = some (.record [("tunnels", .list [.record oneTunnelFields])]) := by
  have hfields : Toml.sortFields oneTunnelFields = oneTunnelFields :=
    List.mergeSort_of_pairwise (by decide)
  change some (Data.record (Toml.sortFields [("tunnels", .list [.record (Toml.sortFields
    oneTunnelFields)])])) = _
  rw [hfields, Toml.sortFields, List.mergeSort_singleton]

/-- The document is accepted. -/
theorem ofText_oneTunnelText : ofText oneTunnelText = (.ok ⟨{}, [oneTunnel]⟩, []) := by
  have hdata : Toml.ofText? oneTunnelText =
      some (.record [("tunnels", .list [.record oneTunnelFields])]) := by
    simp only [Toml.ofText?, readLines_oneTunnelText, Option.bind_eq_bind, Option.bind_some,
      finish_oneTunnelDraft]
  have hparse : parse oneTunnelText = .ok ⟨{}, [oneTunnel]⟩ := by
    rw [parse, hdata]
    rfl
  rw [ofText, hparse]
  rfl

/-- The tunnels of all accepted configurations wait exactly if neither variable holds a zero. -/
theorem plans_wait_iff (env : Environment) :
    (∀ text c logs, ofText text = (.ok c, logs) →
        ∀ t ∈ c.tunnels, (t.plan c.settings env).Waits) ↔
      env.numberIn? "RETRY_INTERVAL_SECS" ≠ some 0 ∧
        env.numberIn? "CONNECT_TIMEOUT_SECS" ≠ some 0 := by
  constructor
  · intro hwait
    have hopen := hwait _ _ _ ofText_oneTunnelText oneTunnel (List.mem_singleton_self _)
    have hvalid : Valid ⟨{}, [oneTunnel]⟩ :=
      (ofText_eq_ok_iff.1 (congrArg Prod.fst ofText_oneTunnelText)).2
    simpa using (hvalid.waits_iff oneTunnel).1 hopen
  · rintro ⟨hretry, hconnect⟩ text c logs htext t -
    have hvalid := (ofText_eq_ok_iff.1 (congrArg Prod.fst htext)).2
    exact (hvalid.waits_iff t).2 ⟨fun h => hretry h.2, fun h => hconnect h.2⟩

/-- An environment with a zero in the variable for the interval between two attempts to listen. -/
def zeroRetry : Environment where
  «variables» := [("BW_TUNNEL_RETRY_INTERVAL_SECS", "0")]
  home := "/"
  directory := "/"

/-- With a zero in the variable, an accepted configuration makes a tunnel that tries to listen again
at once. -/
theorem not_waits_of_zero :
    ofText oneTunnelText = (.ok ⟨{}, [oneTunnel]⟩, []) ∧
      (oneTunnel.plan {} zeroRetry).retryInterval = .ofSeconds 0 ∧
      ¬ (oneTunnel.plan {} zeroRetry).Waits := by
  refine ⟨ofText_oneTunnelText, by decide, fun hwaits => ?_⟩
  exact absurd hwaits.retryInterval_pos (by decide)

end Config

end Sluice
