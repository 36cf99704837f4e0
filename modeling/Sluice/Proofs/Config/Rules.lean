import Mathlib.Data.List.TakeDrop
import Sluice.CommandLine.Check
import Sluice.Proofs.Config.Validation

/-!
# The rules of a configuration, one by one

The check of a configuration goes through its rules in a fixed order: there are tunnels; each
tunnel, in turn, says what it is, has limits, and repeats nothing of the tunnels before it; no
interval of the settings is zero. This file lists the rules and says what the check makes of the
list.

* `TunnelRule` is a rule about one tunnel, `Rule` any rule, with its sentence `Rule.message`;
* `Config.rules c` are the rules in their order, and `Config.firstBroken? c` is the first broken
  one;
* `Config.Valid c` says what a configuration is that keeps all rules;
* `Config.passed c` are the tunnels that keep their own rules, up to the first rule that ends the
  check;
* `Config.audit_decides`: the check reports the first broken rule, and nothing exactly if the
  configuration is valid; it warns of the wide tunnels among those that pass.
-/

namespace Sluice

/-- The text says something: not all of it is white space. -/
def Text.Says (s : String) : Prop := ∃ c ∈ s.toList, isWhiteSpace c = false

instance (s : String) : Decidable (Text.Says s) :=
  inferInstanceAs (Decidable (∃ c ∈ s.toList, Text.isWhiteSpace c = false))

theorem Text.says_iff {s : String} : Says s ↔ isBlank s = false := by
  simp [Says, isBlank]

/-- A rule about one tunnel of a configuration. -/
inductive TunnelRule where
  /-- The name says something. -/
  | name
  /-- The address to listen at says something. -/
  | listenAt
  /-- The address of the remote says something. -/
  | connectTo
  /-- The limit of the whole tunnel is positive. -/
  | tunnelLimit
  /-- The limit of each connection is positive. -/
  | connectionLimit
  /-- No tunnel before has the same name. -/
  | newName
  /-- No tunnel before listens at the same address. -/
  | newListenAt
deriving DecidableEq

namespace TunnelRule

/-- The rules that a tunnel keeps or breaks by itself, in their order. -/
def own : List TunnelRule := [.name, .listenAt, .connectTo, .tunnelLimit, .connectionLimit]

/-- All rules, in their order. -/
def all : List TunnelRule := own ++ [.newName, .newListenAt]

/-- The tunnel keeps the rule, given the tunnels before it. -/
def Keeps (before : List TunnelConfig) (t : TunnelConfig) : TunnelRule → Prop
  | .name => Text.Says t.name
  | .listenAt => Text.Says t.listenAt
  | .connectTo => Text.Says t.connectTo
  | .tunnelLimit => 0 < t.tunnelLimit
  | .connectionLimit => 0 < t.connectionLimit
  | .newName => ∀ u ∈ before, u.name ≠ t.name
  | .newListenAt => ∀ u ∈ before, u.listenAt ≠ t.listenAt

instance (before : List TunnelConfig) (t : TunnelConfig) :
    (rule : TunnelRule) → Decidable (rule.Keeps before t)
  | .name => inferInstanceAs (Decidable (Text.Says t.name))
  | .listenAt => inferInstanceAs (Decidable (Text.Says t.listenAt))
  | .connectTo => inferInstanceAs (Decidable (Text.Says t.connectTo))
  | .tunnelLimit => inferInstanceAs (Decidable (0 < t.tunnelLimit))
  | .connectionLimit => inferInstanceAs (Decidable (0 < t.connectionLimit))
  | .newName => inferInstanceAs (Decidable (∀ u ∈ before, u.name ≠ t.name))
  | .newListenAt => inferInstanceAs (Decidable (∀ u ∈ before, u.listenAt ≠ t.listenAt))

/-- The sentence that says that the tunnel breaks the rule. -/
def message (t : TunnelConfig) : TunnelRule → String
  | .name => "Tunnel: name cannot be empty"
  | .listenAt => s!"Tunnel '{t.name}' listen_at: address cannot be empty"
  | .connectTo => s!"Tunnel '{t.name}' connect_to: address cannot be empty"
  | .tunnelLimit => s!"Tunnel '{t.name}' tunnel_limit must be greater than 0"
  | .connectionLimit => s!"Tunnel '{t.name}' connection_limit must be greater than 0"
  | .newName => s!"Duplicate tunnel name '{t.name}': each tunnel must have a unique name"
  | .newListenAt =>
    s!"Duplicate listen_at '{t.listenAt}': each tunnel must listen on a different address"

end TunnelRule

/-- A rule of a configuration. -/
inductive Rule where
  /-- There are tunnels. -/
  | someTunnel
  /-- A rule about the tunnel `t`, which comes after the tunnels `before`. -/
  | ofTunnel (before : List TunnelConfig) (t : TunnelConfig) (rule : TunnelRule)
  /-- The interval between two attempts to listen is not zero. -/
  | retryInterval
  /-- The time for an attempt to reach the remote is not zero. -/
  | connectTimeout
deriving DecidableEq

/-- The sentence that says that the rule is broken. -/
def Rule.message : Rule → String
  | .someTunnel => "No tunnel configurations defined"
  | .ofTunnel _ t rule => rule.message t
  | .retryInterval => "settings.retry_interval_secs must be greater than 0"
  | .connectTimeout => "settings.connect_timeout_secs must be greater than 0"

namespace Config

/-- The configuration keeps the rule. -/
def Keeps (c : Config) : Rule → Prop
  | .someTunnel => c.tunnels ≠ []
  | .ofTunnel before t rule => rule.Keeps before t
  | .retryInterval => c.settings.retryIntervalSecs ≠ some 0
  | .connectTimeout => c.settings.connectTimeoutSecs ≠ some 0

instance (c : Config) : (rule : Rule) → Decidable (c.Keeps rule)
  | .someTunnel => inferInstanceAs (Decidable (c.tunnels ≠ []))
  | .ofTunnel before t rule => inferInstanceAs (Decidable (rule.Keeps before t))
  | .retryInterval => inferInstanceAs (Decidable (c.settings.retryIntervalSecs ≠ some 0))
  | .connectTimeout => inferInstanceAs (Decidable (c.settings.connectTimeoutSecs ≠ some 0))

/-- The rules about tunnels that come after the tunnels `before`, tunnel by tunnel. -/
def rulesAfter (before : List TunnelConfig) : List TunnelConfig → List Rule
  | [] => []
  | t :: rest => TunnelRule.all.map (.ofTunnel before t) ++ rulesAfter (before ++ [t]) rest

/-- The rules in the order in which they are checked. -/
def rules (c : Config) : List Rule :=
  .someTunnel :: (rulesAfter [] c.tunnels ++ [.retryInterval, .connectTimeout])

/-- The first rule that the configuration breaks. -/
def firstBroken? (c : Config) : Option Rule := c.rules.find? fun rule => ¬ c.Keeps rule

/-- All that is asked of a configuration. -/
structure Valid (c : Config) : Prop where
  /-- There are tunnels. -/
  tunnels : c.tunnels ≠ []
  /-- Names and addresses are not blank. -/
  texts : ∀ t ∈ c.tunnels, Text.Says t.name ∧ Text.Says t.listenAt ∧ Text.Says t.connectTo
  /-- Limits are positive. -/
  limits : ∀ t ∈ c.tunnels, 0 < t.tunnelLimit ∧ 0 < t.connectionLimit
  /-- No two tunnels have the same name. -/
  names : c.names.Nodup
  /-- No two tunnels listen at the same address. -/
  addresses : c.addresses.Nodup
  /-- No interval is zero. -/
  settings : c.settings.retryIntervalSecs ≠ some 0 ∧ c.settings.connectTimeoutSecs ≠ some 0

/-- The tunnel `t` keeps its own rules, and the tunnels `early` between `before` and it keep all of
theirs. -/
def PassesAfter (before early : List TunnelConfig) (t : TunnelConfig) : Prop :=
  (∀ head u tail, early = head ++ u :: tail →
      ∀ rule ∈ TunnelRule.all, rule.Keeps (before ++ head) u) ∧
    ∀ rule ∈ TunnelRule.own, rule.Keeps (before ++ early) t

/-- The tunnels after `before` that are found to be right by themselves before a broken rule ends
the check. -/
def passedAfter (before : List TunnelConfig) : List TunnelConfig → List TunnelConfig
  | [] => []
  | t :: rest =>
    if ∀ rule ∈ TunnelRule.all, rule.Keeps before t then t :: passedAfter (before ++ [t]) rest
    else if ∀ rule ∈ TunnelRule.own, rule.Keeps before t then [t]
    else []

/-- The tunnels that are found to be right by themselves before a broken rule ends the check. -/
def passed (c : Config) : List TunnelConfig := passedAfter [] c.tunnels

end Config

variable {c : Config} {t : TunnelConfig} {before tunnels : List TunnelConfig}
  {final : Option Violation} {names addresses : List String}

/-! ## One tunnel -/

/-- The first broken rule of several is the first one, unless it is kept. -/
theorem TunnelRule.find?_cons (rule : TunnelRule) (rest : List TunnelRule) :
    ((rule :: rest).find? fun rule => ¬ rule.Keeps before t) =
      if rule.Keeps before t then rest.find? fun rule => ¬ rule.Keeps before t else some rule := by
  by_cases hkeeps : rule.Keeps before t
  · rw [if_pos hkeeps, List.find?_cons_of_neg (by simpa using hkeeps)]
  · rw [if_neg hkeeps, List.find?_cons_of_pos (by simpa using hkeeps)]

/-- A sentence about a field of a tunnel that is put together from the field and what is said. -/
theorem message_about {name field rest sentence : String} (h : field ++ rest = sentence) :
    s!"Tunnel '{name}{field}" ++ rest = s!"Tunnel '{name}{sentence}" := by
  subst h
  exact String.append_assoc

namespace TunnelConfig

/-- What is found wrong with a tunnel by itself is the first of its own rules that it breaks. -/
theorem violation?_map_message (before : List TunnelConfig) (t : TunnelConfig) :
    t.violation?.map (·.message) =
      (TunnelRule.own.find? fun rule => ¬ rule.Keeps before t).map (·.message t) := by
  have positive : ∀ n : UInt64, 0 < n ↔ n ≠ 0 := fun n => UInt64.pos_iff_ne_zero
  simp only [TunnelRule.own, TunnelRule.find?_cons, List.find?_nil]
  simp only [violation?, checkName, checkAddress, checkPositive, TunnelRule.Keeps, Text.says_iff,
    positive]
  cases hname : Text.isBlank t.name
  case true => exact congrArg some String.ofList_append.symm
  cases hlisten : Text.isBlank t.listenAt
  case true => exact congrArg some (message_about String.ofList_append.symm)
  cases hconnect : Text.isBlank t.connectTo
  case true => exact congrArg some (message_about String.ofList_append.symm)
  by_cases htunnel : t.tunnelLimit = 0
  · rw [if_pos htunnel, if_neg (not_not.2 htunnel)]
    exact congrArg some (message_about String.ofList_append.symm)
  by_cases hconnection : t.connectionLimit = 0
  · rw [if_neg htunnel, if_pos hconnection, if_pos htunnel, if_neg (not_not.2 hconnection)]
    exact congrArg some (message_about String.ofList_append.symm)
  · simp [htunnel, hconnection]

/-- Nothing is wrong with a tunnel by itself exactly if it keeps its own rules. -/
theorem violation?_eq_none_iff (before : List TunnelConfig) (t : TunnelConfig) :
    t.violation? = none ↔ ∀ rule ∈ TunnelRule.own, rule.Keeps before t := by
  rw [← Option.map_eq_none_iff, violation?_map_message before t]
  simp

end TunnelConfig

/-! ## All tunnels -/

namespace Config

/-- A rule about a tunnel does not depend on the configuration. -/
@[simp]
theorem keeps_ofTunnel {rule : TunnelRule} :
    c.Keeps (.ofTunnel before t rule) ↔ rule.Keeps before t :=
  Iff.rfl

/-- The first broken rule about the tunnels after `before` is the first one of the next tunnel, or
the first one of the tunnels after that. -/
theorem find?_rulesAfter_cons {rest : List TunnelConfig} :
    ((rulesAfter before (t :: rest)).find? fun rule => ¬ c.Keeps rule) =
      ((TunnelRule.all.find? fun rule => ¬ rule.Keeps before t).map (.ofTunnel before t)).or
        ((rulesAfter (before ++ [t]) rest).find? fun rule => ¬ c.Keeps rule) := by
  rw [rulesAfter, List.find?_append, List.find?_map]
  rfl

/-- The names and the addresses are those of the tunnels `before`. -/
structure Seen (names addresses : List String) (before : List TunnelConfig) : Prop where
  /-- Each name belongs to one of the tunnels. -/
  name_mem_iff : ∀ name, name ∈ names ↔ ∃ u ∈ before, u.name = name
  /-- At each address one of the tunnels listens. -/
  address_mem_iff : ∀ address, address ∈ addresses ↔ ∃ u ∈ before, u.listenAt = address

namespace Seen

theorem nil : Seen [] [] [] := by
  constructor <;> simp

theorem concat (hseen : Seen names addresses before) (t : TunnelConfig) :
    Seen (t.name :: names) (t.listenAt :: addresses) (before ++ [t]) := by
  constructor
  · intro name
    simp [hseen.name_mem_iff, or_comm, eq_comm]
  · intro address
    simp [hseen.address_mem_iff, or_comm, eq_comm]

theorem newName_iff (hseen : Seen names addresses before) :
    TunnelRule.newName.Keeps before t ↔ t.name ∉ names := by
  simp [TunnelRule.Keeps, hseen.name_mem_iff]

theorem newListenAt_iff (hseen : Seen names addresses before) :
    TunnelRule.newListenAt.Keeps before t ↔ t.listenAt ∉ addresses := by
  simp [TunnelRule.Keeps, hseen.address_mem_iff]

end Seen

/-- What the check of tunnels reports is the first broken rule about them. -/
theorem auditTunnels_violation_map_message (hseen : Seen names addresses before) :
    (auditTunnels final names addresses tunnels).violation.map (·.message) =
      (((rulesAfter before tunnels).find? fun rule => ¬ c.Keeps rule).map (·.message)).or
        (final.map (·.message)) := by
  induction tunnels generalizing before names addresses with
  | nil => simp [auditTunnels, rulesAfter]
  | cons t rest ih =>
    have hown := t.violation?_map_message before
    rw [find?_rulesAfter_cons, TunnelRule.all, List.find?_append, auditTunnels]
    cases hviolation : t.violation? with
    | some violation =>
      rw [hviolation, Option.map_some, eq_comm, Option.map_eq_some_iff] at hown
      obtain ⟨rule, hrule, hmessage⟩ := hown
      rw [hrule]
      exact congrArg some hmessage.symm
    | none =>
      rw [hviolation, Option.map_none, eq_comm, Option.map_eq_none_iff] at hown
      rw [hown, Option.none_or]
      simp only [List.find?_cons, List.find?_nil, hseen.newName_iff, hseen.newListenAt_iff, not_not]
      by_cases hname : t.name ∈ names
      · rw [if_pos hname, decide_eq_true hname]
        rfl
      by_cases haddress : t.listenAt ∈ addresses
      · rw [if_neg hname, if_pos haddress, decide_eq_false hname, decide_eq_true haddress]
        rfl
      · rw [if_neg hname, if_neg haddress, decide_eq_false hname, decide_eq_false haddress]
        exact ih (hseen.concat t)

theorem passesAfter_nil :
    PassesAfter before [] t ↔ ∀ rule ∈ TunnelRule.own, rule.Keeps before t := by
  simp [PassesAfter]

theorem passesAfter_cons {u : TunnelConfig} {early : List TunnelConfig} :
    PassesAfter before (u :: early) t ↔
      (∀ rule ∈ TunnelRule.all, rule.Keeps before u) ∧ PassesAfter (before ++ [u]) early t := by
  constructor
  · rintro ⟨hearly, hown⟩
    refine ⟨by simpa using hearly [] u early rfl, fun head v tail hsplit => ?_, by simpa using hown⟩
    simpa using hearly (u :: head) v tail (congrArg (u :: ·) hsplit)
  · rintro ⟨hall, hearly, hown⟩
    refine ⟨fun head v tail hsplit => ?_, by simpa using hown⟩
    cases head with
    | nil =>
      obtain ⟨rfl, rfl⟩ := List.cons.inj hsplit
      simpa using hall
    | cons w head =>
      rw [List.cons_append, List.cons.injEq] at hsplit
      obtain ⟨rfl, hsplit⟩ := hsplit
      simpa using hearly head v tail hsplit

/-- The tunnels that pass are the first ones. -/
theorem passedAfter_prefix : passedAfter before tunnels <+: tunnels := by
  induction tunnels generalizing before with
  | nil => exact List.nil_prefix
  | cons t rest ih =>
    rw [passedAfter]
    split
    · exact List.cons_prefix_cons.2 ⟨rfl, ih⟩
    · split
      · exact List.cons_prefix_cons.2 ⟨rfl, List.nil_prefix⟩
      · exact List.nil_prefix

/-- A tunnel is among those that pass exactly if it keeps its own rules and all tunnels before it
keep all of theirs. -/
theorem length_lt_passedAfter_iff {early late : List TunnelConfig}
    (hsplit : tunnels = early ++ t :: late) :
    early.length < (passedAfter before tunnels).length ↔ PassesAfter before early t := by
  induction early generalizing before tunnels with
  | nil =>
    rw [hsplit, List.nil_append, passedAfter, passesAfter_nil]
    split
    next hall =>
      have hown : ∀ rule ∈ TunnelRule.own, rule.Keeps before t := fun rule hrule =>
        hall rule (List.mem_append_left _ hrule)
      exact iff_of_true (Nat.succ_pos _) hown
    next =>
      split
      next hown => simpa using hown
      next hnot => simpa using hnot
  | cons u early ih =>
    rw [hsplit, List.cons_append, passedAfter, passesAfter_cons]
    split
    next hall =>
      rw [and_iff_right hall, ← ih rfl]
      simp
    next hnot => split <;> simp [hnot]

/-- The check of tunnels warns of the wide tunnels among those that pass. -/
theorem auditTunnels_warned (hseen : Seen names addresses before) :
    (auditTunnels final names addresses tunnels).warned =
      (passedAfter before tunnels).filter (·.isWide) := by
  induction tunnels generalizing before names addresses with
  | nil => rfl
  | cons t rest ih =>
    have hown := t.violation?_eq_none_iff before
    have hall : (∀ rule ∈ TunnelRule.all, rule.Keeps before t) ↔
        t.violation? = none ∧ t.name ∉ names ∧ t.listenAt ∉ addresses := by
      simp [TunnelRule.all, or_imp, forall_and, hown, hseen.newName_iff, hseen.newListenAt_iff]
    rw [auditTunnels, passedAfter]
    simp only [hall, ← hown]
    cases hviolation : t.violation? with
    | some violation => simp
    | none =>
      by_cases hname : t.name ∈ names
      · simp [hname, List.filter_cons]
      by_cases haddress : t.listenAt ∈ addresses
      · simp [hname, haddress, List.filter_cons]
      · cases hwide : t.isWide <;> simp [hname, haddress, hwide, ih (hseen.concat t)]

/-! ## The whole check -/

/-- A rule of the settings that is broken is reported. -/
theorem settings_violation?_map_message :
    c.settings.violation?.map (·.message) =
      ([Rule.retryInterval, .connectTimeout].find? fun rule => ¬ c.Keeps rule).map (·.message) := by
  simp only [Settings.violation?, List.find?_cons, List.find?_nil, Keeps, not_not]
  by_cases hretry : c.settings.retryIntervalSecs = some 0
  · rw [if_pos hretry, decide_eq_true hretry]
    exact congrArg some String.ofList_append.symm
  by_cases hconnect : c.settings.connectTimeoutSecs = some 0
  · rw [if_neg hretry, if_pos hconnect, decide_eq_false hretry, decide_eq_true hconnect]
    exact congrArg some String.ofList_append.symm
  · rw [if_neg hretry, if_neg hconnect, decide_eq_false hretry, decide_eq_false hconnect]
    rfl

/-- What the check reports is the first broken rule. -/
theorem audit_violation_map_message :
    c.audit.violation.map (·.message) = c.firstBroken?.map (·.message) := by
  rw [firstBroken?, rules, audit, List.find?_cons]
  by_cases hempty : c.tunnels = []
  · have : ¬ c.Keeps .someTunnel := fun hkeeps => hkeeps hempty
    rw [if_pos (List.isEmpty_iff.2 hempty), decide_eq_true this]
    rfl
  · have : ¬ ¬ c.Keeps .someTunnel := not_not.2 hempty
    rw [if_neg (by simpa using hempty), decide_eq_false this,
      auditTunnels_violation_map_message Seen.nil, List.find?_append,
      settings_violation?_map_message, Option.map_or]

/-- Among the tunnels that pass the check warns of those that may carry less than one of their
connections. -/
theorem audit_warned :
    c.audit.warned = c.passed.filter fun t => t.tunnelLimit < t.connectionLimit := by
  rw [audit, passed]
  split
  next hempty => rw [List.isEmpty_iff.1 hempty]; rfl
  next => exact auditTunnels_warned Seen.nil

/-- The check finds nothing exactly if the configuration is valid. -/
theorem audit_violation_eq_none_iff_valid : c.audit.violation = none ↔ c.Valid := by
  have hown (t : TunnelConfig) : t.violation? = none ↔
      (Text.Says t.name ∧ Text.Says t.listenAt ∧ Text.Says t.connectTo) ∧
        0 < t.tunnelLimit ∧ 0 < t.connectionLimit := by
    simp [t.violation?_eq_none_iff [], TunnelRule.own, TunnelRule.Keeps, and_assoc]
  have hsettings : c.settings.violation? = none ↔
      c.settings.retryIntervalSecs ≠ some 0 ∧ c.settings.connectTimeoutSecs ≠ some 0 := by
    rw [← Option.map_eq_none_iff, settings_violation?_map_message]
    simp [Keeps]
  rw [audit_violation_eq_none_iff, hsettings]
  simp only [hown]
  constructor
  · rintro ⟨htunnels, htunnel, hnames, haddresses, hintervals⟩
    exact ⟨htunnels, fun t ht => (htunnel t ht).1, fun t ht => (htunnel t ht).2, hnames, haddresses,
      hintervals⟩
  · intro hvalid
    exact ⟨hvalid.tunnels, fun t ht => ⟨hvalid.texts t ht, hvalid.limits t ht⟩, hvalid.names,
      hvalid.addresses, hvalid.settings⟩

/-- If all rules about tunnels are kept, all tunnels pass. -/
theorem passedAfter_eq_self (hkept : ∀ rule ∈ rulesAfter before tunnels, c.Keeps rule) :
    passedAfter before tunnels = tunnels := by
  induction tunnels generalizing before with
  | nil => rfl
  | cons t rest ih =>
    rw [rulesAfter, List.forall_mem_append, List.forall_mem_map] at hkept
    have hall : ∀ rule ∈ TunnelRule.all, rule.Keeps before t := hkept.1
    rw [passedAfter, if_pos hall, ih hkept.2]

/-- In a valid configuration all tunnels pass. -/
theorem Valid.passed_eq (hvalid : c.Valid) : c.passed = c.tunnels := by
  have hnone : c.firstBroken? = none := by
    rw [← Option.map_eq_none_iff, ← audit_violation_map_message, Option.map_eq_none_iff]
    exact audit_violation_eq_none_iff_valid.2 hvalid
  refine passedAfter_eq_self (c := c) fun rule hrule => ?_
  have hmem : rule ∈ c.rules := List.mem_cons_of_mem _ (List.mem_append_left _ hrule)
  simpa using List.find?_eq_none.1 hnone rule hmem

/-- A text is accepted exactly if it denotes a valid configuration. -/
theorem ofText_eq_ok_iff {text : String} :
    (ofText text).1 = .ok c ↔ parse text = .ok c ∧ c.Valid := by
  rw [ofText]
  cases hparse : parse text with
  | error fault => simp
  | ok found =>
    rw [← audit_violation_eq_none_iff_valid]
    cases hviolation : found.audit.violation with
    | some violation =>
      simp only [hviolation, reduceCtorEq, false_iff, not_and, Except.ok.injEq]
      rintro rfl
      simp [hviolation]
    | none =>
      simp only [hviolation, Except.ok.injEq]
      exact ⟨fun hsame => ⟨hsame, hsame ▸ hviolation⟩, And.left⟩

/-- The check decides whether a configuration is valid, and reports the first rule that is broken.
It warns of each tunnel that may carry less than one of its connections, in order, among those that
it has found to be right by themselves by then; in a valid configuration these are the tunnels of
which the command `check` warns. A text is accepted exactly if it denotes a valid configuration. -/
theorem audit_decides (c : Config) :
    (c.audit.violation = none ↔ c.Valid) ∧
      c.audit.violation.map (·.error) = c.firstBroken?.map (fun rule => .config rule.message) ∧
      (c.audit.logs =
          (c.passed.filter fun t => t.tunnelLimit < t.connectionLimit).map (·.warning) ∧
        c.passed <+: c.tunnels ∧
        ∀ early t late, c.tunnels = early ++ t :: late →
          (early.length < c.passed.length ↔ PassesAfter [] early t)) ∧
      (c.Valid → c.audit.warned = (c.tunnels.filter fun t => t.tunnelLimit < t.connectionLimit) ∧
        CommandLine.Finding.warnings c = c.audit.warned.map CommandLine.Finding.warning) ∧
      ∀ text, (ofText text).1 = .ok c ↔ parse text = .ok c ∧ c.Valid := by
  refine ⟨audit_violation_eq_none_iff_valid, ?_, ⟨?_, passedAfter_prefix, ?_⟩, fun hvalid => ?_,
    fun text => ofText_eq_ok_iff⟩
  · have hmessage := congrArg (Option.map TunnelError.config) (audit_violation_map_message (c := c))
    rwa [Option.map_map, Option.map_map] at hmessage
  · rw [Audit.logs, audit_warned]
  · intro early t late hsplit
    exact length_lt_passedAfter_iff hsplit
  · have hwarned :
        c.audit.warned = c.tunnels.filter fun t => t.tunnelLimit < t.connectionLimit := by
      rw [audit_warned, hvalid.passed_eq]
    refine ⟨hwarned, ?_⟩
    rw [hwarned]
    rfl

end Config

end Sluice
