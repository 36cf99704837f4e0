import Mathlib.Data.List.Nodup
import Sluice.Config.Load

/-!
# Valid configurations

* `Config.audit_violation_eq_none_iff`: the check finds nothing exactly if no rule is broken;
* `Config.audit_of_ofFile`: the check finds nothing in a configuration that is accepted.
-/

namespace Sluice.Config

/-- The names of the tunnels, in order. -/
def names (c : Config) : List String := c.tunnels.map (·.name)

/-- The addresses at which the tunnels listen, in order. -/
def addresses (c : Config) : List String := c.tunnels.map (·.listenAt)

/-- The check of tunnels finds nothing exactly if each of them is right by itself, and no name and
no address is used again. -/
theorem auditTunnels_violation_eq_none_iff {final : Option Violation}
    {names addresses : List String} {tunnels : List TunnelConfig} :
    (auditTunnels final names addresses tunnels).violation = none ↔
      (∀ t ∈ tunnels, t.violation? = none) ∧
        (tunnels.map (·.name)).Nodup ∧ (∀ t ∈ tunnels, t.name ∉ names) ∧
        (tunnels.map (·.listenAt)).Nodup ∧ (∀ t ∈ tunnels, t.listenAt ∉ addresses) ∧
        final = none := by
  induction tunnels generalizing names addresses with
  | nil => simp [auditTunnels]
  | cons t rest ih =>
    cases hviolation : t.violation? with
    | some violation => simp [auditTunnels, hviolation]
    | none =>
      by_cases hname : t.name ∈ names
      · simp [auditTunnels, hviolation, hname]
      · by_cases haddress : t.listenAt ∈ addresses
        · simp [auditTunnels, hviolation, hname, haddress]
        · -- the name and the address are new, and no later tunnel may use them again
          simp only [auditTunnels, hviolation, if_neg hname, if_neg haddress, ih]
          simp only [List.map_cons, List.nodup_cons, List.mem_map, List.mem_cons, not_or]
          grind

/-- The check finds nothing exactly if no rule is broken. -/
theorem audit_violation_eq_none_iff {c : Config} :
    c.audit.violation = none ↔
      c.tunnels ≠ [] ∧ (∀ t ∈ c.tunnels, t.violation? = none) ∧ c.names.Nodup ∧
        c.addresses.Nodup ∧ c.settings.violation? = none := by
  rw [audit]
  split
  next hempty => simp [List.isEmpty_iff.1 hempty]
  next hsome =>
    rw [List.isEmpty_iff] at hsome
    rw [auditTunnels_violation_eq_none_iff]
    simp [hsome, names, addresses]

/-- A configuration that is read from a file breaks no rule. -/
theorem audit_of_ofFile {path : String} {content : Except Net.IoFault String} {c : Config}
    (h : (ofFile path content).1 = .ok c) : c.audit.violation = none := by
  unfold ofFile ofText at h
  split at h
  · cases h
  · split at h
    · cases h
    · simp only at h
      split at h
      · cases h
      next hnone =>
        cases h
        exact hnone

end Sluice.Config
