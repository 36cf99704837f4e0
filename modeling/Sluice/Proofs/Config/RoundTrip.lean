import Sluice.Config.Basic
import Sluice.Proofs.Data.Record

/-!
# Configurations and counters as plain data

What is written as plain data is read as the same again, and the form of a record does not matter.

* `Settings.roundTrips`, `TunnelConfig.roundTrips`, `Config.roundTrips`, `Limits.roundTrips` and
  `TunnelStats.roundTrips`: this holds for each kind of record;
* `Config.roundTrips_all`: it holds for all of them, and the forms of nested records may be mixed.
-/

namespace Sluice

variable {rule : ListRule}

theorem Settings.roundTrips :
    RoundTrips ["retry_interval_secs", "connect_timeout_secs"] (ofData rule) toData := by
  refine Reads.roundTrips ?reads rfl fun s => ⟨_, rfl, ⟨by simp, by simp⟩, ?named⟩
  case reads => exact .next _ fun _ => .next _ fun _ => .done _ _
  case named =>
    simp [Field.among, retryIntervalField, connectTimeoutField, List.lookup_cons,
      readOptional_ofOptional, bind_eq_ok_iff]

theorem TunnelConfig.roundTrips :
    RoundTrips ["name", "listen_at", "connect_to", "tunnel_limit", "connection_limit"]
      (ofData rule) toData := by
  refine Reads.roundTrips ?reads rfl fun t => ⟨_, rfl, ⟨by simp, by simp +contextual⟩, ?named⟩
  case reads =>
    exact .next _ fun _ => .next _ fun _ => .next _ fun _ => .next _ fun _ => .next _ fun _ =>
      .done _ _
  case named =>
    simp [Field.among, nameField, listenAtField, connectToField, tunnelLimitField,
      connectionLimitField, required, List.lookup_cons, readText, readUInt64_ofUInt64,
      bind_eq_ok_iff]

theorem Limits.roundTrips :
    RoundTrips ["tunnel_limit", "connection_limit"] (ofData rule) toData := by
  refine Reads.roundTrips ?reads rfl fun l => ⟨_, rfl, ⟨by simp, by simp +contextual⟩, ?named⟩
  case reads => exact .next _ fun _ => .next _ fun _ => .done _ _
  case named =>
    simp [Field.among, tunnelField, connectionField, required, List.lookup_cons,
      readUInt64_ofUInt64, bind_eq_ok_iff]

theorem TunnelStats.roundTrips :
    RoundTrips ["name", "listen_at", "connect_to", "total_connections", "active_connections",
      "bytes_upstream", "bytes_downstream", "start_time"] (ofData rule) toData := by
  refine Reads.roundTrips ?reads rfl fun s => ⟨_, rfl, ⟨by simp, by simp +contextual⟩, ?named⟩
  case reads =>
    exact .next _ fun _ => .next _ fun _ => .next _ fun _ => .next _ fun _ => .next _ fun _ =>
      .next _ fun _ => .next _ fun _ => .next _ fun _ => .done _ _
  case named =>
    simp [Field.among, nameField, listenAtField, connectToField, totalConnectionsField,
      activeConnectionsField, bytesUpstreamField, bytesDownstreamField, startTimeField, required,
      List.lookup_cons, readText, readUInt64_ofUInt64, bind_eq_ok_iff]

/-! ## Lists of records -/

/-- A list is read value by value. -/
theorem readList_of_forall₂ {α : Type} {read : Data → Except Fault α} {vs : List α}
    {ds : List Data} (hread : List.Forall₂ (fun v d => read d = .ok v) vs ds) :
    readList read (.list ds) = .ok vs := by
  induction hread with
  | nil => rfl
  | @cons v d vs ds hfirst _ ih =>
    rw [readList] at ih ⊢
    rw [List.mapM_cons, hfirst, bind_eq_ok_iff]
    exact ⟨v, rfl, by rw [ih]; rfl⟩

/-- A list of values that are read as they are written is read as it is written. -/
theorem readList_map {α : Type} {read : Data → Except Fault α} {write : α → Data}
    (hread : ∀ v, read (write v) = .ok v) (vs : List α) :
    readList read (.list (vs.map write)) = .ok vs := by
  apply readList_of_forall₂
  rw [List.forall₂_map_right_iff, List.forall₂_same]
  exact fun v _ => hread v

/-- Lists whose values are read alike, one by one, are read alike. -/
theorem readAlike_readList {α : Type} {read : Data → Except Fault α} {ds ds' : List Data}
    (halike : List.Forall₂ (ReadAlike read) ds ds') :
    ReadAlike (readList read) (.list ds) (.list ds') := by
  unfold ReadAlike readList
  induction halike with
  | nil => exact fun _ => Iff.rfl
  | cons hfirst _ ih =>
    intro vs
    simp only [List.mapM_cons, bind_eq_ok_iff, hfirst _, ih _]

namespace Config

theorem roundTrips : RoundTrips ["settings", "tunnels"] (ofData rule) toData := by
  refine Reads.roundTrips ?reads rfl fun c => ⟨_, rfl, ⟨by simp, by simp⟩, ?named⟩
  case reads => exact .next _ fun _ => .next _ fun _ => .done _ _
  case named =>
    simp [Field.among, settingsField, tunnelsField, List.lookup_cons, Settings.roundTrips.written,
      readList_map TunnelConfig.roundTrips.written, bind_eq_ok_iff]

/-- The settings and the tunnels of a configuration may be replaced by others that are read
alike. -/
theorem readAlike_of_nested {settings settings' : Data} {tunnels tunnels' : List Data}
    (hsettings : ReadAlike (Settings.ofData rule) settings settings')
    (htunnels : List.Forall₂ (ReadAlike (TunnelConfig.ofData rule)) tunnels tunnels') :
    ReadAlike (ofData rule) (.list [settings, .list tunnels])
      (.list [settings', .list tunnels']) := by
  intro c
  have hlist := readAlike_readList htunnels
  rw [ofData, Reads.list_eq_ok_iff (by simp), Reads.list_eq_ok_iff (by simp)]
  simp only [bind_eq_ok_iff, Field.nth, settingsField, tunnelsField, List.getElem?_cons_zero,
    List.getElem?_cons_succ, hsettings _, hlist _]

/-- Configurations, tunnels, settings, limits and snapshots of counters are read as they are
written, and it does not matter in which of the two forms they come, in which order their names
stand, and what else stands among them. In a configuration, each part may come in either form. -/
theorem roundTrips_all (rule : ListRule) :
    RoundTrips ["settings", "tunnels"] (ofData rule) toData ∧
      RoundTrips ["name", "listen_at", "connect_to", "tunnel_limit", "connection_limit"]
        (TunnelConfig.ofData rule) TunnelConfig.toData ∧
      RoundTrips ["retry_interval_secs", "connect_timeout_secs"] (Settings.ofData rule)
        Settings.toData ∧
      RoundTrips ["tunnel_limit", "connection_limit"] (Limits.ofData rule) Limits.toData ∧
      RoundTrips ["name", "listen_at", "connect_to", "total_connections", "active_connections",
        "bytes_upstream", "bytes_downstream", "start_time"] (TunnelStats.ofData rule)
        TunnelStats.toData ∧
      ∀ settings settings' tunnels tunnels', ReadAlike (Settings.ofData rule) settings settings' →
        List.Forall₂ (ReadAlike (TunnelConfig.ofData rule)) tunnels tunnels' →
        ReadAlike (ofData rule) (.list [settings, .list tunnels])
          (.list [settings', .list tunnels']) :=
  ⟨roundTrips, TunnelConfig.roundTrips, Settings.roundTrips, Limits.roundTrips,
    TunnelStats.roundTrips, fun _ _ _ _ => readAlike_of_nested⟩

end Config

end Sluice
