import Sluice.Config.Load
import Sluice.Config.Template
import Sluice.Proofs.Config.RoundTrip
import Sluice.Proofs.Toml.Document

/-!
# Configurations as they are written

A configuration is written as a document with a table for the settings and one for each tunnel. This
file says which documents are laid out in this way, for any names and addresses and any numbers, and
shows that each of them is read as the configuration.

* `Settings.fields`, `TunnelConfig.fields`: what stands in the tables;
* `Config.Layout c text`: the text is laid out as the configuration;
* `Config.document`: one such text for each configuration;
* `Config.Layout.parse_eq`: a text is read as the configuration as which it is laid out;
* `Config.ofText_of_layout`: it is accepted if the configuration breaks no rule.
-/

namespace Sluice

open Toml (IsBare WritesFields WritesTable WritesItems fieldLines headerLine withTable withItems
  sortFields fieldsOf tableData)

variable {rule : ListRule}

/-! ## The settings -/

namespace Settings

variable {s : Settings} {given : List (String × Data)}

/-- The settings that are present, under their keys. -/
def fields (s : Settings) : List (String × Data) :=
  (s.retryIntervalSecs.map fun n => ("retry_interval_secs", .ofUInt64 n)).toList ++
    (s.connectTimeoutSecs.map fun n => ("connect_timeout_secs", .ofUInt64 n)).toList

/-- The table of the settings holds what is present, in any order. It may be missing if nothing
is present. -/
def IsGivenBy (s : Settings) : Option (List (String × Data)) → Prop
  | none => s = {}
  | some given => given.Perm s.fields

theorem usable_fields (s : Settings) :
    Usable ["retry_interval_secs", "connect_timeout_secs"] s.fields := by
  obtain ⟨retry, connect⟩ := s
  constructor <;> cases retry <;> cases connect <;> simp [fields]

/-- What is not among the settings is absent. -/
theorem ofData_fields (s : Settings) : ofData rule (.record s.fields) = .ok s := by
  rw [ofData, Reads.record_eq_ok_iff ?reads ?usable]
  case reads => exact .next _ fun _ => .next _ fun _ => .done _ _
  case usable => exact s.usable_fields
  -- which of the two settings are present decides which fields there are
  obtain ⟨retry, connect⟩ := s
  have hpresent (n : UInt64) : readOptional (.ofUInt64 n) = .ok (some n) :=
    readOptional_ofOptional (some n)
  cases retry <;> cases connect <;>
    simp [fields, Field.among, retryIntervalField, connectTimeoutField, List.lookup_cons, hpresent,
      bind_eq_ok_iff]

/-- Settings are read from their fields, in whatever order these stand. -/
theorem ofData_of_perm (hperm : given.Perm s.fields) : ofData rule (.record given) = .ok s :=
  (roundTrips.readAlike_of_perm s.usable_fields hperm s).2 s.ofData_fields

end Settings

/-! ## The tunnels -/

namespace TunnelConfig

variable {t : TunnelConfig} {given : List (String × Data)}

/-- The keys of the tunnel with their values. -/
def fields (t : TunnelConfig) : List (String × Data) :=
  [("name", .text t.name), ("listen_at", .text t.listenAt), ("connect_to", .text t.connectTo),
    ("tunnel_limit", .ofUInt64 t.tunnelLimit), ("connection_limit", .ofUInt64 t.connectionLimit)]

/-- The table of the tunnel holds all its keys, in any order. -/
def IsGivenBy (t : TunnelConfig) (given : List (String × Data)) : Prop := given.Perm t.fields

theorem usable_fields (t : TunnelConfig) :
    Usable ["name", "listen_at", "connect_to", "tunnel_limit", "connection_limit"] t.fields :=
  ⟨by simp [fields], by simp +contextual [fields]⟩

/-- A tunnel is read from its fields, in whatever order these stand. -/
theorem ofData_of_perm (hperm : given.Perm t.fields) : ofData rule (.record given) = .ok t := by
  have husable := t.usable_fields
  have hread : ofData rule (.record t.fields) = .ok t := by
    rw [ofData, Reads.record_eq_ok_iff ?reads ?usable]
    case reads =>
      exact .next _ fun _ => .next _ fun _ => .next _ fun _ => .next _ fun _ => .next _ fun _ =>
        .done _ _
    case usable => exact husable
    simp [fields, Field.among, nameField, listenAtField, connectToField, tunnelLimitField,
      connectionLimitField, required, List.lookup_cons, readText, readUInt64_ofUInt64,
      bind_eq_ok_iff]
  exact (roundTrips.readAlike_of_perm husable hperm t).2 hread

end TunnelConfig

namespace Config

variable {c : Config} {text : String} {settings : Option (List (String × Data))}
  {tunnels : List (List (String × Data))}

/-- The text is laid out as a configuration: lines that say nothing, then the table of the settings,
which may be missing if nothing is set, and then one table for each tunnel, in order. In each table,
the fields may stand in any order, with lines that say nothing among them. -/
inductive Layout (c : Config) : String → Prop where
  | intro {top table tables : List Char} {settings : Option (List (String × Data))}
    {tunnels : List (List (String × Data))} (htop : WritesFields top [])
    (htable : WritesTable "settings" table settings) (hsettings : c.settings.IsGivenBy settings)
    (htables : WritesItems "tunnels" tables tunnels)
    (htunnels : List.Forall₂ TunnelConfig.IsGivenBy c.tunnels tunnels) :
    Layout c (String.ofList (top ++ (table ++ tables)))

theorem keys_nodup {ts : List TunnelConfig} (h : List.Forall₂ TunnelConfig.IsGivenBy ts tunnels) :
    ∀ given ∈ tunnels, (given.map Prod.fst).Nodup := by
  induction h with
  | nil => nofun
  | @cons t given ts tunnels hfirst _ ih =>
    exact List.forall_mem_cons.2 ⟨(t.usable_fields.perm hfirst).keys, ih⟩

/-- A list of tunnels is read from the tables of the tunnels. -/
theorem readList_tunnels {ts : List TunnelConfig}
    (htunnels : List.Forall₂ TunnelConfig.IsGivenBy ts tunnels) :
    readList (TunnelConfig.ofData rule)
      (.list (tunnels.map fun given => .record (sortFields given))) = .ok ts := by
  apply readList_of_forall₂
  rw [List.forall₂_map_right_iff]
  apply htunnels.imp
  intro t given hgiven
  -- the fields of a table are sorted before they are read
  exact TunnelConfig.ofData_of_perm ((List.mergeSort_perm _ _).trans hgiven)

/-- The fields of a document that has these tables. -/
def tableFields (settings : Option (List (String × Data))) (tunnels : List (List (String × Data))) :
    List (String × Data) :=
  (settings.map fun given => ("settings", .record (sortFields given))).toList ++
    if tunnels = [] then []
    else [("tunnels", .list (tunnels.map fun given => .record (sortFields given)))]

theorem usable_tableFields : Usable ["settings", "tunnels"] (tableFields settings tunnels) := by
  constructor <;> cases settings <;> cases tunnels <;> simp [tableFields]

theorem among_settings (h : c.settings.IsGivenBy settings) :
    (settingsField rule).among (tableFields settings tunnels) = .ok c.settings := by
  cases settings with
  | none =>
    -- without a table, nothing is set
    have hunset : c.settings = {} := h
    cases tunnels <;> simp [tableFields, Field.among, settingsField, List.lookup_cons, hunset]
  | some given =>
    have hread : Settings.ofData rule (.record (sortFields given)) = .ok c.settings :=
      Settings.ofData_of_perm ((List.mergeSort_perm _ _).trans h)
    simpa [tableFields, Field.among, settingsField, List.lookup_cons] using hread

theorem among_tunnels {ts : List TunnelConfig}
    (h : List.Forall₂ TunnelConfig.IsGivenBy ts tunnels) :
    (tunnelsField rule).among (tableFields settings tunnels) = .ok ts := by
  cases h with
  | nil =>
    -- without a table, there is no tunnel
    cases settings <;> simp [tableFields, Field.among, tunnelsField, List.lookup_cons]
  | cons hfirst hrest =>
    have hread := @readList_tunnels rule _ _ (.cons hfirst hrest)
    cases settings <;>
      simpa [tableFields, Field.among, tunnelsField, List.lookup_cons] using hread

/-- A configuration is read from the tables of its settings and its tunnels. -/
theorem ofData_tables (hsettings : c.settings.IsGivenBy settings)
    (htunnels : List.Forall₂ TunnelConfig.IsGivenBy c.tunnels tunnels) :
    ofData rule (tableData (withItems (withTable [] "settings" settings) "tunnels" tunnels)) =
      .ok c := by
  have hfields : fieldsOf (withItems (withTable [] "settings" settings) "tunnels" tunnels) =
      tableFields settings tunnels := by
    rw [Toml.fieldsOf_withItems, Toml.fieldsOf_withTable]
    rfl
  have hread : ofData rule (.record (tableFields settings tunnels)) = .ok c := by
    -- the fields are read in the order of declaration, settings first
    rw [ofData, Reads.record_eq_ok_iff ?reads ?usable]
    case reads => exact .next _ fun _ => .next _ fun _ => .done _ _
    case usable => exact usable_tableFields
    rw [among_settings hsettings, among_tunnels htunnels]
    rfl
  rw [tableData, hfields]
  exact (roundTrips.readAlike_of_perm usable_tableFields (List.mergeSort_perm _ _) c).2 hread

/-- A text that is laid out as a configuration denotes the configuration. -/
theorem Layout.parse_eq (h : Layout c text) : parse text = .ok c := by
  obtain @⟨top, table, tables, settings, tunnels, htop, htable, hsettings, htables, htunnels⟩ := h
  have hkeys (given : List (String × Data)) (hgiven : given ∈ settings) :
      (given.map Prod.fst).Nodup := by
    cases hgiven
    exact (c.settings.usable_fields.perm hsettings).keys
  have habsent : (withTable [] "settings" settings).lookup "tunnels" = none := by
    cases settings <;> rfl
  have hempty : Toml.Draft.close {} = some [] := rfl
  -- the lines on top change nothing, and the tables of the tunnels follow that of the settings
  have hblank : Toml.Leads {} top {} := htop.leads .nil
  obtain ⟨next, hnext, hopen⟩ := htable.exists_leads (by decide) List.lookup_nil hkeys hempty
  have hnone : withItems (withTable [] "settings" settings) "tunnels" [] =
      withTable [] "settings" settings := if_pos rfl
  rw [← hnone] at hopen
  obtain ⟨last, hlast, hclose⟩ :=
    htables.exists_leads (by decide) habsent (keys_nodup htunnels) hopen
  rw [List.nil_append] at hclose
  have hdata := (hblank.append (hnext.append hlast)).ofText?_eq hclose
  simp only [parse, hdata, ofData_tables hsettings htunnels]

/-! ## A document for each configuration -/

/-- The table of the settings, which is left out if nothing is set. -/
def settingsLines (s : Settings) : List Char :=
  if s = {} then [] else headerLine "settings" false ++ fieldLines s.fields

/-- The tables of the tunnels. -/
def tunnelsLines (ts : List TunnelConfig) : List Char :=
  ts.flatMap fun t => headerLine "tunnels" true ++ fieldLines t.fields

/-- A document for the configuration, without lines that say nothing. -/
def document (c : Config) : String :=
  String.ofList (settingsLines c.settings ++ tunnelsLines c.tunnels)

theorem writesFields_settings (s : Settings) : WritesFields (fieldLines s.fields) s.fields := by
  apply Toml.writesFields_fieldLines
  intro field hfield
  simp only [Settings.fields, List.mem_append, Option.mem_toList, Option.map_eq_some_iff] at hfield
  obtain ⟨n, -, rfl⟩ | ⟨n, -, rfl⟩ := hfield
  · exact ⟨show IsBare "retry_interval_secs" by decide, Toml.writesValue_ofUInt64 n⟩
  · exact ⟨show IsBare "connect_timeout_secs" by decide, Toml.writesValue_ofUInt64 n⟩

theorem writesFields_tunnel (t : TunnelConfig) : WritesFields (fieldLines t.fields) t.fields := by
  apply Toml.writesFields_fieldLines
  simp only [TunnelConfig.fields, List.forall_mem_cons]
  refine ⟨⟨?_, Toml.writesValue_text _⟩, ⟨?_, Toml.writesValue_text _⟩,
    ⟨?_, Toml.writesValue_text _⟩, ⟨?_, Toml.writesValue_ofUInt64 _⟩,
    ⟨?_, Toml.writesValue_ofUInt64 _⟩, nofun⟩
  all_goals decide

theorem writesItems_tunnelsLines (ts : List TunnelConfig) :
    WritesItems "tunnels" (tunnelsLines ts) (ts.map (·.fields)) := by
  induction ts with
  | nil => exact .nil
  | cons t ts ih =>
    rw [tunnelsLines, List.flatMap_cons, List.append_assoc]
    exact .cons (writesFields_tunnel t) ih

/-- The document is laid out as the configuration. -/
theorem layout_document (c : Config) : Layout c c.document := by
  have hitems := writesItems_tunnelsLines c.tunnels
  have htunnels : List.Forall₂ TunnelConfig.IsGivenBy c.tunnels (c.tunnels.map (·.fields)) := by
    rw [List.forall₂_map_right_iff, List.forall₂_same]
    exact fun t _ => List.Perm.refl t.fields
  by_cases hunset : c.settings = {}
  · have hlines : settingsLines c.settings = [] := if_pos hunset
    rw [document, hlines]
    exact .intro .nil .absent hunset hitems htunnels
  · have hlines : settingsLines c.settings =
        headerLine "settings" false ++ fieldLines c.settings.fields := if_neg hunset
    rw [document, hlines]
    exact .intro .nil (.present (writesFields_settings c.settings)) (List.Perm.refl _) hitems
      htunnels

/-! ## What is accepted -/

/-- Every configuration that breaks no rule can be written as a document, and every text that is
laid out as the configuration is accepted and read as exactly this configuration, with its tunnels
in order. -/
theorem ofText_of_layout (c : Config) (hvalid : c.audit.violation = none) :
    Layout c c.document ∧ ∀ text, Layout c text → ofText text = (.ok c, c.audit.logs) := by
  refine ⟨layout_document c, fun text hlayout => ?_⟩
  rw [ofText, hlayout.parse_eq]
  simp only [hvalid]

/-- A configuration with texts that need escapes, texts in several scripts and numbers that need all
64 bits. -/
def awkward : Config where
  settings := { connectTimeoutSecs := some 0xffffffffffffffff }
  tunnels :=
    [⟨"a \"b\" \\ c", "\x00\t\r\n\x7f", "隧道 🚇 [[tunnels]]", 0xffffffffffffffff, 1⟩,
      ⟨"'''", "\"", "# name = 1", 1, 0xffffffffffffffff⟩]

/-- The first tunnel that the template shows. -/
def web : TunnelConfig := ⟨"web", "0.0.0.0:8080", "127.0.0.1:80", 1000000, 250000⟩

/-- The second tunnel that the template shows. -/
def database : TunnelConfig :=
  ⟨"database", "127.0.0.1:15432", "10.0.0.5:5432", 5000000, 5000000⟩

/-- The configuration that the template shows. -/
def shown : Config := ⟨⟨some 5, some 10⟩, [web, database]⟩

open Toml in
set_option maxRecDepth 10000 in
/-- The template is laid out as the configuration that it shows. -/
theorem layout_template : Layout shown template := by
  have hempty : BlankLine ['\n'] := @BlankLine.spaces [] nofun
  have hcomment (text : List Char) (htext : text.all isPlain = true) :
      BlankLine ('#' :: (text ++ ['\n'])) :=
    @BlankLine.comment [] text nofun (List.all_eq_true.1 htext)
  have htop : WritesFields _ [] :=
    .blank (hcomment " bw-tunnel configuration".toList (by decide)) (.blank hempty .nil)
  have hsettings : WritesFields _ shown.settings.fields :=
    .blank (hcomment " 监听失败后重新监听的间隔（秒）".toList (by decide)) <|
      .pair (by decide) (writesValue_ofUInt64 5) <|
      .blank (hcomment " 连接远端的超时时间（秒）".toList (by decide)) <|
      .pair (by decide) (writesValue_ofUInt64 10) <|
      .blank hempty <|
      .blank (hcomment " 每个 [[tunnels]] 定义一条隧道，限速单位为字节/秒".toList (by decide)) .nil
  have hweb : WritesFields _ web.fields :=
    .pair (by decide) (writesValue_text _) <|
      .pair (by decide) (writesValue_text _) <|
      .pair (by decide) (writesValue_text _) <|
      .pair (by decide) (writesValue_ofUInt64 _) <|
      .pair (by decide) (writesValue_ofUInt64 _) <|
      .blank hempty .nil
  have hlayout : Layout shown (String.ofList _) :=
    .intro htop (.present hsettings) (List.Perm.refl _)
      (.cons hweb (.cons (writesFields_tunnel database) .nil))
      (.cons (List.Perm.refl _) (.cons (List.Perm.refl _) .nil))
  -- what is left is to compare two texts, character by character
  convert hlayout using 1
  unfold template
  refine congrArg String.ofList ?_
  cbv

theorem ofText_awkward :
    awkward.audit.violation = none ∧
      ofText awkward.document = (.ok awkward, awkward.audit.logs) ∧
      ofText template = (.ok shown, []) := by
  have hvalid : awkward.audit.violation = none := by decide
  obtain ⟨hdocument, hread⟩ := ofText_of_layout awkward hvalid
  exact ⟨hvalid, hread _ hdocument, (ofText_of_layout shown (by decide)).2 _ layout_template⟩

end Config

end Sluice
