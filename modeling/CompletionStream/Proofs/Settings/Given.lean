import CompletionStream.Proofs.Schema.Reading
import CompletionStream.Proofs.Settings.Layers
import CompletionStream.Proofs.Settings.Variables

/-!
# Given — what the fields of a group are read from

All settings are read group by group, and a group field by field.  A group's data are the
settings laid over what the environment gives for the group as a whole (`Supplied`), and a field
is read from what these data hold under its names and from the variables of its own.  Hence
what is given for a field is the same in two readings in which these are
(`Supplied.at?_congr`), and a text or a switch that the settings hold under a field's preferred
name is what the field is read from, whatever there is besides (`Supplied.at?_settled`).
-/

namespace CompletionStream.Settings

open Outcome

-- ── What is given ──────────────────────────────────────────────────────────────────

namespace Given

variable {α : Type} {given given' : Given} {name : String} {read : Reader α} {default : α}

/-- What is given for a field, with the name it was given by. -/
def at? (given : Given) (name : String) : Option (String × Value) :=
  (List.find? (·.1 == name) given).bind (·.2)

theorem read_eq (given : Given) (name : String) (read : Reader α) (default : α) :
    given.read name read default = match given.at? name with
      | some (spelled, v) => (read v).under (.name spelled)
      | none => .ok default := by
  rw [Given.read, at?]
  cases List.find? (·.1 == name) given with
  | none => rfl
  | some entry =>
      obtain ⟨_, found⟩ := entry
      cases found with
      | none => rfl
      | some pair => rfl

theorem read_congr (h : given.at? name = given'.at? name) :
    given.read name read default = given'.read name read default := by
  rw [read_eq, read_eq, h]

/-- A field that is given is read from what is given. -/
theorem read_of_at? {spelled : String} {v : Value} (h : given.at? name = some (spelled, v))
    {a : α} (hread : read v = .ok a) : given.read name read default = .ok a := by
  rw [read_eq, h]
  exact Checked.under_eq_ok.mpr hread

end Given

namespace Group

variable {group : Group} {env env' : Environment} {data data' : Members} {given given' : Given}

/-- What is given for a field depends on its names in the data and on its own variables. -/
theorem given_congr {field : Field}
    (hdata : ∀ name ∈ field.names, data.get? name = data'.get? name)
    (henv : group.fieldFrom env field = group.fieldFrom env' field) :
    group.given env data field = group.given env' data' field := by
  have hown : field.names.findSome? (fun name => (data.get? name).map fun v => (name, v))
      = field.names.findSome? fun name => (data'.get? name).map fun v => (name, v) :=
    Environment.findSome?_congr fun name hname => by rw [hdata name hname]
  rw [Group.given, Group.given, hown, henv]

/-- What the data hold under a field's preferred name is what is given for the field, unless it
    is a mapping. -/
theorem given_settled {field : Field} {v : Value}
    (hdata : data.get? field.preferredName = some v) (hv : v.members? = none)
    {found : Option (String × Value)} (h : group.given env data field = .ok found) :
    found = some (field.preferredName, v) := by
  have hown : field.names.findSome? (fun name => (data.get? name).map fun v => (name, v))
      = some (field.preferredName, v) := by
    obtain ⟨name, otherName, shape⟩ := field
    cases otherName with
    | none => simp_all [Field.names, Field.preferredName]
    | some other => simp_all [Field.names, Field.preferredName]
  rw [Group.given, hown] at h
  obtain ⟨outer, -, h⟩ := bind_eq_ok.mp h
  cases outer with
  | none => exact (Except.ok.inj h).symm
  | some pair =>
      have heq := (Except.ok.inj h).symm
      rwa [overlay_of_no_mapping _ hv] at heq

/-- For each field there is what is given for it alone. -/
theorem allGiven_at? (h : group.allGiven env data = .ok given)
    (hnames : (group.fields.map Field.name).Nodup) {field : Field}
    (hfield : field ∈ group.fields) :
    group.given env data field = .ok (given.at? field.name) := by
  rw [allGiven] at h
  split at h
  · generalize group.fields = fields at h hnames hfield
    induction fields generalizing given with
    | nil => exact absurd hfield List.not_mem_nil
    | cons first rest ih =>
        obtain ⟨hfresh, hrest⟩ := List.nodup_cons.mp hnames
        rw [List.mapM_cons] at h
        obtain ⟨entry, hentry, h⟩ := bind_eq_ok.mp h
        obtain ⟨entries, hentries, h⟩ := bind_eq_ok.mp h
        obtain ⟨found, hfound, hpair⟩ := bind_eq_ok.mp hentry
        obtain rfl := Except.ok.inj hpair
        obtain rfl := Except.ok.inj h
        rcases List.mem_cons.mp hfield with rfl | hmem
        · rw [hfound]
          simp [Given.at?]
        · have hne : first.name ≠ field.name := fun hsame =>
            hfresh (List.mem_map.mpr ⟨field, hmem, hsame.symm⟩)
          rw [ih hentries hrest hmem]
          simp [Given.at?, hne]
  · exact nomatch h

-- ── The data of a group ────────────────────────────────────────────────────────────

/-- What is given for a group: its data are the settings, laid over what the environment gives
    for the group as a whole. -/
def Supplied (group : Group) (env : Environment) (settings : Value) (given : Given) : Prop :=
  ∃ (outer : Option Value) (data : Members), group.wholeFrom env = .ok outer ∧
    group.allGiven env data = .ok given ∧
    ∀ name, data.get? name
      = laid ((membersOf outer).get? name) ((groupOf settings group.name).get? name)

namespace Supplied

variable {settings settings' : Value} {field : Field}

/-- **What is given for a field is the same** in two readings, if the settings hold the same
    under the field's names and the environments give the same. -/
theorem at?_congr (h : group.Supplied env settings given)
    (h' : group.Supplied env' settings' given')
    (hnames : (group.fields.map Field.name).Nodup) (hfield : field ∈ group.fields)
    (hwhole : group.wholeFrom env = group.wholeFrom env')
    (henv : group.fieldFrom env field = group.fieldFrom env' field)
    (hsettings : ∀ name ∈ field.names, (groupOf settings group.name).get? name
      = (groupOf settings' group.name).get? name) :
    given.at? field.name = given'.at? field.name := by
  obtain ⟨outer, data, houter, hgiven, hdata⟩ := h
  obtain ⟨outer', data', houter', hgiven', hdata'⟩ := h'
  obtain rfl : outer = outer' := Except.ok.inj (houter.symm.trans (hwhole.trans houter'))
  have hsame : group.given env data field = group.given env' data' field :=
    given_congr (fun name hname => by rw [hdata, hdata', hsettings name hname]) henv
  rw [allGiven_at? hgiven hnames hfield, allGiven_at? hgiven' hnames hfield] at hsame
  exact Except.ok.inj hsame

/-- **What the settings hold under a field's preferred name decides**, unless it is a
    mapping. -/
theorem at?_settled (h : group.Supplied env settings given)
    (hnames : (group.fields.map Field.name).Nodup) (hfield : field ∈ group.fields) {v : Value}
    (hsettings : (groupOf settings group.name).get? field.preferredName = some v)
    (hv : v.members? = none) : given.at? field.name = some (field.preferredName, v) := by
  obtain ⟨outer, data, -, hgiven, hdata⟩ := h
  have hfound : data.get? field.preferredName = some v := by
    rw [hdata, hsettings, laid, overlay_of_no_mapping _ hv]
  exact given_settled hfound hv (allGiven_at? hgiven hnames hfield)

end Supplied

end Group

-- ── Fields that were read ──────────────────────────────────────────────────────────

/-- Each of the client's settings is read from what is given for it. -/
structure ClientSettings.ReadFrom (s : ClientSettings) (given : Given) : Prop where
  endpoint : given.maybe "endpoint" Reader.text = .ok s.endpoint
  azureKey : given.read "api_key" Reader.text "" = .ok s.azureKey
  plainKey : given.read "non_azure_api_key" Reader.text "" = .ok s.plainKey
  apiVersion : given.read "api_version" Reader.text "2024-10-21" = .ok s.apiVersion
  deployment : given.read "deployment_name" Reader.text "gpt-35-turbo" = .ok s.deployment
  useAsync : given.read "use_async" Reader.switch true = .ok s.useAsync
  includeUsage : given.read "include_usage" Reader.switch true = .ok s.includeUsage
  timeout : given.read "timeout_seconds" Reader.decimal 60.0 = .ok s.timeout
  maxRetries : given.read "max_retries" Reader.integer 2 = .ok s.maxRetries
  headers : given.read "custom_headers" (Reader.mappingOf Reader.text) [] = .ok s.headers

theorem ClientSettings.readFrom {s : ClientSettings} {given : Given}
    (h : ClientSettings.ofGiven given = .ok s) : s.ReadFrom given := by
  simp only [ClientSettings.ofGiven, Checked.seq_eq_ok, Checked.map_eq_ok] at h
  obtain ⟨_, _, ⟨_, _, ⟨_, _, ⟨_, _, ⟨_, _, ⟨_, _, ⟨_, _, ⟨_, _, ⟨_, _, ⟨_, hendpoint, rfl⟩,
    hazureKey, rfl⟩, hplainKey, rfl⟩, hapiVersion, rfl⟩, hdeployment, rfl⟩, huseAsync, rfl⟩,
    hincludeUsage, rfl⟩, htimeout, rfl⟩, hmaxRetries, rfl⟩, hheaders, rfl⟩ := h
  exact ⟨hendpoint, hazureKey, hplainKey, hapiVersion, hdeployment, huseAsync, hincludeUsage,
    htimeout, hmaxRetries, hheaders⟩

/-- Each setting of logging is read from what is given for it. -/
structure LogSettings.ReadFrom (s : LogSettings) (given : Given) : Prop where
  level : given.read "level" Reader.text "INFO" = .ok s.level
  json : given.read "json_format" Reader.switch true = .ok s.json
  requests : given.read "log_requests" Reader.switch false = .ok s.requests

theorem LogSettings.readFrom {s : LogSettings} {given : Given}
    (h : LogSettings.ofGiven given = .ok s) : s.ReadFrom given := by
  simp only [LogSettings.ofGiven, Checked.seq_eq_ok, Checked.map_eq_ok] at h
  obtain ⟨_, _, ⟨_, _, ⟨_, hlevel, rfl⟩, hjson, rfl⟩, hrequests, rfl⟩ := h
  exact ⟨hlevel, hjson, hrequests⟩

/-- The defaults are read from what is given for them, and from nothing else. -/
theorem DefaultSettings.ofGiven_congr {given given' : Given}
    (h : ∀ field ∈ defaultsGroup.fields, given.at? field.name = given'.at? field.name) :
    DefaultSettings.ofGiven given = DefaultSettings.ofGiven given' := by
  simp only [defaultsGroup, Field.named, List.forall_mem_cons] at h
  simp only [DefaultSettings.ofGiven, Given.maybe, Given.read_eq, h]

-- ── All settings ───────────────────────────────────────────────────────────────────

/-- What is found in a layered mapping, if there is a mapping at all. -/
theorem get?_membersOf_laid {outer own : Option Value} (hown : ∀ v ∈ own, v.Proper)
    (h : ∀ v ∈ laid outer own, ∃ members, v = .dict members) (name : String) :
    (membersOf (laid outer own)).get? name
      = laid ((membersOf outer).get? name) ((membersOf own).get? name) := by
  cases own with
  | none => rfl
  | some above =>
      obtain ⟨members, hmembers⟩ := h _ rfl
      cases above with
      | dict own =>
          have hproper : Members.Proper own := Value.proper_dict.mp (hown _ rfl)
          have halone : Members.get? own name = laid none (Members.get? own name) := by
            cases Members.get? own name with
            | none => rfl
            | some v => rw [laid, overlay_none]
          cases outer with
          | none => exact halone
          | some base =>
              cases base with
              | dict members => exact get?_mergeMembers members own hproper name
              | _ => exact halone
      | _ => cases hmembers

theorem wholeGiven_eq_ok {env : Environment} {data : Members} {group : Group}
    {pair : String × Option (String × Value)} (h : wholeGiven env data group = .ok pair) :
    ∃ outer, group.wholeFrom env = .ok outer ∧
      pair = (group.name, (laid outer (data.get? group.name)).map fun v => (group.name, v)) := by
  rw [wholeGiven] at h
  obtain ⟨outer, houter, h⟩ := bind_eq_ok.mp h
  refine ⟨outer, houter, ?_⟩
  rw [← Except.ok.inj h]
  cases data.get? group.name with
  | none => rfl
  | some v =>
      cases outer with
      | none => rw [laid, overlay_none]
      | some base => rfl

/-- A group is read as data of its own, or alone where there is no data at all. -/
theorem groupIn_eq {α : Type} {group : Group} {env : Environment} {whole : Given}
    {ofGiven : Given → Checked α} {v : Option Value}
    (hwhole : whole.at? group.name = v.map fun v => (group.name, v)) :
    groupIn group env whole ofGiven = match v with
      | some v => (readGroup group env ofGiven v).under (.name group.name)
      | none =>
        match groupAlone group env ofGiven [] with
        | .ok a => .ok a
        | .error fault => .abandoned fault := by
  rw [groupIn]
  rw [Given.at?] at hwhole
  cases hfind : List.find? (·.1 == group.name) whole with
  | none =>
      rw [hfind] at hwhole
      cases v with
      | none => rfl
      | some v => cases hwhole
  | some entry =>
      obtain ⟨_, found⟩ := entry
      rw [hfind] at hwhole
      cases v with
      | none =>
          obtain rfl : found = none := hwhole
          rfl
      | some v =>
          obtain rfl : found = some (group.name, v) := hwhole
          rfl

/-- A group that was read was given a mapping or nothing, and its fields fit. -/
theorem groupIn_eq_ok {α : Type} {group : Group} {env : Environment} {whole : Given}
    {ofGiven : Given → Checked α} {a : α} (h : groupIn group env whole ofGiven = .ok a)
    {v : Option Value} (hwhole : whole.at? group.name = v.map fun v => (group.name, v)) :
    (∀ value ∈ v, ∃ members, value = .dict members) ∧
      ∃ given, group.allGiven env (membersOf v) = .ok given ∧ ofGiven given = .ok a := by
  rw [groupIn_eq hwhole] at h
  cases v with
  | none =>
      refine ⟨fun _ hv => absurd hv (Option.not_mem_none _), ?_⟩
      dsimp only at h
      split at h
      · rename_i found hread
        obtain rfl := Checked.ok.inj h
        obtain ⟨given, hgiven, hread⟩ := bind_eq_ok.mp hread
        exact ⟨given, hgiven, Checked.toOutcome_eq_ok.mp hread⟩
      · cases h
  | some value =>
      have hread : readGroup group env ofGiven value = .ok a := Checked.under_eq_ok.mp h
      cases value with
      | dict members =>
          refine ⟨fun _ hv => ⟨members, (Option.some.inj hv).symm⟩, ?_⟩
          rw [readGroup, Reader.record] at hread
          split at hread
          · rename_i given hgiven
            exact ⟨given, hgiven, hread⟩
          · split at hread
            · cases hread
            · cases hread
      | _ => cases hread

/-- What all settings were read from: each group from what is given for it. -/
structure AppSettings.ReadFrom (s : AppSettings) (env : Environment) (settings : Value) :
    Prop where
  client : ∃ given, clientGroup.Supplied env settings given ∧
    ClientSettings.ofGiven given = .ok s.client
  defaults : ∃ given, defaultsGroup.Supplied env settings given ∧
    DefaultSettings.ofGiven given = .ok s.defaults
  logging : ∃ given, loggingGroup.Supplied env settings given ∧
    LogSettings.ofGiven given = .ok s.logging

/-- **Settings that could be read** are read group by group. -/
theorem AppSettings.readFrom {env : Environment} {settings : Value}
    (hsettings : settings.Proper) {s : AppSettings} (h : AppSettings.read env settings = .ok s) :
    s.ReadFrom env settings := by
  rw [AppSettings.read.eq_def] at h
  split at h
  · rename_i members
    split at h
    · obtain ⟨whole, hwhole, h⟩ := bind_eq_ok.mp h
      have hgroup {α : Type} {group : Group} {ofGiven : Given → Checked α} {a : α}
          {pair : String × Option (String × Value)}
          (hpair : wholeGiven env members group = .ok pair)
          (hat : Given.at? whole group.name = pair.2)
          (hread : groupIn group env whole ofGiven = .ok a) :
          ∃ given, group.Supplied env (.dict members) given ∧ ofGiven given = .ok a := by
        obtain ⟨outer, houter, rfl⟩ := wholeGiven_eq_ok hpair
        obtain ⟨hdict, given, hgiven, hread⟩ := groupIn_eq_ok hread hat
        refine ⟨given, ⟨outer, _, houter, hgiven, fun name => ?_⟩, hread⟩
        exact get?_membersOf_laid
          (fun _ hfound => (Value.proper_dict.mp hsettings).lookup? hfound) hdict name
      have hnamed {group : Group} {pair : String × Option (String × Value)}
          (hpair : wholeGiven env members group = .ok pair) : pair.1 = group.name := by
        obtain ⟨_, -, rfl⟩ := wholeGiven_eq_ok hpair
        rfl
      simp only [List.mapM_cons, List.mapM_nil, bind_eq_ok] at hwhole
      obtain ⟨client, hclient, _, ⟨defaults, hdefaults, _, ⟨logging, hlogging, _, hnil, hone⟩,
        htwo⟩, hthree⟩ := hwhole
      obtain rfl := Except.ok.inj hnil
      obtain rfl := Except.ok.inj hone
      obtain rfl := Except.ok.inj htwo
      obtain rfl := Except.ok.inj hthree
      simp only [Checked.toOutcome_eq_ok, Checked.seq_eq_ok, Checked.map_eq_ok] at h
      obtain ⟨_, _, ⟨_, _, ⟨_, hreadClient, rfl⟩, hreadDefaults, rfl⟩, hreadLogging, rfl⟩ := h
      constructor
      · exact hgroup hclient (by simp [Given.at?, hnamed hclient]) hreadClient
      · exact hgroup hdefaults (by
          simp [Given.at?, hnamed hclient, hnamed hdefaults, clientGroup, defaultsGroup])
          hreadDefaults
      · exact hgroup hlogging (by
          simp [Given.at?, hnamed hclient, hnamed hdefaults, hnamed hlogging, clientGroup,
            defaultsGroup, loggingGroup]) hreadLogging
    · cases h
  · cases h

end CompletionStream.Settings
