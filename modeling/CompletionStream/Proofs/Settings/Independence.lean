import CompletionStream.Proofs.Settings.Overrides

/-!
# Independence — an override decides its own field and no other

Two loads whose environments differ only in variables of overrides, all of which the first one
sets, are compared field by field.  A field that was set is read from its variable's value, and
for every other field the same is given in both: neither the settings nor any other way in which
the environment can speak of the field has changed (`Group.overridden`).  So the settings of the
first load are those of the second with the fields that were set (`loaded_override`), from which
it follows that an override wins, touches nothing else and commutes with every other one.
-/

namespace CompletionStream.Settings

open Outcome

/-- The groups of all settings. -/
def groups : List Group := [clientGroup, defaultsGroup, loggingGroup]

-- ── What the names say ─────────────────────────────────────────────────────────────

namespace Override

theorem field_injective {o o' : Override} (h : o.field = o'.field) : o = o' := by
  have hall : ∀ o ∈ all, ∀ o' ∈ all, o.field = o'.field → o = o' := by
    decide
  exact hall o o.mem_all o' o'.mem_all h

theorem variableName_ne_stage (o : Override) : o.variableName ≠ "CHATSTREAM_ENV_PREFIX" := by
  cases o <;> decide

/-- A name of a field is owned by no other field's override. -/
theorem field_eq_of_owns {group : Group} (hgroup : group ∈ groups) {field : Field}
    (hfield : field ∈ group.fields) {name : String} (hname : name ∈ field.names) {o : Override}
    (h : o.Owns group.name name) : o.field = field := by
  have hall : ∀ group ∈ groups, ∀ field ∈ group.fields, ∀ name ∈ field.names, ∀ o ∈ all,
      o.Owns group.name name → o.field = field := by
    decide
  exact hall group hgroup field hfield name hname o o.mem_all h

/-- Whatever the letter case, the variable is no other field's. -/
theorem field_eq_of_lower_eq {group : Group} (hgroup : group ∈ groups) {field : Field}
    (hfield : field ∈ group.fields) {spelled : String × String}
    (hspelled : spelled ∈ group.fieldVariables field) {o : Override}
    (h : Text.lower o.variableName = Text.lower spelled.2) : o.field = field := by
  have hall : ∀ group ∈ groups, ∀ field ∈ group.fields,
      ∀ spelled ∈ group.fieldVariables field, ∀ o ∈ all,
        Text.lower o.variableName = Text.lower spelled.2 → o.field = field := by
    decide +kernel
  exact hall group hgroup field hfield spelled hspelled o o.mem_all h

/-- The variable does not speak of a group as a whole. -/
theorem unnamed {group : Group} (hgroup : group ∈ groups) :
    group.Unnamed (all.map variableName) := by
  have hlower : ∀ o ∈ all, Text.lower o.variableName ∈
      ["chatstream_endpoint", "chatstream_deployment", "chatstream_use_async",
        "azure_openai_api_key", "openai_api_key", "chatstream_log_level"] := by
    decide +kernel
  intro name hname
  obtain ⟨o, ho, rfl⟩ := List.mem_map.mp hname
  have hmem := hlower o ho
  generalize Text.lower o.variableName = lowered at hmem
  have hgroups : Text.lower group.name = group.name ∧
      group.name ∈ ["client", "defaults", "logging"] := by
    have hall : ∀ group ∈ groups, Text.lower group.name = group.name ∧
        group.name ∈ ["client", "defaults", "logging"] := by
      decide +kernel
    exact hall group hgroup
  rw [hgroups.1]
  have hname := hgroups.2
  generalize group.name = name at hname
  simp only [List.mem_cons, List.not_mem_nil, or_false] at hmem hname
  rcases hname with rfl | rfl | rfl <;> rcases hmem with rfl | rfl | rfl | rfl | rfl | rfl <;>
    simp

end Override

theorem nodup_names {group : Group} (hgroup : group ∈ groups) :
    (group.fields.map Field.name).Nodup := by
  have hall : ∀ group ∈ groups, (group.fields.map Field.name).Nodup := by
    decide
  exact hall group hgroup

-- ── Two readings ───────────────────────────────────────────────────────────────────

/-- What is given in one reading of a group is what is given in another, but for the fields
    that overrides set. -/
structure Group.Overridden (group : Group) (texts : Override → Option String)
    (given given' : Given) : Prop where
  set : ∀ o s, o.group = group → texts o = some s →
    given.at? o.field.name = some (o.field.preferredName, o.value s)
  unset : ∀ field ∈ group.fields, (∀ o : Override, o.field = field → texts o = none) →
    given.at? field.name = given'.at? field.name

/-- Two environments of which the first sets the variables of some overrides, and which are the
    same but for these. -/
structure Environment.Overrides (env env' : Environment) (texts : Override → Option String)
    (names : List String) : Prop where
  set : ∀ o s, texts o = some s → env.get? o.variableName = some s
  only : ∀ name ∈ names, ∃ o : Override, o.variableName = name ∧ (texts o).isSome
  same : env.SameBut names env'

section

variable {env env' : Environment} {texts : Override → Option String} {names : List String}
  {settings changed changed' : Value} {given given' : Given}

theorem Environment.Overrides.get?_eq (h : env.Overrides env' texts names) {o : Override}
    (ho : texts o = none) : env.get? o.variableName = env'.get? o.variableName := by
  refine h.same.get? fun hmem => ?_
  obtain ⟨o', hname, hset⟩ := h.only _ hmem
  rw [Override.variableName_injective hname, ho] at hset
  exact Bool.false_ne_true hset

/-- The settings hold the same under names that no changed override owns. -/
theorem get?_overridden_same (h : env.Overrides env' texts names)
    (hchanged : overrideFields env settings = .ok changed)
    (hchanged' : overrideFields env' settings = .ok changed') {group name : String}
    (hfree : ∀ o : Override, o.Owns group name → texts o = none) :
    (groupOf changed group).get? name = (groupOf changed' group).get? name := by
  by_cases hset : ∃ (o : Override) (s : String),
      o.Owns group name ∧ env.get? o.variableName = some s
  · obtain ⟨o, s, howns, hset⟩ := hset
    have hset' : env'.get? o.variableName = some s := (h.get?_eq (hfree o howns)).symm.trans hset
    rw [get?_overridden_of_set hchanged hset howns, get?_overridden_of_set hchanged' hset' howns]
  · have hunset (o : Override) (howns : o.Owns group name) : env.get? o.variableName = none :=
      Option.eq_none_iff_forall_ne_some.mpr fun s hs => hset ⟨o, s, howns, hs⟩
    rw [get?_overridden_of_unset hchanged hunset, get?_overridden_of_unset hchanged'
      fun o howns => (h.get?_eq (hfree o howns)).symm.trans (hunset o howns)]

/-- **What overrides change of what is given**: the fields they set, and nothing else. -/
theorem Group.overridden {group : Group} (hgroup : group ∈ groups)
    (h : env.Overrides env' texts names) (hchanged : overrideFields env settings = .ok changed)
    (hchanged' : overrideFields env' settings = .ok changed')
    (hgiven : group.Supplied env changed given) (hgiven' : group.Supplied env' changed' given') :
    group.Overridden texts given given' where
  set o s hgroup' hs := by
    subst hgroup'
    have hfound : (groupOf changed o.group.name).get? o.field.preferredName
        = some (o.value s) := by
      rw [get?_overridden_of_set hchanged (h.set o s hs) o.owns_preferredName, if_pos rfl]
    exact hgiven.at?_settled (nodup_names hgroup) o.field_mem hfound (o.value_scalar s)
  unset field hfield hfree := by
    have hnames : group.Unnamed names := fun name hname => by
      obtain ⟨o, rfl, -⟩ := h.only name hname
      exact Override.unnamed hgroup _ (List.mem_map_of_mem o.mem_all)
    refine hgiven.at?_congr hgiven' (nodup_names hgroup) hfield
      (group.wholeFrom_sameBut h.same hnames) ?_ ?_
    · refine group.fieldFrom_sameBut h.same fun spelled hspelled name hname hlower => ?_
      obtain ⟨o, rfl, hset⟩ := h.only name hname
      rw [hfree o (Override.field_eq_of_lower_eq hgroup hfield hspelled hlower)] at hset
      exact Bool.false_ne_true hset
    · exact fun name hname => get?_overridden_same h hchanged hchanged' fun o howns =>
        hfree o (Override.field_eq_of_owns hgroup hfield hname howns)

end

-- ── Settings with fields that were set ─────────────────────────────────────────────

/-- The client's settings with the fields that overrides set. -/
def ClientSettings.override (texts : Override → Option String) (s : ClientSettings) :
    ClientSettings :=
  { s with
    endpoint := (texts .endpoint).elim s.endpoint some
    azureKey := (texts .azureKey).elim s.azureKey id
    plainKey := (texts .plainKey).elim s.plainKey id
    deployment := (texts .deployment).elim s.deployment id
    useAsync := (texts .useAsync).elim s.useAsync fun s => switchedOn.contains (Text.lower s) }

/-- The settings of logging with the fields that overrides set. -/
def LogSettings.override (texts : Override → Option String) (s : LogSettings) : LogSettings :=
  { s with level := (texts .logLevel).elim s.level id }

/-- All settings with the fields that overrides set. -/
def AppSettings.override (texts : Override → Option String) (s : AppSettings) : AppSettings where
  client := s.client.override texts
  defaults := s.defaults
  logging := s.logging.override texts

section

variable {α : Type} {texts : Override → Option String} {group : Group} {given given' : Given}
  {read : Reader α} {default a a' : α}

/-- A field that an override can set. -/
theorem Group.Overridden.read_set (h : group.Overridden texts given given') (o : Override)
    (hgroup : o.group = group) {name : String} (hname : o.field.name = name)
    (ha : given.read name read default = .ok a) (ha' : given'.read name read default = .ok a')
    {write : String → α} (hread : ∀ s, read (o.value s) = .ok (write s)) :
    a = (texts o).elim a' write := by
  subst hname
  cases htext : texts o with
  | some s =>
      rw [Given.read_of_at? (h.set o s hgroup htext) (hread s)] at ha
      exact (Checked.ok.inj ha).symm
  | none =>
      have hfree : ∀ o' : Override, o'.field = o.field → texts o' = none := fun o' hsame =>
        Override.field_injective hsame ▸ htext
      rw [Given.read_congr (h.unset o.field (hgroup ▸ o.field_mem) hfree)] at ha
      exact Checked.ok.inj (ha.symm.trans ha')

/-- A field that no override can set. -/
theorem Group.Overridden.read_unset (h : group.Overridden texts given given') (field : Field)
    (hfield : field ∈ group.fields) {name : String} (hname : field.name = name)
    (ha : given.read name read default = .ok a) (ha' : given'.read name read default = .ok a')
    (hfree : ∀ o ∈ Override.all, o.field ≠ field) : a = a' := by
  subst hname
  rw [Given.read_congr (h.unset field hfield fun o ho => absurd ho (hfree o o.mem_all))] at ha
  exact Checked.ok.inj (ha.symm.trans ha')

theorem ClientSettings.eq_override (h : clientGroup.Overridden texts given given')
    {s s' : ClientSettings} (hs : s.ReadFrom given) (hs' : s'.ReadFrom given') :
    s = s'.override texts := by
  have htext (s : String) : Reader.text (.str s) = .ok s := rfl
  obtain ⟨endpoint, azureKey, plainKey, apiVersion, deployment, useAsync, includeUsage, timeout,
    maxRetries, headers⟩ := s
  obtain ⟨endpoint', azureKey', plainKey', apiVersion', deployment', useAsync', includeUsage',
    timeout', maxRetries', headers'⟩ := s'
  rw [ClientSettings.override, ClientSettings.mk.injEq]
  refine ⟨?_, ?_, ?_, ?_, ?_, ?_, ?_, ?_, ?_, ?_⟩
  · exact h.read_set .endpoint rfl rfl hs.endpoint hs'.endpoint fun _ => rfl
  · exact h.read_set .azureKey rfl rfl hs.azureKey hs'.azureKey htext
  · exact h.read_set .plainKey rfl rfl hs.plainKey hs'.plainKey htext
  · exact h.read_unset (.named "api_version") (by decide) rfl hs.apiVersion hs'.apiVersion
      (by decide)
  · exact h.read_set .deployment rfl rfl hs.deployment hs'.deployment htext
  · exact h.read_set .useAsync rfl rfl hs.useAsync hs'.useAsync fun _ => rfl
  · exact h.read_unset (.named "include_usage") (by decide) rfl hs.includeUsage hs'.includeUsage
      (by decide)
  · exact h.read_unset (.named "timeout_seconds") (by decide) rfl hs.timeout hs'.timeout
      (by decide)
  · exact h.read_unset (.named "max_retries") (by decide) rfl hs.maxRetries hs'.maxRetries
      (by decide)
  · exact h.read_unset ⟨"custom_headers", none, .structured⟩ (by decide) rfl hs.headers
      hs'.headers (by decide)

theorem LogSettings.eq_override (h : loggingGroup.Overridden texts given given')
    {s s' : LogSettings} (hs : s.ReadFrom given) (hs' : s'.ReadFrom given') :
    s = s'.override texts := by
  obtain ⟨level, json, requests⟩ := s
  obtain ⟨level', json', requests'⟩ := s'
  rw [LogSettings.override, LogSettings.mk.injEq]
  refine ⟨?_, ?_, ?_⟩
  · exact h.read_set .logLevel rfl rfl hs.level hs'.level fun _ => rfl
  · exact h.read_unset ⟨"json_format", some "json", .plain⟩ (by decide) rfl hs.json hs'.json
      (by decide)
  · exact h.read_unset (.named "log_requests") (by decide) rfl hs.requests hs'.requests
      (by decide)

theorem DefaultSettings.eq_of_overridden (h : defaultsGroup.Overridden texts given given')
    {s s' : DefaultSettings} (hs : DefaultSettings.ofGiven given = .ok s)
    (hs' : DefaultSettings.ofGiven given' = .ok s') : s = s' := by
  have hfree : ∀ field ∈ defaultsGroup.fields, ∀ o ∈ Override.all, o.field ≠ field := by
    decide
  have hsame := DefaultSettings.ofGiven_congr fun field hfield =>
    h.unset field hfield fun o ho => absurd ho (hfree field hfield o o.mem_all)
  exact Checked.ok.inj (hs.symm.trans (hsame.trans hs'))

end

-- ── Two loads ──────────────────────────────────────────────────────────────────────

/-- A load reads what the files give, with the fields that variables set. -/
theorem load_eq (path : String) (files : Files) (env : Environment) :
    AppSettings.load path files env = (filed path files env >>= fun settings =>
      overrideFields env settings >>= AppSettings.read env) := by
  rw [AppSettings.load, filed, bind_assoc]
  split
  · rfl
  · rfl

theorem load_eq_ok {path : String} {files : Files} {env : Environment} {s : AppSettings}
    (h : AppSettings.load path files env = .ok s) :
    ∃ settings changed, filed path files env = .ok settings ∧
      overrideFields env settings = .ok changed ∧ AppSettings.read env changed = .ok s := by
  rw [load_eq] at h
  obtain ⟨settings, hsettings, h⟩ := bind_eq_ok.mp h
  obtain ⟨changed, hchanged, h⟩ := bind_eq_ok.mp h
  exact ⟨settings, changed, hsettings, hchanged, h⟩

/-- **The settings of two loads** whose environments differ only in variables of overrides, all
    of which the first one sets: the fields that were set, and for the rest the same. -/
theorem loaded_override {path : String} {files : Files} (hfiles : files.Proper)
    {env env' : Environment} {texts : Override → Option String} {names : List String}
    (henv : env.Overrides env' texts names) {s s' : AppSettings}
    (h : AppSettings.load path files env = .ok s)
    (h' : AppSettings.load path files env' = .ok s') : s = s'.override texts := by
  obtain ⟨settings, changed, hsettings, hchanged, hread⟩ := load_eq_ok h
  obtain ⟨settings', changed', hsettings', hchanged', hread'⟩ := load_eq_ok h'
  have hstage : env.get? "CHATSTREAM_ENV_PREFIX" = env'.get? "CHATSTREAM_ENV_PREFIX" :=
    henv.same.get? fun hmem => by
      obtain ⟨o, hname, -⟩ := henv.only _ hmem
      exact o.variableName_ne_stage hname
  have hfiled : filed path files env = filed path files env' := by
    unfold filed overlayStage stagePath?
    rw [hstage]
  obtain rfl : settings = settings' :=
    Except.ok.inj (hsettings.symm.trans (hfiled.trans hsettings'))
  have hproper : settings.Proper := filed_proper path hfiles env settings hsettings
  have hfrom := AppSettings.readFrom (overrideFields_proper hchanged hproper) hread
  have hfrom' := AppSettings.readFrom (overrideFields_proper hchanged' hproper) hread'
  obtain ⟨client, hclient, hofClient⟩ := hfrom.client
  obtain ⟨client', hclient', hofClient'⟩ := hfrom'.client
  obtain ⟨defaults, hdefaults, hofDefaults⟩ := hfrom.defaults
  obtain ⟨defaults', hdefaults', hofDefaults'⟩ := hfrom'.defaults
  obtain ⟨logging, hlogging, hofLogging⟩ := hfrom.logging
  obtain ⟨logging', hlogging', hofLogging'⟩ := hfrom'.logging
  have hgroup {group : Group} (hgroup : group ∈ groups) {given given' : Given}
      (hgiven : group.Supplied env changed given)
      (hgiven' : group.Supplied env' changed' given') : group.Overridden texts given given' :=
    Group.overridden hgroup henv hchanged hchanged' hgiven hgiven'
  obtain ⟨_, _, _⟩ := s
  obtain ⟨_, _, _⟩ := s'
  rw [AppSettings.override, AppSettings.mk.injEq]
  refine ⟨?_, ?_, ?_⟩
  · exact ClientSettings.eq_override (hgroup (by simp [groups]) hclient hclient')
      (ClientSettings.readFrom hofClient) (ClientSettings.readFrom hofClient')
  · exact DefaultSettings.eq_of_overridden (hgroup (by simp [groups]) hdefaults hdefaults')
      hofDefaults hofDefaults'
  · exact LogSettings.eq_override (hgroup (by simp [groups]) hlogging hlogging')
      (LogSettings.readFrom hofLogging) (LogSettings.readFrom hofLogging')

-- ── A load worked out ──────────────────────────────────────────────────────────────

/-- Variables of overrides give nothing for a group as a whole. -/
theorem Group.wholeFrom_of_overrides {group : Group} (hgroup : group ∈ groups)
    {env : Environment} (henv : ∀ v ∈ env, v.1 ∈ Override.all.map Override.variableName) :
    group.wholeFrom env = .ok none := by
  have hsame : Environment.SameBut (Override.all.map Override.variableName) env [] := by
    rw [Environment.SameBut, List.filter_nil, List.filter_eq_nil_iff]
    intro v hv
    simpa using henv v hv
  exact (group.wholeFrom_sameBut hsame (Override.unnamed hgroup)).trans rfl

/-- What the one file there is gives, where only overrides are set. -/
theorem filed_of_data {path : String} (hpath : path ≠ "") {v : Value} (hv : v.truthy = true)
    {env : Environment} (henv : ∀ v ∈ env, v.1 ∈ Override.all.map Override.variableName) :
    filed path [(path, .data v)] env = .ok v := by
  have hstage : env.get? "CHATSTREAM_ENV_PREFIX" = none := by
    have habsent : List.find? (·.1 == "CHATSTREAM_ENV_PREFIX") env = none := by
      rw [List.find?_eq_none]
      intro v hv hname
      obtain ⟨o, -, ho⟩ := List.mem_map.mp (henv v hv)
      exact o.variableName_ne_stage (ho.trans (beq_iff_eq.mp hname))
    rw [Environment.get?, habsent]
  have hload : Files.loadYaml [(path, .data v)] path = .ok v := by
    have hcontent : Files.content? [(path, .data v)] path = some (.data v) := by
      simp [Files.content?, Files.samePath]
    rw [Files.loadYaml, hcontent]
    simp [hv]
  rw [filed, if_neg hpath, hload]
  show overlayStage env _ v = .ok v
  rw [overlayStage, stagePath?, hstage]
  rfl

/-- What a file gives for the groups as a whole. -/
def filedGroups (members : Members) : Given :=
  groups.map fun group => (group.name, (members.get? group.name).map fun v => (group.name, v))

/-- A load of one file, where only overrides are set: the groups of the file, with the fields
    that were set, are read one by one. -/
theorem load_of_data {path : String} (hpath : path ≠ "") {v : Value} (hv : v.truthy = true)
    {env : Environment} (henv : ∀ v ∈ env, v.1 ∈ Override.all.map Override.variableName)
    {members : Members} (hchanged : overrideFields env v = .ok (.dict members))
    (htext : (members.all fun member => member.1.text?.isSome) = true) {s : AppSettings}
    (hread : (AppSettings.mk
      <$> groupIn clientGroup env (filedGroups members) ClientSettings.ofGiven
      <*> groupIn defaultsGroup env (filedGroups members) DefaultSettings.ofGiven
      <*> groupIn loggingGroup env (filedGroups members) LogSettings.ofGiven) = .ok s) :
    AppSettings.load path [(path, .data v)] env = .ok s := by
  have hwhole {group : Group} (hgroup : group ∈ groups) : wholeGiven env members group
      = .ok (group.name, (members.get? group.name).map fun v => (group.name, v)) := by
    rw [wholeGiven, Group.wholeFrom_of_overrides hgroup henv]
    cases Members.get? members group.name <;> rfl
  have hgroups : [clientGroup, defaultsGroup, loggingGroup].mapM (wholeGiven env members)
      = .ok (filedGroups members) := by
    have hclient := @hwhole clientGroup (by simp [groups])
    have hdefaults := @hwhole defaultsGroup (by simp [groups])
    have hlogging := @hwhole loggingGroup (by simp [groups])
    simp only [List.mapM_cons, List.mapM_nil, hclient, hdefaults, hlogging]
    rfl
  rw [load_eq, filed_of_data hpath hv henv]
  show overrideFields env v >>= AppSettings.read env = _
  rw [hchanged]
  show AppSettings.read env (.dict members) = _
  rw [AppSettings.read.eq_def]
  dsimp only
  rw [if_pos htext, hgroups]
  exact Checked.toOutcome_eq_ok.mpr hread

/-- Settings of which all but a key and a level are as they are by default. -/
def keyed (key level : String) : AppSettings where
  client := ⟨none, key, "", "2024-10-21", "gpt-35-turbo", true, true, 60.0, 2, []⟩
  defaults :=
    { sampling := ⟨none, none, none, none, none, none, none, none, none⟩
      format := none
      strictSchema := false
      estimatorModel := "gpt-3.5-turbo" }
  logging := ⟨level, true, false⟩

/-- A document that names a key in both ways, and a level. -/
def twiceKeyed : Value :=
  .object
    [("client", .object [("api_key", .str "filed"), ("AZURE_OPENAI_API_KEY", .str "aliased")]),
      ("logging", .object [("level", .str "DEBUG")])]

theorem twiceKeyed_proper : twiceKeyed.Proper := by
  refine proper_object (by decide) ?_
  simp only [List.forall_mem_cons]
  refine ⟨proper_object (by decide) ?_, proper_object (by decide) ?_,
    fun _ h => absurd h List.not_mem_nil⟩
  · simp [Value.proper_str]
  · simp [Value.proper_str]

-- ── One override, and two ──────────────────────────────────────────────────────────

namespace Override

theorem shows_write (o : Override) (s : String) (settings : AppSettings) :
    o.Shows s (o.write s settings) := by
  cases o <;> rfl

/-- Writes to the fields of different overrides commute. -/
theorem write_comm {o o' : Override} (hne : o' ≠ o) (s s' : String) (settings : AppSettings) :
    o.write s (o'.write s' settings) = o'.write s' (o.write s settings) := by
  cases o <;> cases o' <;> first | rfl | exact absurd rfl hne

end Override

/-- The text of one override. -/
def textOf (o : Override) (s : String) : Override → Option String :=
  fun other => if other = o then some s else none

/-- The texts of two overrides. -/
def textsOf (o o' : Override) (s s' : String) : Override → Option String :=
  fun other => if other = o then some s else if other = o' then some s' else none

theorem override_textOf (o : Override) (s : String) (settings : AppSettings) :
    settings.override (textOf o s) = o.write s settings := by
  cases o <;> rfl

theorem override_textsOf (o o' : Override) (s s' : String) (settings : AppSettings) :
    settings.override (textsOf o o' s s') = o.write s (o'.write s' settings) := by
  cases o <;> cases o' <;> rfl

section

variable {env env' : Environment} {o o' : Override} {s s' : String}

theorem Environment.overrides_textOf (hset : env.get? o.variableName = some s)
    (hsame : env.SameBut [o.variableName] env') :
    env.Overrides env' (textOf o s) [o.variableName] where
  set other text htext := by
    rw [textOf] at htext
    split at htext
    · rename_i heq
      rw [heq, ← htext, hset]
    · exact nomatch htext
  only name hname := ⟨o, (List.mem_singleton.mp hname).symm, by simp [textOf]⟩
  same := hsame

theorem Environment.overrides_textsOf (hset : env.get? o.variableName = some s)
    (hset' : env.get? o'.variableName = some s')
    (hsame : env.SameBut [o.variableName, o'.variableName] env') :
    env.Overrides env' (textsOf o o' s s') [o.variableName, o'.variableName] where
  set other text htext := by
    rw [textsOf] at htext
    split at htext
    · rename_i heq
      rw [heq, ← htext, hset]
    · split at htext
      · rename_i heq
        rw [heq, ← htext, hset']
      · exact nomatch htext
  only name hname := by
    rcases List.mem_cons.mp hname with rfl | hname
    · exact ⟨o, rfl, by simp [textsOf]⟩
    · refine ⟨o', (List.mem_singleton.mp hname).symm, ?_⟩
      rw [textsOf]
      split
      · rfl
      · simp
  same := hsame

variable {path : String} {files : Files} {settings settings' : AppSettings}

/-- A load shows what the variable of an override is set to. -/
theorem shows_of_set (hfiles : files.Proper) (hset : env.get? o.variableName = some s)
    (hload : AppSettings.load path files env = .ok settings) : o.Shows s settings := by
  have hself : settings = o.write s settings :=
    (loaded_override hfiles (Environment.overrides_textOf hset rfl) hload hload).trans
      (override_textOf o s settings)
  rw [hself]
  exact o.shows_write s settings

end

end CompletionStream.Settings
