import CompletionStream.Proofs.Settings.Given

/-!
# Overrides — variables that set single fields

Six variables each set one field of the settings, whatever the files say and under whichever
name they say it.  An `Override` is such a variable with its field.  Applying one puts its value
under the field's preferred name, removes the field's other name and leaves all other names of
all groups as they were (`Sets`, `sets_apply`); since no two overrides own a name in common, this
carries over to all six of them one after the other (`get?_overridden_of_set` and
`get?_overridden_of_unset`).
-/

namespace CompletionStream.Settings

open Outcome

/-- A variable that sets a single field. -/
inductive Override where
  | endpoint
  | deployment
  | useAsync
  | azureKey
  | plainKey
  | logLevel
  deriving DecidableEq, Repr

namespace Override

/-- All of them, in the order in which they are applied. -/
def all : List Override :=
  [.endpoint, .deployment, .useAsync, .azureKey, .plainKey, .logLevel]

/-- The name of the variable. -/
def variableName : Override → String
  | .endpoint => "CHATSTREAM_ENDPOINT"
  | .deployment => "CHATSTREAM_DEPLOYMENT"
  | .useAsync => "CHATSTREAM_USE_ASYNC"
  | .azureKey => "AZURE_OPENAI_API_KEY"
  | .plainKey => "OPENAI_API_KEY"
  | .logLevel => "CHATSTREAM_LOG_LEVEL"

/-- The group of the field. -/
def group : Override → Group
  | .logLevel => loggingGroup
  | _ => clientGroup

/-- The field. -/
def field : Override → Field
  | .endpoint => .named "endpoint"
  | .deployment => .named "deployment_name"
  | .useAsync => .named "use_async"
  | .azureKey => ⟨"api_key", some "AZURE_OPENAI_API_KEY", .plain⟩
  | .plainKey => ⟨"non_azure_api_key", some "OPENAI_API_KEY", .plain⟩
  | .logLevel => .named "level"

/-- The value that the field is set to. -/
def value : Override → String → Value
  | .useAsync, s => .bool (switchedOn.contains (Text.lower s))
  | _, s => .str s

/-- Sets the field. -/
def apply (o : Override) (s : String) : Value → Outcome Value :=
  match o with
  | .azureKey | .plainKey => setKey o.field.name o.field.preferredName s
  | _ => setField o.group.name o.field.name (o.value s)

/-- Whether a name in a group is one of the field's. -/
def Owns (o : Override) (group name : String) : Prop :=
  o.group.name = group ∧ name ∈ o.field.names

instance (o : Override) (group name : String) : Decidable (o.Owns group name) :=
  inferInstanceAs (Decidable (_ ∧ _))

/-- Settings whose field is set. -/
def write (o : Override) (s : String) (settings : AppSettings) : AppSettings :=
  match o with
  | .endpoint => { settings with client.endpoint := some s }
  | .deployment => { settings with client.deployment := s }
  | .useAsync => { settings with client.useAsync := switchedOn.contains (Text.lower s) }
  | .azureKey => { settings with client.azureKey := s }
  | .plainKey => { settings with client.plainKey := s }
  | .logLevel => { settings with logging.level := s }

/-- The settings show the text that the variable is set to. -/
def Shows (o : Override) (s : String) (settings : AppSettings) : Prop :=
  match o with
  | .endpoint => settings.client.endpoint = some s
  | .deployment => settings.client.deployment = s
  | .useAsync => settings.client.useAsync = switchedOn.contains (Text.lower s)
  | .azureKey => settings.client.azureKey = s
  | .plainKey => settings.client.plainKey = s
  | .logLevel => settings.logging.level = s

theorem mem_all (o : Override) : o ∈ all := by
  cases o <;> decide

theorem nodup_all : all.Nodup := by
  decide

theorem value_scalar (o : Override) (s : String) : (o.value s).members? = none := by
  cases o <;> rfl

theorem field_mem (o : Override) : o.field ∈ o.group.fields := by
  cases o <;> decide

theorem preferredName_mem (o : Override) : o.field.preferredName ∈ o.field.names := by
  cases o <;> decide

theorem owns_preferredName (o : Override) : o.Owns o.group.name o.field.preferredName :=
  ⟨rfl, o.preferredName_mem⟩

/-- No two overrides own a name in common. -/
theorem eq_of_owns {o o' : Override} {group name : String} (h : o.Owns group name)
    (h' : o'.Owns group name) : o = o' := by
  have hnames : ∀ o ∈ all, ∀ o' ∈ all, ∀ name ∈ o.field.names, name ∈ o'.field.names →
      o = o' := by
    decide
  exact hnames o o.mem_all o' o'.mem_all name h.2 h'.2

/-- Different overrides have different variables. -/
theorem variableName_injective {o o' : Override} (h : o.variableName = o'.variableName) :
    o = o' := by
  have hall : ∀ o ∈ all, ∀ o' ∈ all, o.variableName = o'.variableName → o = o' := by
    decide
  exact hall o o.mem_all o' o'.mem_all h

end Override

-- ── One override ───────────────────────────────────────────────────────────────────

theorem get?_setField {group field : String} {v settings changed : Value}
    (h : setField group field v settings = .ok changed) (other name : String) :
    (groupOf changed other).get? name
      = if group = other ∧ field = name then some v
        else (groupOf settings other).get? name := by
  rw [groupOf_changeGroup h other]
  by_cases hgroup : group = other
  · subst hgroup
    simp only [if_true, true_and, Members.get?_set]
  · simp [hgroup]

theorem get?_setKey {field otherName key : String} {settings changed : Value}
    (h : setKey field otherName key settings = .ok changed) (other name : String) :
    (groupOf changed other).get? name
      = if "client" = other ∧ otherName = name then some (.str key)
        else if "client" = other ∧ field = name then none
        else (groupOf settings other).get? name := by
  rw [groupOf_changeGroup h other]
  by_cases hgroup : "client" = other
  · subst hgroup
    simp only [if_true, true_and, Members.get?_set, Members.get?_without]
  · simp [hgroup]

namespace Override

/-- What an override does to settings: its value stands under the preferred name of its field,
    nothing under the other one, and everything else is as it was. -/
def Sets (o : Override) (s : String) (settings changed : Value) : Prop :=
  ∀ group name, (groupOf changed group).get? name
    = if o.Owns group name then
        if name = o.field.preferredName then some (o.value s) else none
      else (groupOf settings group).get? name

section

variable {o : Override} {s : String} {settings changed : Value}

/-- A field of one name. -/
theorem sets_named {field : String} (hfield : o.field = .named field)
    (h : setField o.group.name field (o.value s) settings = .ok changed) :
    o.Sets s settings changed := by
  intro group name
  rw [get?_setField h]
  simp only [Owns, hfield, Field.named, Field.names, Field.preferredName, Option.toList_none,
    List.nil_append, List.mem_singleton, Option.getD_none]
  by_cases hname : name = field
  · simp [hname]
  · simp [hname, Ne.symm hname]

/-- A key, whose field has two names. -/
theorem sets_key {field other : String} (hne : field ≠ other)
    (hfield : o.field = ⟨field, some other, .plain⟩) (hgroup : o.group.name = "client")
    (hvalue : o.value s = .str s) (h : setKey field other s settings = .ok changed) :
    o.Sets s settings changed := by
  intro group name
  rw [get?_setKey h, hvalue]
  simp only [Owns, hfield, hgroup, Field.names, Field.preferredName, Option.toList_some,
    List.singleton_append, List.mem_cons, List.not_mem_nil, or_false, Option.getD_some]
  by_cases hother : name = other
  · simp [hother, hne]
  · by_cases hname : name = field
    · simp [hname, hne, Ne.symm hne]
    · simp [hname, hother, Ne.symm hname, Ne.symm hother]

/-- **What one override does.** -/
theorem sets_apply (h : o.apply s settings = .ok changed) : o.Sets s settings changed := by
  cases o with
  | azureKey => exact sets_key (by decide) rfl rfl rfl h
  | plainKey => exact sets_key (by decide) rfl rfl rfl h
  | _ => exact sets_named rfl h

end

theorem apply_proper {o : Override} {s : String} {settings changed : Value}
    (h : o.apply s settings = .ok changed) (hsettings : settings.Proper) : changed.Proper := by
  have hfield (group field : String) (v : Value) (hv : v.Proper)
      (hchanged : setField group field v settings = .ok changed) : changed.Proper :=
    changeGroup_proper hchanged hsettings fun inner hinner =>
      hinner.put (Value.proper_str field) hv
  have hkey (field other : String) (hchanged : setKey field other s settings = .ok changed) :
      changed.Proper :=
    changeGroup_proper hchanged hsettings fun inner hinner =>
      (hinner.without field).put (Value.proper_str other) (Value.proper_str s)
  cases o with
  | useAsync => exact hfield _ _ _ (Value.proper_bool _) h
  | azureKey => exact hkey _ _ h
  | plainKey => exact hkey _ _ h
  | _ => exact hfield _ _ _ (Value.proper_str s) h

end Override

-- ── All overrides, one after the other ─────────────────────────────────────────────

/-- Applies an override if its variable is set. -/
def overrideStep (env : Environment) (settings : Value) (o : Override) : Outcome Value :=
  whenSet env o.variableName o.apply settings

theorem overrideFields_eq_foldlM (env : Environment) (settings : Value) :
    overrideFields env settings = Override.all.foldlM (overrideStep env) settings := by
  simp only [Override.all, List.foldlM_cons, List.foldlM_nil, bind_pure]
  rfl

section

variable {env : Environment} {settings changed : Value} {o : Override} {s group name : String}

theorem overrideStep_of_set (hset : env.get? o.variableName = some s) :
    overrideStep env settings o = o.apply s settings := by
  rw [overrideStep, whenSet, hset]

theorem overrideStep_of_unset (hunset : env.get? o.variableName = none) :
    overrideStep env settings o = .ok settings := by
  rw [overrideStep, whenSet, hunset]

/-- A step leaves alone what it does not own, and everything if its variable is not set. -/
theorem get?_overrideStep (h : overrideStep env settings o = .ok changed)
    (hfree : o.Owns group name → env.get? o.variableName = none) :
    (groupOf changed group).get? name = (groupOf settings group).get? name := by
  cases hset : env.get? o.variableName with
  | none =>
      rw [overrideStep_of_unset hset] at h
      rw [Except.ok.inj h]
  | some s =>
      rw [overrideStep_of_set hset] at h
      have hother : ¬ o.Owns group name := fun howns => nomatch hset.symm.trans (hfree howns)
      rw [Override.sets_apply h group name, if_neg hother]

theorem overrideStep_proper (h : overrideStep env settings o = .ok changed)
    (hsettings : settings.Proper) : changed.Proper := by
  cases hset : env.get? o.variableName with
  | none =>
      rw [overrideStep_of_unset hset] at h
      exact Except.ok.inj h ▸ hsettings
  | some s =>
      rw [overrideStep_of_set hset] at h
      exact Override.apply_proper h hsettings

/-- What no override owns whose variable is set is as it was before them all. -/
theorem get?_foldlM_of_unset {os : List Override}
    (h : os.foldlM (overrideStep env) settings = .ok changed)
    (hfree : ∀ o ∈ os, o.Owns group name → env.get? o.variableName = none) :
    (groupOf changed group).get? name = (groupOf settings group).get? name := by
  induction os generalizing settings with
  | nil => rw [Except.ok.inj h]
  | cons o rest ih =>
      rw [List.foldlM_cons] at h
      obtain ⟨next, hnext, hrest⟩ := bind_eq_ok.mp h
      rw [ih hrest fun o ho => hfree o (List.mem_cons_of_mem _ ho)]
      exact get?_overrideStep hnext (hfree o List.mem_cons_self)

/-- What an override owns whose variable is set is as the override put it. -/
theorem get?_foldlM_of_set {os : List Override} (hos : os.Nodup) (ho : o ∈ os)
    (h : os.foldlM (overrideStep env) settings = .ok changed)
    (hset : env.get? o.variableName = some s) (howns : o.Owns group name) :
    (groupOf changed group).get? name
      = if name = o.field.preferredName then some (o.value s) else none := by
  induction os generalizing settings with
  | nil => exact absurd ho List.not_mem_nil
  | cons first rest ih =>
      rw [List.foldlM_cons] at h
      obtain ⟨next, hnext, hrest⟩ := bind_eq_ok.mp h
      obtain ⟨hfresh, hnodup⟩ := List.nodup_cons.mp hos
      rcases List.mem_cons.mp ho with rfl | hmem
      · -- No later override owns the name, so what this one put there stays.
        have hlater : ∀ later ∈ rest, later.Owns group name →
            env.get? later.variableName = none := fun later hlater howner =>
          absurd (Override.eq_of_owns howner howns ▸ hlater) hfresh
        rw [overrideStep_of_set hset] at hnext
        rw [get?_foldlM_of_unset hrest hlater, Override.sets_apply hnext group name,
          if_pos howns]
      · exact ih hnodup hmem hrest

theorem overrideFields_proper (h : overrideFields env settings = .ok changed)
    (hsettings : settings.Proper) : changed.Proper := by
  rw [overrideFields_eq_foldlM] at h
  generalize Override.all = os at h
  induction os generalizing settings with
  | nil => exact Except.ok.inj h ▸ hsettings
  | cons o rest ih =>
      rw [List.foldlM_cons] at h
      obtain ⟨next, hnext, hrest⟩ := bind_eq_ok.mp h
      exact ih (overrideStep_proper hnext hsettings) hrest

theorem get?_overridden_of_unset (h : overrideFields env settings = .ok changed)
    (hfree : ∀ o : Override, o.Owns group name → env.get? o.variableName = none) :
    (groupOf changed group).get? name = (groupOf settings group).get? name :=
  get?_foldlM_of_unset (overrideFields_eq_foldlM env settings ▸ h) fun o _ => hfree o

theorem get?_overridden_of_set (h : overrideFields env settings = .ok changed)
    (hset : env.get? o.variableName = some s) (howns : o.Owns group name) :
    (groupOf changed group).get? name
      = if name = o.field.preferredName then some (o.value s) else none :=
  get?_foldlM_of_set Override.nodup_all o.mem_all (overrideFields_eq_foldlM env settings ▸ h)
    hset howns

end

end CompletionStream.Settings
