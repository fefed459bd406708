import CompletionStream.Proofs.Settings.Independence

/-!
# Keys — where the keys of the providers come from

A key is what its variable is set to, whatever the files say.  Where the variable is not set,
the client's group of the files decides with what it holds under the two names of the key, and
nothing else in them does (`keys_agree`): two loads in one environment agree on a key if
the two documents agree under its names, for instance by not naming it at all.  A document that
does name a key determines it (`key_from_file`).
-/

namespace CompletionStream.Settings

open Outcome

/-- In this environment two documents cannot tell a key apart: its variable is set, or the
    client's groups hold the same under its names. -/
def KeyAlike (env : Environment) (key : Override) (document document' : Value) : Prop :=
  (∃ s, env.get? key.variableName = some s) ∨
    ∀ name ∈ key.field.names, (groupOf document key.group.name).get? name
      = (groupOf document' key.group.name).get? name

section

variable {env : Environment} {o : Override} {document document' changed changed' : Value}
  {given given' : Given}

/-- What is given for the field of an override in two readings of one environment. -/
theorem at?_keyAlike (halike : KeyAlike env o document document')
    (hchanged : overrideFields env document = .ok changed)
    (hchanged' : overrideFields env document' = .ok changed')
    (hgiven : o.group.Supplied env changed given) (hgiven' : o.group.Supplied env changed' given')
    (hgroup : o.group ∈ groups) : given.at? o.field.name = given'.at? o.field.name := by
  refine hgiven.at?_congr hgiven' (nodup_names hgroup) o.field_mem rfl rfl fun name hname => ?_
  have howns : o.Owns o.group.name name := ⟨rfl, hname⟩
  cases hset : env.get? o.variableName with
  | some s =>
      rw [get?_overridden_of_set hchanged hset howns, get?_overridden_of_set hchanged' hset howns]
  | none =>
      -- The name is owned by this override alone, so no other one can have touched it.
      have hfree : ∀ o' : Override, o'.Owns o.group.name name →
          env.get? o'.variableName = none := fun o' howns' =>
        Override.eq_of_owns howns' howns ▸ hset
      rw [get?_overridden_of_unset hchanged hfree, get?_overridden_of_unset hchanged' hfree]
      rcases halike with ⟨s, hs⟩ | hnames
      · exact nomatch hset.symm.trans hs
      · exact hnames name hname

end

/-- A document that names no key. -/
def keyless : Value :=
  .object [("logging", .object [("level", .str "WARNING")])]

theorem keyless_proper : keyless.Proper := by
  refine proper_object (by decide) ?_
  simp only [List.forall_mem_cons]
  refine ⟨proper_object (by decide) ?_, fun _ h => absurd h List.not_mem_nil⟩
  simp [Value.proper_str]

/-- **A key is decided by its variable, or by what the client's group holds under its names.**
    Two loads in one environment give the same key if the variable is set, or if the documents
    that the files amount to agree under the two names of the key: no other section of them and
    no other spelling counts. -/
theorem keys_agree {env : Environment} {path path' : String} {files files' : Files}
    (hfiles : files.Proper) (hfiles' : files'.Proper) {document document' : Value}
    (hdocument : filed path files env = .ok document)
    (hdocument' : filed path' files' env = .ok document') {settings settings' : AppSettings}
    (hload : AppSettings.load path files env = .ok settings)
    (hload' : AppSettings.load path' files' env = .ok settings') :
    (KeyAlike env .azureKey document document' →
        settings.client.azureKey = settings'.client.azureKey) ∧
      (KeyAlike env .plainKey document document' →
        settings.client.plainKey = settings'.client.plainKey) := by
  obtain ⟨_, changed, hfiled, hchanged, hread⟩ := load_eq_ok hload
  obtain ⟨_, changed', hfiled', hchanged', hread'⟩ := load_eq_ok hload'
  obtain rfl := Except.ok.inj (hdocument.symm.trans hfiled)
  obtain rfl := Except.ok.inj (hdocument'.symm.trans hfiled')
  have hproper := overrideFields_proper hchanged (filed_proper path hfiles env _ hfiled)
  have hproper' := overrideFields_proper hchanged' (filed_proper path' hfiles' env _ hfiled')
  obtain ⟨given, hgiven, hof⟩ := (AppSettings.readFrom hproper hread).client
  obtain ⟨given', hgiven', hof'⟩ := (AppSettings.readFrom hproper' hread').client
  have hclient := ClientSettings.readFrom hof
  have hclient' := ClientSettings.readFrom hof'
  have hkey {o : Override} (hgroup : o.group = clientGroup)
      (halike : KeyAlike env o document document') {key key' : String}
      (hkey : given.read o.field.name Reader.text "" = .ok key)
      (hkey' : given'.read o.field.name Reader.text "" = .ok key') : key = key' := by
    have hat := at?_keyAlike halike hchanged hchanged' (hgroup ▸ hgiven) (hgroup ▸ hgiven')
      (by simp [groups, hgroup])
    exact Checked.ok.inj (hkey.symm.trans ((Given.read_congr hat).trans hkey'))
  exact ⟨fun halike => hkey rfl halike hclient.azureKey hclient'.azureKey,
    fun halike => hkey rfl halike hclient.plainKey hclient'.plainKey⟩

/-- A document that names one key in both ways and one that names none give the same keys where
    the variable of that one is set. -/
theorem keys_agree_set_and_unnamed :
    let env : Environment := [("AZURE_OPENAI_API_KEY", "sk")]
    let settings := keyed "sk" "DEBUG"
    let settings' := keyed "sk" "WARNING"
    filed "c" [("c", .data twiceKeyed)] env = .ok twiceKeyed ∧
      filed "c" [("c", .data keyless)] env = .ok keyless ∧
      AppSettings.load "c" [("c", .data twiceKeyed)] env = .ok settings ∧
      AppSettings.load "c" [("c", .data keyless)] env = .ok settings' ∧
      KeyAlike env .azureKey twiceKeyed keyless ∧ KeyAlike env .plainKey twiceKeyed keyless ∧
      settings.client.azureKey = settings'.client.azureKey ∧
      settings.client.plainKey = settings'.client.plainKey := by
  intro env settings settings'
  have hfiled : filed "c" [("c", .data twiceKeyed)] env = .ok twiceKeyed :=
    filed_of_data (by decide) rfl (by decide)
  have hfiled' : filed "c" [("c", .data keyless)] env = .ok keyless :=
    filed_of_data (by decide) rfl (by decide)
  have hload : AppSettings.load "c" [("c", .data twiceKeyed)] env = .ok settings :=
    load_of_data (by decide) rfl (by decide) rfl rfl rfl
  have hload' : AppSettings.load "c" [("c", .data keyless)] env = .ok settings' :=
    load_of_data (by decide) rfl (by decide) rfl rfl rfl
  have hset : KeyAlike env .azureKey twiceKeyed keyless := .inl ⟨"sk", rfl⟩
  have hunnamed : KeyAlike env .plainKey twiceKeyed keyless := by
    refine .inr fun name hname => ?_
    rcases List.mem_cons.mp hname with rfl | hname
    · rfl
    · obtain rfl := List.mem_singleton.mp hname
      rfl
  obtain ⟨hazure, hplain⟩ := keys_agree (Files.proper_data twiceKeyed_proper)
    (Files.proper_data keyless_proper) hfiled hfiled' hload hload'
  exact ⟨hfiled, hfiled', hload, hload', hset, hunnamed, hazure hset, hplain hunnamed⟩

/-- **A document determines a key** that it names, where the variable is not set. -/
theorem key_from_file :
    ∃ settings settings' : AppSettings,
      AppSettings.load "c"
        [("c", .data (.object [("client", .object [("api_key", .str "from-yaml")])]))] []
          = .ok settings ∧
      AppSettings.load "c" [("c", .data keyless)] [] = .ok settings' ∧
      settings.client.azureKey = "from-yaml" ∧ settings'.client.azureKey = "" :=
  ⟨keyed "from-yaml" "INFO", keyed "" "WARNING",
    load_of_data (by decide) rfl (by decide) rfl rfl rfl,
    load_of_data (by decide) rfl (by decide) rfl rfl rfl, rfl, rfl⟩

end CompletionStream.Settings
