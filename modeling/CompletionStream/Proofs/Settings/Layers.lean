import CompletionStream.Proofs.Document.Mappings
import CompletionStream.Settings.Load

/-!
# Layers — one tree of settings over another

What stands under a name of a merged mapping is what the layer above has there, laid over what
the base has there, and the base's where the layer above has nothing: `lookup?_mergeMembers`.
It takes that the layer above names each member once, as all settings do that are read from
files: what the files give for a load is proper (`filed_proper`), and changing a group keeps it
so.
-/

namespace CompletionStream.Settings

open Outcome

-- ── Laying one value over another ──────────────────────────────────────────────────

/-- What stands in a place of two layers, either of which may have nothing there. -/
def laid (base above : Option Value) : Option Value :=
  match above with
  | some v => some (overlay base v)
  | none => base

@[simp] theorem laid_none (base : Option Value) : laid base none = base := rfl

theorem overlay_of_no_mapping (base : Option Value) {v : Value} (h : v.members? = none) :
    overlay base v = v := by
  cases v with
  | dict members => exact nomatch h
  | _ => rfl

theorem overlay_none (v : Value) : overlay none v = v := by
  cases v <;> rfl

/-- **What is found in a merged mapping**: under each key the layers are laid over each
    other. -/
theorem lookup?_mergeMembers (base above : Members) (h : (above.map (·.1.key)).Nodup)
    (key : Value) :
    Members.lookup? (mergeMembers base above) key
      = laid (base.lookup? key) (above.lookup? key) := by
  induction above generalizing base with
  | nil => rfl
  | cons member rest ih =>
      obtain ⟨k, v⟩ := member
      obtain ⟨hfresh, hrest⟩ := List.nodup_cons.mp h
      rw [mergeMembers, ih _ hrest, Members.lookup?_put]
      by_cases hkey : k.key = key.key
      · have habsent : Members.lookup? rest key = none := by
          rw [Members.lookup?, Option.map_eq_none_iff, List.find?_eq_none]
          intro member hmember hsame
          refine hfresh (List.mem_map.mpr ⟨member, hmember, ?_⟩)
          exact (beq_iff_eq.mp hsame).trans hkey.symm
        have hbase : base.lookup? k = base.lookup? key := by
          rw [Members.lookup?, Members.lookup?, hkey]
        have hfound : Members.lookup? ((k, v) :: rest) key = some v := by
          simp [Members.lookup?, hkey]
        rw [if_pos hkey, habsent, hfound, laid_none, laid, hbase]
      · have hskip : Members.lookup? ((k, v) :: rest) key = Members.lookup? rest key := by
          simp [Members.lookup?, hkey]
        rw [if_neg hkey, hskip]

theorem get?_mergeMembers (base above : Members) (h : above.Proper) (name : String) :
    Members.get? (mergeMembers base above) name
      = laid (base.get? name) (above.get? name) :=
  lookup?_mergeMembers base above h.keys (.str name)

-- ── Proper settings ────────────────────────────────────────────────────────────────

/-- Merging keeps a mapping proper, if laying the members over others does. -/
theorem mergeMembers_proper {base above : Members} (hbase : base.Proper)
    (hnames : ∀ member ∈ above, member.1.Proper)
    (hover : ∀ member ∈ above, ∀ under : Option Value, (∀ v ∈ under, v.Proper) →
      (overlay under member.2).Proper) : (mergeMembers base above).Proper := by
  induction above generalizing base with
  | nil => exact hbase
  | cons member rest ih =>
      obtain ⟨key, v⟩ := member
      have hv : (overlay (base.lookup? key) v).Proper :=
        hover (key, v) List.mem_cons_self _ fun _ hfound => hbase.lookup? hfound
      rw [mergeMembers]
      exact ih (hbase.put (hnames (key, v) List.mem_cons_self) hv)
        (fun member hmember => hnames member (List.mem_cons_of_mem _ hmember))
        (fun member hmember => hover member (List.mem_cons_of_mem _ hmember))

theorem overlay_proper {above : Value} (habove : above.Proper) :
    ∀ base : Option Value, (∀ v ∈ base, v.Proper) → (overlay base above).Proper := by
  induction habove with
  | scalar hitems hmembers =>
      intro base _
      rw [overlay_of_no_mapping base hmembers]
      exact .scalar hitems hmembers
  | list hall => exact fun _ _ => .list hall
  | tuple hall => exact fun _ _ => .tuple hall
  | @dict members hkeys hnames hvalues _ ih =>
      intro base hbase
      have hplain : (Value.dict members).Proper := .dict hkeys hnames hvalues
      cases base with
      | none =>
          rw [overlay_none]
          exact hplain
      | some v =>
          cases v with
          | dict own =>
              have hown : Members.Proper own := Value.proper_dict.mp (hbase _ rfl)
              exact Value.proper_dict.mpr (mergeMembers_proper hown hnames ih)
          | _ => exact hplain

theorem pairOf_proper {v : Value} (hv : v.Proper) :
    Yields (fun pair => pair.1.Proper ∧ pair.2.Proper) (pairOf v) := by
  have htwo (items : List Value) (hitems : ∀ item ∈ items, item.Proper) :
      Yields (fun pair => pair.1.Proper ∧ pair.2.Proper) (pairOf.two items) := by
    rw [pairOf.two.eq_def]
    split
    · rename_i a b
      split
      · exact yields_error _
      · exact yields_error _
      · exact yields_ok ⟨hitems a List.mem_cons_self,
          hitems b (List.mem_cons_of_mem _ List.mem_cons_self)⟩
    · exact yields_error _
  cases v with
  | list items => exact htwo items (hv.items rfl)
  | tuple items => exact htwo items (hv.items rfl)
  | str s =>
      refine htwo _ fun item hitem => ?_
      obtain ⟨c, -, rfl⟩ := List.mem_map.mp hitem
      exact Value.proper_str _
  | dict members =>
      refine htwo _ fun item hitem => ?_
      obtain ⟨member, hmember, rfl⟩ := List.mem_map.mp hitem
      exact (Value.proper_dict.mp hv).names member hmember
  | _ => exact yields_error _

/-- Pairs that are put into place one by one make a proper mapping. -/
theorem update_proper {members : Members} (h : members.Proper) {pairs : List (Value × Value)}
    (hpairs : ∀ pair ∈ pairs, pair.1.Proper ∧ pair.2.Proper) :
    (members.update pairs).Proper := by
  induction pairs generalizing members with
  | nil => exact h
  | cons pair rest ih =>
      obtain ⟨hname, hvalue⟩ := hpairs pair List.mem_cons_self
      exact ih (h.put hname hvalue) fun pair hpair => hpairs pair (List.mem_cons_of_mem _ hpair)

theorem asMapping_proper {v : Value} (hv : v.Proper) :
    Yields Members.Proper (asMapping v) := by
  have hpairs {items : List Value} (hitems : ∀ item ∈ items, item.Proper) :
      Yields Members.Proper (items.mapM pairOf >>= fun pairs => pure (Members.ofPairs pairs)) :=
    (Yields.mapM fun item hitem => pairOf_proper (hitems item hitem)).bind
      fun _ hall => yields_ok (update_proper .nil hall)
  cases v with
  | dict members => exact yields_ok (Value.proper_dict.mp hv)
  | list items => exact hpairs (hv.items rfl)
  | tuple items => exact hpairs (hv.items rfl)
  | str s =>
      rw [asMapping]
      split
      · exact yields_ok .nil
      · exact yields_error _
  | _ => exact yields_error _

theorem merge_proper {base above : Value} (hbase : base.Proper) (habove : above.Proper) :
    Yields Value.Proper (merge base above) := by
  refine (asMapping_proper hbase).bind fun own hown => ?_
  cases above with
  | dict members =>
      have hmembers := Value.proper_dict.mp habove
      exact yields_ok (Value.proper_dict.mpr (mergeMembers_proper hown hmembers.names
        fun member hmember => overlay_proper (hmembers.values member hmember)))
  | _ => exact yields_error _

/-- Data that was read from files already names each member once. -/
def Files.Proper (files : Files) : Prop :=
  ∀ path v, (path, Content.data v) ∈ files → v.Proper

theorem Files.proper_data {path : String} {v : Value} (hv : v.Proper) :
    Files.Proper [(path, .data v)] := by
  intro name other hmem
  obtain ⟨-, hother⟩ := Prod.mk.inj (List.mem_singleton.mp hmem)
  rw [Content.data.inj hother]
  exact hv

theorem Files.content?_mem {files : Files} {path : String} {content : Content}
    (h : files.content? path = some content) : ∃ name, (name, content) ∈ files := by
  obtain ⟨file, hfind, rfl⟩ := Option.map_eq_some_iff.mp h
  exact ⟨file.1, List.mem_of_find?_eq_some hfind⟩

theorem loadYaml_proper {files : Files} (hfiles : files.Proper) (path : String) :
    Yields Value.Proper (files.loadYaml path) := by
  have hheld {v : Value} (hv : v.Proper) :
      Yields Value.Proper (.ok (if v.truthy then v else .dict [])) := by
    refine yields_ok ?_
    split
    · exact hv
    · exact Value.proper_dict.mpr .nil
  rw [Files.loadYaml]
  split
  · exact (Document.readYaml_proper _).bind fun _ hv => hheld hv
  · rename_i v hfound
    obtain ⟨name, hmem⟩ := Files.content?_mem hfound
    exact hheld (hfiles name v hmem)
  · split
    · exact yields_error _
    · exact hheld Value.proper_null

/-- A mapping with text keys is proper if no two of them are the same. -/
theorem proper_object {members : List (String × Value)} (hnames : (members.map (·.1)).Nodup)
    (hvalues : ∀ member ∈ members, member.2.Proper) : (Value.object members).Proper := by
  refine .dict ?_ ?_ ?_
  · rw [List.map_map]
    have hkeys : (members.map (·.1)).map (fun name => [Value.KeyPart.text name])
        = members.map ((fun member => member.1.key) ∘
          fun member => (Value.str member.1, member.2)) := by
      rw [List.map_map]
      rfl
    rw [← hkeys]
    exact hnames.map fun a b h => by simpa using h
  · intro member hmember
    obtain ⟨pair, -, rfl⟩ := List.mem_map.mp hmember
    exact Value.proper_str _
  · intro member hmember
    obtain ⟨pair, hpair, rfl⟩ := List.mem_map.mp hmember
    exact hvalues pair hpair

theorem packaged_proper : packaged.Proper := by
  have hscalars {members : List (String × Value)}
      (h : ∀ member ∈ members, member.2.items? = none ∧ member.2.members? = none) :
      ∀ member ∈ members, member.2.Proper :=
    fun member hmember => .scalar (h member hmember).1 (h member hmember).2
  refine proper_object (by decide) ?_
  simp only [List.forall_mem_cons]
  refine ⟨?_, ?_, ?_, fun _ h => absurd h List.not_mem_nil⟩
  all_goals exact proper_object (by decide) (hscalars (by simp [Value.items?, Value.members?]))

/-- What the files give for a load, before any variable sets a field. -/
def filed (path : String) (files : Files) (env : Environment) : Outcome Value :=
  (if path = "" then .ok packaged else files.loadYaml path) >>= overlayStage env files

/-- **What the files give is proper.** -/
theorem filed_proper (path : String) {files : Files} (hfiles : files.Proper)
    (env : Environment) : Yields Value.Proper (filed path files env) := by
  have hbase : Yields Value.Proper (if path = "" then .ok packaged else files.loadYaml path) := by
    split
    · exact yields_ok packaged_proper
    · exact loadYaml_proper hfiles path
  refine hbase.bind fun settings hsettings => ?_
  rw [overlayStage]
  split
  · exact yields_ok hsettings
  · exact (loadYaml_proper hfiles _).bind fun above habove => merge_proper hsettings habove

-- ── Groups of settings ─────────────────────────────────────────────────────────────

/-- The members of a value that may be missing, none if it is no mapping. -/
def membersOf (v : Option Value) : Members :=
  (v.bind Value.members?).getD []

/-- The members of a group of the settings. -/
def groupOf (settings : Value) (group : String) : Members :=
  membersOf (Members.get? (membersOf (some settings)) group)

theorem membersOf_proper {v : Option Value} (h : ∀ value ∈ v, value.Proper) :
    (membersOf v).Proper := by
  cases v with
  | none => exact .nil
  | some value =>
      cases value with
      | dict members => exact Value.proper_dict.mp (h _ rfl)
      | _ => exact .nil

theorem groupOf_proper {settings : Value} (h : settings.Proper) (group : String) :
    (groupOf settings group).Proper :=
  membersOf_proper fun _ hfound =>
    (membersOf_proper (fun _ heq => Option.some.inj heq ▸ h)).lookup? hfound

/-- What a change of a group needs and what it does. -/
theorem changeGroup_eq_ok {group : String} {refusal : Value → Fault}
    {change : Members → Members} {settings changed : Value}
    (h : changeGroup group refusal change settings = .ok changed) :
    ∃ members, settings = .dict members ∧
      changed = .dict (Members.set members group (.dict (change (groupOf settings group)))) := by
  rw [changeGroup.eq_def] at h
  split at h
  · rename_i members
    split at h
    · rename_i inner hinner
      have hgroup : groupOf (.dict members) group = inner := by
        show membersOf (Members.get? members group) = inner
        cases hfound : Members.get? members group with
        | none =>
            rw [hfound] at hinner
            exact Value.dict.inj hinner
        | some v =>
            rw [hfound] at hinner
            rw [show v = .dict inner from hinner]
            rfl
      rw [hgroup]
      exact ⟨members, rfl, (Except.ok.inj h).symm⟩
    · exact nomatch h
  · exact nomatch h

/-- A change of a group changes no other group. -/
theorem groupOf_changeGroup {group : String} {refusal : Value → Fault}
    {change : Members → Members} {settings changed : Value}
    (h : changeGroup group refusal change settings = .ok changed) (other : String) :
    groupOf changed other
      = if group = other then change (groupOf settings group) else groupOf settings other := by
  obtain ⟨members, rfl, rfl⟩ := changeGroup_eq_ok h
  show membersOf (Members.get? (Members.set members group _) other) = _
  rw [Members.get?_set]
  split
  · rfl
  · rfl

theorem changeGroup_proper {group : String} {refusal : Value → Fault}
    {change : Members → Members} {settings changed : Value}
    (h : changeGroup group refusal change settings = .ok changed) (hsettings : settings.Proper)
    (hchange : ∀ inner : Members, inner.Proper → (change inner).Proper) : changed.Proper := by
  have hinner := hchange _ (groupOf_proper hsettings group)
  obtain ⟨members, rfl, rfl⟩ := changeGroup_eq_ok h
  exact Value.proper_dict.mpr ((Value.proper_dict.mp hsettings).put (Value.proper_str group)
    (Value.proper_dict.mpr hinner))

end CompletionStream.Settings
