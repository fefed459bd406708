import CompletionStream.Proofs.Document.Updates
import CompletionStream.Proofs.Settings.Layers

/-!
# Paths — a merged tree, said path by path

What a merged tree holds at a path of keys is said by what the two trees hold there.  Where the
layer above holds something, it is laid over what the base holds at the same path, however deep
it stands (`at?_overlay`).  Where the layer above holds nothing, what counts is whether
something other than a mapping stands on the way there: then the base is cut off (`Blocks`), and
otherwise it shows through.

A merge is an update of the base by the members of the layer above, each laid over what the base
has under its key (`mergeMembers_eq_update`), so that the keys of the base keep their order and
new ones follow.  Laying the same layer over the result once more finds in each place what it
would put there (`overlay_again`).
-/

namespace CompletionStream

/-- What stands at a path of keys. -/
def Value.at? : List Value → Value → Option Value
  | [], v => some v
  | key :: path, .dict members => (Members.lookup? members key).bind (at? path)
  | _ :: _, _ => none

namespace Value

theorem at?_nil (v : Value) : v.at? [] = some v := by
  rw [at?]

theorem at?_dict (members : Members) (key : Value) (path : List Value) :
    (Value.dict members).at? (key :: path) = (members.lookup? key).bind (at? path) := by
  rw [at?]

/-- Nothing stands inside what is no mapping. -/
theorem at?_of_no_mapping {v : Value} (h : v.members? = none) (key : Value) (path : List Value) :
    v.at? (key :: path) = none := by
  cases v with
  | dict members => exact nomatch h
  | _ => rfl

/-- What stands at a path of a proper value is proper. -/
theorem Proper.at? {v : Value} (h : v.Proper) {path : List Value} {inner : Value}
    (hinner : v.at? path = some inner) : inner.Proper := by
  induction path generalizing v with
  | nil => exact Option.some.inj hinner ▸ h
  | cons key path ih =>
      cases v with
      | dict members =>
          rw [at?_dict] at hinner
          obtain ⟨next, hnext, hinner⟩ := Option.bind_eq_some_iff.mp hinner
          exact ih ((proper_dict.mp h).lookup? hnext) hinner
      | _ => exact nomatch hinner

/-- A longer path goes on from where a shorter one leads. -/
theorem at?_append (front path : List Value) (v : Value) :
    v.at? (front ++ path) = (v.at? front).bind (at? path) := by
  induction front generalizing v with
  | nil => rfl
  | cons key front ih =>
      cases v with
      | dict members =>
          rw [List.cons_append, at?_dict, at?_dict, Option.bind_assoc]
          exact congrArg _ (funext ih)
      | _ => rfl

end Value

namespace Settings

open Members

-- ── A merge as an update ───────────────────────────────────────────────────────────

/-- The members of a layer, each laid over what the base has under its key. -/
def overlaid (base above : Members) : Members :=
  above.map fun member => (member.1, overlay (base.lookup? member.1) member.2)

theorem keys_overlaid (base above : Members) : (overlaid base above).keys = above.keys := by
  rw [overlaid, keys, List.map_map]
  rfl

/-- **A merge puts the members of the layer above into the base**, each laid over what was
    there at first. -/
theorem mergeMembers_eq_update {above : Members} (h : above.keys.Nodup) (base : Members) :
    mergeMembers base above = base.update (overlaid base above) := by
  induction above generalizing base with
  | nil => rfl
  | cons member rest ih =>
      obtain ⟨key, v⟩ := member
      obtain ⟨hfresh, hrest⟩ : key.key ∉ keys rest ∧ (keys rest).Nodup := List.nodup_cons.mp h
      have hsame : overlaid (base.put key (overlay (base.lookup? key) v)) rest
          = overlaid base rest := by
        refine List.map_congr_left fun member hmember => ?_
        rw [lookup?_put, if_neg (key_ne_of_mem hfresh hmember)]
      rw [mergeMembers, ih hrest, hsame]
      rfl

/-- The keys of the base stay as they are, and new ones follow. -/
theorem map_fst_mergeMembers {base above : Members} (hbase : base.keys.Nodup)
    (habove : above.keys.Nodup) :
    (mergeMembers base above).map (·.1)
      = base.map (·.1) ++ (above.filter fun member => base.lacks member.1).map (·.1) := by
  have hlaid : (overlaid base above).keys.Nodup := keys_overlaid base above ▸ habove
  rw [mergeMembers_eq_update habove, update_eq hbase hlaid, List.map_append, List.map_map,
    overlaid, List.filter_map, List.map_map]
  rfl

/-- A layer over nothing is itself. -/
theorem mergeMembers_nil {above : Members} (h : above.keys.Nodup) :
    mergeMembers [] above = above := by
  have hlaid : overlaid [] above = above := by
    refine (List.map_congr_left fun member _ => ?_).trans (List.map_id above)
    exact Prod.ext rfl (overlay_none member.2)
  rw [mergeMembers_eq_update h, hlaid, update_nil h]

/-- A mapping is merged with whatever members the base has. -/
theorem overlay_dict {above : Members} (h : above.keys.Nodup) (base : Option Value) :
    overlay base (.dict above) = .dict (mergeMembers (membersOf base) above) := by
  have hnone : Value.dict above = .dict (mergeMembers [] above) :=
    congrArg Value.dict (mergeMembers_nil h).symm
  cases base with
  | none => exact hnone
  | some v =>
      cases v with
      | dict own => rfl
      | _ => exact hnone

-- ── The same layer once more ───────────────────────────────────────────────────────

/-- Putting into place what stands there changes nothing. -/
theorem put_of_lookup? {members : Members} {key v : Value} (h : members.lookup? key = some v) :
    members.put key v = members := by
  induction members with
  | nil => exact nomatch h
  | cons first rest ih =>
      obtain ⟨k, old⟩ := first
      rw [lookup?_cons] at h
      rw [put]
      by_cases hkey : k.key = key.key
      · rw [if_pos hkey] at h
        rw [if_pos (beq_iff_eq.mpr hkey), ← Option.some.inj h]
      · rw [if_neg hkey] at h
        rw [if_neg (fun hsame => hkey (beq_iff_eq.mp hsame)), ih h]

/-- A layer is absorbed where each of its members changes nothing. -/
theorem mergeMembers_absorbed {members above : Members}
    (h : ∀ member ∈ above, ∃ v, members.lookup? member.1 = some v
      ∧ overlay (some v) member.2 = v) : mergeMembers members above = members := by
  induction above with
  | nil => rfl
  | cons member rest ih =>
      obtain ⟨v, hfound, hkept⟩ := h member List.mem_cons_self
      rw [mergeMembers, hfound, hkept, put_of_lookup? hfound]
      exact ih fun member hmember => h member (List.mem_cons_of_mem _ hmember)

/-- **A layer that was laid over something already changes nothing.** -/
theorem overlay_again {above : Value} (h : above.Proper) (base : Option Value) :
    overlay (some (overlay base above)) above = overlay base above := by
  induction h generalizing base with
  | scalar _ hmembers => rw [overlay_of_no_mapping _ hmembers, overlay_of_no_mapping _ hmembers]
  | list => rfl
  | tuple => rfl
  | @dict members hkeys hnames hvalues _ ih =>
      -- Under each of its keys the layer finds what it left there, whatever the base had.
      rw [overlay_dict hkeys base, overlay_dict hkeys]
      refine congrArg Value.dict (mergeMembers_absorbed fun member hmember => ?_)
      have hfound : Members.lookup? members member.1 = some member.2 :=
        lookup?_of_mem hkeys hmember rfl
      refine ⟨overlay ((membersOf base).lookup? member.1) member.2, ?_, ih member hmember _⟩
      exact (lookup?_mergeMembers (membersOf base) members hkeys member.1).trans
        (by rw [hfound]; rfl)

-- ── Path by path ───────────────────────────────────────────────────────────────────

/-- Laying a mapping over something and going down one step. -/
theorem at?_overlay_dict {above : Members} (h : above.keys.Nodup) (base : Option Value)
    (key : Value) (path : List Value) :
    (overlay base (.dict above)).at? (key :: path)
      = (laid ((membersOf base).lookup? key) (above.lookup? key)).bind (Value.at? path) := by
  rw [overlay_dict h, Value.at?_dict, lookup?_mergeMembers _ _ h]

/-- What stands at a path of something that may be missing. -/
theorem bind_at? (base : Option Value) (key : Value) (path : List Value) :
    base.bind (Value.at? (key :: path))
      = ((membersOf base).lookup? key).bind (Value.at? path) := by
  cases base with
  | none => rfl
  | some v =>
      cases v with
      | dict own => rfl
      | _ => rfl

/-- **Where the layer above holds something**, it is laid over what the base holds there. -/
theorem at?_overlay {above : Value} (h : above.Proper) {path : List Value} {v : Value}
    (hv : above.at? path = some v) (base : Option Value) :
    (overlay base above).at? path = some (overlay (base.bind (Value.at? path)) v) := by
  induction path generalizing above base with
  | nil =>
      obtain rfl := Option.some.inj hv
      have hwhole : base.bind (Value.at? []) = base := by
        cases base with
        | none => rfl
        | some v => exact Value.at?_nil v
      rw [hwhole]
      rfl
  | cons key path ih =>
      cases above with
      | dict members =>
          have hmembers := Value.proper_dict.mp h
          rw [Value.at?_dict] at hv
          obtain ⟨inner, hinner, hv⟩ := Option.bind_eq_some_iff.mp hv
          rw [at?_overlay_dict hmembers.keys, bind_at?, hinner]
          exact ih (hmembers.lookup? hinner) hv _
      | _ => exact nomatch hv

/-- Something other than a mapping stands on the way to a path. -/
def Blocks (above : Value) (path : List Value) : Prop :=
  ∃ front, front <+: path ∧ front ≠ path ∧ ∃ v, above.at? front = some v ∧ v.members? = none

/-- A way that is blocked further down is blocked. -/
theorem Blocks.under {members : Members} {key : Value} {inner : Value} {path : List Value}
    (hinner : members.lookup? key = some inner) (h : Blocks inner path) :
    Blocks (.dict members) (key :: path) := by
  obtain ⟨front, hfront, hne, v, hv, hscalar⟩ := h
  refine ⟨key :: front, List.prefix_cons_inj key |>.mpr hfront, ?_, v, ?_, hscalar⟩
  · exact fun heq => hne (List.cons.inj heq).2
  · rw [Value.at?_dict, hinner]
    exact hv

/-- **Where the way is blocked**, nothing is left. -/
theorem at?_overlay_blocked {above : Value} (h : above.Proper) {path : List Value}
    (hblocks : Blocks above path) (base : Option Value) :
    (overlay base above).at? path = none := by
  obtain ⟨front, ⟨rest, rfl⟩, hne, v, hv, hscalar⟩ := hblocks
  rw [Value.at?_append, at?_overlay h hv, overlay_of_no_mapping _ hscalar]
  cases rest with
  | nil => exact absurd (List.append_nil front).symm hne
  | cons key rest => exact Value.at?_of_no_mapping hscalar key rest

/-- **Where the layer above holds nothing** and the way is not blocked, the base shows
    through. -/
theorem at?_overlay_through {above : Value} (h : above.Proper) {path : List Value}
    (hnone : above.at? path = none) (hfree : ¬ Blocks above path) (base : Option Value) :
    (overlay base above).at? path = base.bind (Value.at? path) := by
  induction path generalizing above base with
  | nil => exact nomatch hnone
  | cons key path ih =>
      cases above with
      | dict members =>
          have hmembers := Value.proper_dict.mp h
          rw [at?_overlay_dict hmembers.keys, bind_at?]
          cases hinner : Members.lookup? members key with
          | none => rfl
          | some inner =>
              rw [Value.at?_dict, hinner] at hnone
              have hinnerFree : ¬ Blocks inner path := fun hblocks => hfree (hblocks.under hinner)
              exact ih (hmembers.lookup? hinner) hnone hinnerFree _
      | _ => exact absurd ⟨[], List.nil_prefix, nofun, _, rfl, rfl⟩ hfree

/-- What a merged tree holds at a path, by what the two trees hold there. -/
structure MergedAt (base above merged : Value) (path : List Value) : Prop where
  /-- Where both hold mappings there is one with the keys of both, those of the base first. -/
  both : ∀ own members : Members, base.at? path = some (.dict own) →
    above.at? path = some (.dict members) →
    ∃ joined, merged.at? path = some (.dict joined)
      ∧ joined.map (·.1)
        = own.map (·.1) ++ (members.filter fun member => own.lacks member.1).map (·.1)
  replaced : ∀ v, above.at? path = some v →
    ¬ (∃ own members, base.at? path = some (.dict own) ∧ v = .dict members) →
    merged.at? path = some v
  through : above.at? path = none → ¬ Blocks above path → merged.at? path = base.at? path
  blocked : above.at? path = none → Blocks above path → merged.at? path = none
  /-- What the base holds is lost only if it, or something it stands in, is replaced. -/
  lost : ∀ v, base.at? path = some v → merged.at? path ≠ some v →
    (∃ w, above.at? path = some w) ∨ Blocks above path
  known : ∀ v, merged.at? path = some v →
    (∃ w, base.at? path = some w) ∨ ∃ w, above.at? path = some w

theorem mergedAt_overlay {base above : Value} (hbase : base.Proper) (habove : above.Proper)
    (path : List Value) : MergedAt base above (overlay (some base) above) path where
  both own members hown hmembers := by
    have hwas : (some base).bind (Value.at? path) = some (.dict own) := hown
    refine ⟨mergeMembers own members, ?_, ?_⟩
    · rw [at?_overlay habove hmembers, hwas]
      rfl
    · exact map_fst_mergeMembers (Value.proper_dict.mp (hbase.at? hown)).keys
        (Value.proper_dict.mp (habove.at? hmembers)).keys
  replaced v hv hnot := by
    rw [at?_overlay habove hv]
    cases v with
    | dict members =>
        cases hwas : base.at? path with
        | none => rw [Option.bind_some, hwas, overlay_none]
        | some w =>
            cases w with
            | dict own => exact absurd ⟨own, members, hwas, rfl⟩ hnot
            | _ => rw [Option.bind_some, hwas]; rfl
    | _ => rfl
  through hnone hfree := at?_overlay_through habove hnone hfree (some base)
  blocked _ hblocks := at?_overlay_blocked habove hblocks (some base)
  lost v hv hlost := by
    by_cases hblocks : Blocks above path
    · exact .inr hblocks
    · cases habsent : above.at? path with
      | some w => exact .inl ⟨w, rfl⟩
      | none =>
          have hthrough := at?_overlay_through habove habsent hblocks (some base)
          exact absurd (hthrough.trans hv) hlost
  known v hv := by
    cases habsent : above.at? path with
    | some w => exact .inr ⟨w, rfl⟩
    | none =>
        by_cases hblocks : Blocks above path
        · exact nomatch hv.symm.trans (at?_overlay_blocked habove hblocks (some base))
        · exact .inl ⟨v, (at?_overlay_through habove habsent hblocks (some base)).symm.trans hv⟩

/-- **A MERGE, PATH BY PATH.**  Two trees of mappings are always merged.  At every path the
    result holds what the two trees say there, a mapping with the keys of both in their order
    where both hold mappings; nothing of the base is lost that the other tree does not replace,
    and nothing stands anywhere that neither had.  Merging the same tree again changes nothing,
    and a tree merged with itself or with an empty one stays as it is. -/
theorem merge_by_path {base above : Members} (hbase : base.Proper) (habove : above.Proper) :
    ∃ merged : Members, merge (.dict base) (.dict above) = .ok (.dict merged)
      ∧ (∀ path, MergedAt (.dict base) (.dict above) (.dict merged) path)
      ∧ merge (.dict merged) (.dict above) = .ok (.dict merged)
      ∧ merge (.dict base) (.dict base) = .ok (.dict base)
      ∧ merge (.dict base) (.dict []) = .ok (.dict base)
      ∧ merge (.dict []) (.dict base) = .ok (.dict base) := by
  have hvbase := Value.proper_dict.mpr hbase
  have hvabove := Value.proper_dict.mpr habove
  have hself : overlay (some (.dict base)) (.dict base) = .dict base :=
    overlay_none (.dict base) ▸ overlay_again hvbase none
  have hempty : overlay (some (.dict [])) (.dict base) = .dict base :=
    congrArg Value.dict (mergeMembers_nil hbase.keys)
  refine ⟨mergeMembers base above, rfl, mergedAt_overlay hvbase hvabove, ?_, ?_, rfl, ?_⟩
  · exact congrArg Except.ok (overlay_again hvabove (some (.dict base)))
  · exact congrArg Except.ok hself
  · exact congrArg Except.ok hempty

/-- Settings of two groups. -/
def storedTree : Members :=
  [(.str "client", .object [("endpoint", .str "a"), ("retries", .int 2)]),
   (.str "logging", .object [("level", .str "INFO")])]

/-- Settings that go deeper than those stored in one place and cut them off in another. -/
def stageTree : Members :=
  [(.str "owner", .str "b"), (.str "logging", .str "off"),
   (.str "client", .object [("retries", .object [("max", .int 3)])])]

theorem merge_by_path_stage :
    storedTree.Proper ∧ stageTree.Proper
      ∧ ∃ merged : Members, merge (.dict storedTree) (.dict stageTree) = .ok (.dict merged)
        ∧ merged.map (·.1) = [.str "client", .str "logging", .str "owner"]
        ∧ (Value.dict merged).at? [.str "client", .str "endpoint"] = some (.str "a")
        ∧ (Value.dict merged).at? [.str "client", .str "retries", .str "max"] = some (.int 3)
        ∧ (Value.dict merged).at? [.str "logging"] = some (.str "off")
        ∧ (Value.dict merged).at? [.str "logging", .str "level"] = none := by
  have hint (n : Int) : (Value.int n).Proper := .scalar rfl rfl
  have hdict {members : Members} (h : members.Proper) : (Value.dict members).Proper :=
    Value.proper_dict.mpr h
  have hstr := Value.proper_str
  have hstored : storedTree.Proper :=
    (Members.Proper.nil.put (hstr "client")
      (hdict ((Members.Proper.nil.put (hstr "endpoint") (hstr "a")).put (hstr "retries")
        (hint 2)))).put (hstr "logging")
      (hdict (Members.Proper.nil.put (hstr "level") (hstr "INFO")))
  have hstage : stageTree.Proper :=
    ((Members.Proper.nil.put (hstr "owner") (hstr "b")).put (hstr "logging") (hstr "off")).put
      (hstr "client") (hdict (Members.Proper.nil.put (hstr "retries")
        (hdict (Members.Proper.nil.put (hstr "max") (hint 3)))))
  obtain ⟨merged, hmerge, hpaths, -⟩ := merge_by_path hstored hstage
  refine ⟨hstored, hstage, merged, hmerge, ?_, ?_, ?_, ?_, ?_⟩
  · obtain ⟨joined, hjoined, hkeys⟩ := (hpaths []).both _ _ rfl rfl
    obtain rfl := Value.dict.inj (Option.some.inj hjoined)
    exact hkeys
  · refine (hpaths _).through rfl ?_
    rintro ⟨front, hfront, hne, v, hv, hscalar⟩
    rcases List.prefix_cons_iff.mp hfront with rfl | ⟨rest, rfl, hrest⟩
    · obtain rfl := Option.some.inj hv
      exact nomatch hscalar
    · rcases List.prefix_cons_iff.mp hrest with rfl | ⟨more, rfl, hmore⟩
      · obtain rfl := Option.some.inj hv
        exact nomatch hscalar
      · obtain rfl := List.prefix_nil.mp hmore
        exact hne rfl
  · exact (hpaths _).replaced _ rfl nofun
  · exact (hpaths _).replaced _ rfl nofun
  · exact (hpaths _).blocked rfl ⟨[.str "logging"], ⟨[.str "level"], rfl⟩, nofun, _, rfl, rfl⟩

end Settings

end CompletionStream
