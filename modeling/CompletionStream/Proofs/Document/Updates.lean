import CompletionStream.Proofs.Document.Mappings

/-!
# Updates — many members are put into place

Setting the members of one mapping on another goes member by member.  As long as each mapping
names its members once, the result can be said at once (`update_eq`): the old members keep
their places, with the new value where one is set, and the new members follow in their order.
-/

namespace CompletionStream.Members

/-- The normal forms of the keys of a mapping. -/
def keys (members : Members) : List (List Value.KeyPart) :=
  members.map (·.1.key)

/-- Whether a mapping has no member of this key. -/
def lacks (members : Members) (key : Value) : Bool :=
  decide (key.key ∉ members.keys)

/-- A member with the value that is set for it, if one is. -/
def renewed (updates : Members) (member : Value × Value) : Value × Value :=
  (member.1, (updates.lookup? member.1).getD member.2)

theorem lacks_iff {members : Members} {key : Value} :
    members.lacks key = true ↔ key.key ∉ members.keys :=
  decide_eq_true_iff

theorem keys_cons (first : Value × Value) (rest : Members) :
    keys (first :: rest) = first.1.key :: rest.keys := rfl

theorem keys_map_renewed (members updates : Members) :
    keys (members.map (renewed updates)) = members.keys := by
  rw [keys, List.map_map]
  rfl

/-- A key that is missing is not that of any member. -/
theorem key_ne_of_mem {members : Members} {key : Value} (h : key.key ∉ members.keys)
    {member : Value × Value} (hmember : member ∈ members) : key.key ≠ member.1.key :=
  fun hsame => h (List.mem_map.mpr ⟨member, hmember, hsame.symm⟩)

theorem lookup?_cons (first : Value × Value) (rest : Members) (key : Value) :
    lookup? (first :: rest) key
      = if first.1.key = key.key then some first.2 else rest.lookup? key := by
  by_cases h : first.1.key = key.key
  · simp [lookup?, h]
  · simp [lookup?, h]

theorem lookup?_eq_none {members : Members} {key : Value} :
    members.lookup? key = none ↔ key.key ∉ members.keys := by
  rw [lookup?, Option.map_eq_none_iff, List.find?_eq_none, keys, List.mem_map]
  constructor
  · rintro h ⟨member, hmember, hkey⟩
    exact h member hmember (beq_iff_eq.mpr hkey)
  · exact fun h member hmember hkey => h ⟨member, hmember, beq_iff_eq.mp hkey⟩

/-- What stands under a key is found there, if each member is named once. -/
theorem lookup?_of_mem {members : Members} (hkeys : members.keys.Nodup)
    {member : Value × Value} (h : member ∈ members) {key : Value} (hkey : member.1.key = key.key) :
    members.lookup? key = some member.2 := by
  induction members with
  | nil => exact absurd h List.not_mem_nil
  | cons first rest ih =>
      obtain ⟨hfirst, hrest⟩ := List.nodup_cons.mp hkeys
      rw [lookup?_cons]
      rcases List.mem_cons.mp h with rfl | h
      · rw [if_pos hkey]
      · have hne : first.1.key ≠ key.key := fun hsame =>
          hfirst (List.mem_map.mpr ⟨member, h, hkey.trans hsame.symm⟩)
        rw [if_neg hne]
        exact ih hrest h

/-- A member for which no value is set stays as it is. -/
theorem renewed_of_none {updates : Members} {member : Value × Value}
    (h : updates.lookup? member.1 = none) : renewed updates member = member := by
  rw [renewed, h]
  rfl

/-- A value that is set for one key leaves the members of other keys as they are. -/
theorem renewed_other {u member : Value × Value} (h : u.1.key ≠ member.1.key) :
    renewed [u] member = member := by
  refine renewed_of_none ?_
  rw [lookup?_cons, if_neg h]
  rfl

/-- Of two updates of different keys one may be made before the other. -/
theorem renewed_cons {u : Value × Value} {rest : Members} (hu : u.1.key ∉ rest.keys)
    (member : Value × Value) :
    renewed rest (renewed [u] member) = renewed (u :: rest) member := by
  rw [renewed, renewed, renewed, lookup?_cons, lookup?_cons]
  by_cases h : u.1.key = member.1.key
  · rw [if_pos h, if_pos h, lookup?_eq_none.mpr (h ▸ hu)]
    rfl
  · rw [if_neg h, if_neg h]
    rfl

-- ── One member ─────────────────────────────────────────────────────────────────────

/-- A new member comes last. -/
theorem put_of_new {members : Members} {key : Value} (h : key.key ∉ members.keys) (v : Value) :
    members.put key v = members ++ [(key, v)] := by
  induction members with
  | nil => rfl
  | cons first rest ih =>
      rw [keys_cons, List.mem_cons, not_or] at h
      rw [put, if_neg (fun hsame => h.1 (beq_iff_eq.mp hsame).symm), ih h.2]
      rfl

/-- A member that is there keeps its place. -/
theorem put_of_old {members : Members} (hkeys : members.keys.Nodup) {key : Value}
    (h : key.key ∈ members.keys) (v : Value) :
    members.put key v = members.map (renewed [(key, v)]) := by
  induction members with
  | nil => exact absurd h List.not_mem_nil
  | cons first rest ih =>
      obtain ⟨hfirst, hrest⟩ := List.nodup_cons.mp hkeys
      rw [put, List.map_cons]
      by_cases hsame : first.1.key = key.key
      · have hothers : rest.map (renewed [(key, v)]) = rest := by
          refine (List.map_congr_left fun member hmember => ?_).trans (List.map_id rest)
          exact renewed_other (hsame ▸ key_ne_of_mem hfirst hmember)
        rw [if_pos (beq_iff_eq.mpr hsame), hothers, renewed, lookup?_cons, if_pos hsame.symm]
        rfl
      · have hmem : key.key ∈ keys rest :=
          (List.mem_cons.mp h).resolve_left fun heq => hsame heq.symm
        have hkept : renewed [(key, v)] first = first := renewed_other (Ne.symm hsame)
        rw [if_neg (fun heq => hsame (beq_iff_eq.mp heq)), ih hrest hmem, hkept]

/-- Each member is named once still after one was put into place. -/
theorem nodup_put {members : Members} (hkeys : members.keys.Nodup) (key v : Value) :
    (members.put key v).keys.Nodup := by
  by_cases h : key.key ∈ members.keys
  · rw [put_of_old hkeys h, keys_map_renewed]
    exact hkeys
  · rw [put_of_new h, keys, List.map_append]
    refine List.nodup_append.mpr ⟨hkeys, List.nodup_singleton _, fun a ha b hb hab => ?_⟩
    have hkey : a = key.key := hab.trans (List.mem_singleton.mp hb)
    exact h (hkey ▸ ha)

-- ── Many members ───────────────────────────────────────────────────────────────────

/-- **The old members stay in their places and the new ones follow.** -/
theorem update_eq {members updates : Members} (hkeys : members.keys.Nodup)
    (hupdates : updates.keys.Nodup) :
    members.update updates
      = members.map (renewed updates) ++ updates.filter fun u => members.lacks u.1 := by
  induction updates generalizing members with
  | nil =>
      rw [List.filter_nil, List.append_nil]
      exact (List.map_id members).symm
  | cons u rest ih =>
      obtain ⟨hu, hrest⟩ : u.1.key ∉ keys rest ∧ (keys rest).Nodup :=
        List.nodup_cons.mp hupdates
      have hstep : members.update (u :: rest) = (members.put u.1 u.2).update rest := rfl
      rw [hstep, ih (nodup_put hkeys u.1 u.2) hrest]
      by_cases h : u.1.key ∈ members.keys
      · have hlacks : members.lacks u.1 = false := decide_eq_false (not_not.mpr h)
        rw [put_of_old hkeys h, List.map_map, List.filter_cons, hlacks, if_neg Bool.false_ne_true]
        congr 1
        · exact List.map_congr_left fun member _ => renewed_cons hu member
        · simp only [lacks, keys_map_renewed]
      · have hlacks : members.lacks u.1 = true := decide_eq_true h
        rw [put_of_new h, List.map_append, List.filter_cons, if_pos hlacks, List.append_assoc]
        congr 1
        · refine List.map_congr_left fun member hmember => ?_
          rw [← renewed_cons hu, renewed_other (key_ne_of_mem h hmember)]
        · have hkept : renewed rest (u.1, u.2) = u := renewed_of_none (lookup?_eq_none.mpr hu)
          rw [List.map_cons, hkept, List.map_nil, List.singleton_append]
          congr 1
          refine List.filter_congr fun w hw => ?_
          have hne : w.1.key ≠ u.1.key := (key_ne_of_mem hu hw).symm
          have hsame : w.1.key ∉ keys (members ++ [u]) ↔ w.1.key ∉ members.keys := by
            simp [keys, hne]
          exact decide_eq_decide.mpr hsame

/-- Members that are named once each are put into an empty mapping as they are. -/
theorem update_nil {updates : Members} (hupdates : updates.keys.Nodup) :
    update [] updates = updates := by
  have hempty : (keys []).Nodup := List.nodup_nil
  rw [update_eq hempty hupdates]
  exact List.filter_eq_self.mpr fun _ _ => rfl

/-- After an update each member is named once still. -/
theorem nodup_update {members : Members} (hkeys : members.keys.Nodup) (updates : Members) :
    (members.update updates).keys.Nodup := by
  induction updates generalizing members with
  | nil => exact hkeys
  | cons u rest ih => exact ih (nodup_put hkeys u.1 u.2)

end CompletionStream.Members
