import CompletionStream.Document.YamlReader
import Mathlib.Data.List.Nodup

/-!
# Mappings — look-up, and that a document names each member once

A mapping is a list of members, and only where no two of them have the same key does what is
found under a key not depend on the way the list is walked through.  A value all of whose
mappings are such is `Proper`.  Setting and removing members keeps a mapping so, and what is
read from a YAML document is so, whatever its text (`readYaml_proper`): all readers of the
document put members into place one by one.

The readers call each other with less and less fuel.  `FlowProper` and `BlockProper` say of all
of them together that they read proper values; the step is one lemma for each reader.
-/

namespace CompletionStream

/-- Every mapping in a value names each of its members once. -/
inductive Value.Proper : Value → Prop where
  | scalar {v : Value} : v.items? = none → v.members? = none → Proper v
  | list {items : List Value} : (∀ v ∈ items, Proper v) → Proper (.list items)
  | tuple {items : List Value} : (∀ v ∈ items, Proper v) → Proper (.tuple items)
  | dict {members : List (Value × Value)} : (members.map (·.1.key)).Nodup →
      (∀ member ∈ members, Proper member.1) → (∀ member ∈ members, Proper member.2) →
      Proper (.dict members)

-- ── Look-up ────────────────────────────────────────────────────────────────────────

namespace Members

/-- Each member is named once, and what it names and is named by is proper. -/
structure Proper (members : Members) : Prop where
  keys : (members.map (·.1.key)).Nodup
  names : ∀ member ∈ members, member.1.Proper
  values : ∀ member ∈ members, member.2.Proper

/-- What is found after a member was put into place. -/
theorem lookup?_put (members : Members) (key v other : Value) :
    lookup? (members.put key v) other
      = if key.key = other.key then some v else members.lookup? other := by
  induction members with
  | nil =>
      by_cases h : key.key = other.key
      · simp [put, lookup?, h]
      · simp [put, lookup?, h]
  | cons member rest ih =>
      obtain ⟨k, old⟩ := member
      rw [put]
      by_cases hkey : k.key = key.key
      · rw [if_pos (beq_iff_eq.mpr hkey)]
        by_cases h : key.key = other.key
        · simp [lookup?, hkey, h]
        · simp [lookup?, hkey, h]
      · rw [if_neg (fun h => hkey (beq_iff_eq.mp h))]
        rw [lookup?] at ih
        by_cases h : k.key = other.key
        · have hne : key.key ≠ other.key := fun hsame => hkey (h.trans hsame.symm)
          simp [lookup?, h, hne]
        · simpa [lookup?, h] using ih

/-- Text keys are the same if their texts are. -/
theorem str_key_eq_iff {a b : String} : (Value.str a).key = (Value.str b).key ↔ a = b := by
  simp [Value.key]

/-- What is found after a text key was set. -/
theorem get?_set (members : Members) (name other : String) (v : Value) :
    get? (members.set name v) other = if name = other then some v else members.get? other := by
  simp only [get?, set, lookup?_put, str_key_eq_iff]

/-- What is found after a text key was removed. -/
theorem get?_without (members : Members) (name other : String) :
    get? (members.without name) other = if name = other then none else members.get? other := by
  by_cases h : name = other
  · subst h
    have hnone : (List.filter (fun member => !(member.1.key == (Value.str name).key))
        members).find? (fun member => member.1.key == (Value.str name).key) = none := by
      rw [List.find?_eq_none]
      intro member hmember
      simpa using (List.mem_filter.mp hmember).2
    rw [if_pos rfl, get?, lookup?, without, hnone]
    rfl
  · rw [if_neg h, get?, get?, lookup?, lookup?, without, List.find?_filter]
    congr 2
    funext member
    by_cases hmember : member.1.key = (Value.str other).key
    · have hne : (Value.str other).key ≠ (Value.str name).key := fun hsame =>
        h (str_key_eq_iff.mp hsame.symm)
      simp [hmember, hne]
    · simp [hmember]

/-- What is found is one of the members. -/
theorem mem_of_lookup? {members : Members} {key v : Value} (h : members.lookup? key = some v) :
    ∃ member ∈ members, member.2 = v := by
  obtain ⟨member, hfind, rfl⟩ := Option.map_eq_some_iff.mp h
  exact ⟨member, List.mem_of_find?_eq_some hfind, rfl⟩

theorem mem_put {members : Members} {key v : Value} {member : Value × Value}
    (h : member ∈ members.put key v) :
    member ∈ members ∨ (member.1 = key ∨ ∃ old, (member.1, old) ∈ members) ∧ member.2 = v := by
  induction members with
  | nil =>
      rw [List.mem_singleton.mp h]
      exact .inr ⟨.inl rfl, rfl⟩
  | cons first rest ih =>
      obtain ⟨k, old⟩ := first
      rw [put] at h
      split at h
      · rcases List.mem_cons.mp h with rfl | h
        · exact .inr ⟨.inr ⟨old, List.mem_cons_self⟩, rfl⟩
        · exact .inl (List.mem_cons_of_mem _ h)
      · rcases List.mem_cons.mp h with rfl | h
        · exact .inl List.mem_cons_self
        · rcases ih h with h | ⟨h | ⟨o, h⟩, hv⟩
          · exact .inl (List.mem_cons_of_mem _ h)
          · exact .inr ⟨.inl h, hv⟩
          · exact .inr ⟨.inr ⟨o, List.mem_cons_of_mem _ h⟩, hv⟩

/-- Putting a member into place adds its key, unless it is there. -/
theorem mem_keys_put {members : Members} {key v : Value} {k : List Value.KeyPart} :
    k ∈ (members.put key v).map (·.1.key) ↔ k = key.key ∨ k ∈ members.map (·.1.key) := by
  induction members with
  | nil => simp [put]
  | cons first rest ih =>
      obtain ⟨name, old⟩ := first
      rw [put]
      split
      · rename_i h
        have hsame : name.key = key.key := beq_iff_eq.mp h
        simp [hsame]
      · rw [List.map_cons, List.map_cons, List.mem_cons, List.mem_cons, ih]
        exact or_left_comm

namespace Proper

theorem nil : Members.Proper [] where
  keys := List.nodup_nil
  names _ hmember := absurd hmember List.not_mem_nil
  values _ hmember := absurd hmember List.not_mem_nil

/-- A mapping stays proper when a member is put into place. -/
theorem put {members : Members} (h : members.Proper) {key v : Value} (hkey : key.Proper)
    (hv : v.Proper) : (members.put key v).Proper where
  keys := by
    have hkeys := h.keys
    clear h
    induction members with
    | nil => exact List.nodup_singleton _
    | cons first rest ih =>
        obtain ⟨name, old⟩ := first
        obtain ⟨hfresh, hrest⟩ := List.nodup_cons.mp hkeys
        rw [Members.put]
        split
        · exact hkeys
        · rename_i hne
          rw [List.map_cons]
          refine List.nodup_cons.mpr ⟨fun hmem => ?_, ih hrest⟩
          rcases mem_keys_put.mp hmem with hsame | hmem
          · exact hne (beq_iff_eq.mpr hsame)
          · exact hfresh hmem
  names member hmember := by
    rcases mem_put hmember with hmem | ⟨hname | ⟨old, hmem⟩, -⟩
    · exact h.names member hmem
    · rw [hname]
      exact hkey
    · exact h.names (member.1, old) hmem
  values member hmember := by
    rcases mem_put hmember with hmem | ⟨-, hvalue⟩
    · exact h.values member hmem
    · rw [hvalue]
      exact hv

/-- A mapping stays proper when a member is removed. -/
theorem without {members : Members} (h : members.Proper) (name : String) :
    (members.without name).Proper where
  keys := h.keys.sublist (List.filter_sublist.map _)
  names member hmember := h.names member (List.mem_filter.mp hmember).1
  values member hmember := h.values member (List.mem_filter.mp hmember).1

/-- What is found in a proper mapping is proper. -/
theorem lookup? {members : Members} (h : members.Proper) {key v : Value}
    (hfound : members.lookup? key = some v) : v.Proper := by
  obtain ⟨member, hmember, rfl⟩ := mem_of_lookup? hfound
  exact h.values member hmember

end Proper

end Members

namespace Value

theorem proper_str (s : String) : (Value.str s).Proper := .scalar rfl rfl

theorem proper_null : Value.null.Proper := .scalar rfl rfl

theorem proper_bool (b : Bool) : (Value.bool b).Proper := .scalar rfl rfl

theorem proper_dict {members : Members} : (Value.dict members).Proper ↔ members.Proper := by
  constructor
  · intro h
    cases h with
    | scalar _ hmembers => exact nomatch hmembers
    | dict hkeys hnames hvalues => exact ⟨hkeys, hnames, hvalues⟩
  · exact fun h => .dict h.keys h.names h.values

theorem Proper.items {v : Value} (h : v.Proper) {items : List Value}
    (hitems : v.items? = some items) : ∀ item ∈ items, item.Proper := by
  cases h with
  | scalar hnone _ => rw [hnone] at hitems; exact nomatch hitems
  | list hall => rw [← Option.some.inj hitems]; exact hall
  | tuple hall => rw [← Option.some.inj hitems]; exact hall
  | dict => exact nomatch hitems

end Value

-- ── Outcomes ───────────────────────────────────────────────────────────────────────

/-- Whatever comes out has a property. -/
def Outcome.Yields {α : Type} (P : α → Prop) (o : Outcome α) : Prop :=
  ∀ a, o = .ok a → P a

namespace Outcome

variable {α β : Type} {P : α → Prop} {Q : β → Prop}

theorem yields_ok {a : α} (h : P a) : Yields P (.ok a) := by
  rintro a ⟨⟩
  exact h

theorem yields_error (fault : Fault) : Yields P (.error fault : Outcome α) :=
  fun _ h => nomatch h

/-- Of two steps both have gone well, if something came out. -/
theorem bind_eq_ok {o : Outcome α} {f : α → Outcome β} {b : β} :
    (o >>= f) = .ok b ↔ ∃ a, o = .ok a ∧ f a = .ok b := by
  cases o with
  | error fault => exact ⟨fun h => (nomatch h), fun ⟨_, h, _⟩ => (nomatch h)⟩
  | ok a =>
      constructor
      · exact fun h => ⟨a, rfl, h⟩
      · rintro ⟨_, ⟨⟩, h⟩
        exact h

theorem Yields.bind {o : Outcome α} {f : α → Outcome β} (ho : Yields P o)
    (hf : ∀ a, P a → Yields Q (f a)) : Yields Q (o >>= f) := by
  cases o with
  | error fault => exact yields_error fault
  | ok a => exact hf a (ho a rfl)

theorem Yields.map {o : Outcome α} {f : α → β} (ho : Yields P o) (hf : ∀ a, P a → Q (f a)) :
    Yields Q (o.map f) := by
  cases o with
  | error fault => exact yields_error fault
  | ok a => exact yields_ok (hf a (ho a rfl))

theorem Yields.mapM {f : α → Outcome β} {as : List α} (hf : ∀ a ∈ as, Yields Q (f a)) :
    Yields (fun bs => ∀ b ∈ bs, Q b) (as.mapM f) := by
  induction as with
  | nil => exact yields_ok fun b hb => absurd hb List.not_mem_nil
  | cons a rest ih =>
      rw [List.mapM_cons]
      refine (hf a List.mem_cons_self).bind fun b hb => ?_
      refine (ih fun a ha => hf a (List.mem_cons_of_mem _ ha)).bind fun bs hbs => ?_
      exact yields_ok (List.forall_mem_cons.mpr ⟨hb, hbs⟩)

end Outcome

namespace Document

open Outcome

/-- A reader's value is proper. -/
abbrev ReadsProper (o : Outcome (Value × Spot)) : Prop :=
  Yields (fun read => read.1.Proper) o

theorem yamlScalar_proper (s : String) : Yields Value.Proper (yamlScalar s) := by
  rw [yamlScalar]
  repeat' split
  all_goals first
    | exact yields_error _
    | exact yields_ok (.scalar rfl rfl)

theorem asKey_proper {v : Value} (h : v.Proper) : Yields Value.Proper (asKey v) := by
  rw [asKey.eq_def]
  split
  · exact yields_error _
  · exact yields_error _
  · exact yields_ok h

theorem text_proper {o : Outcome (String × Spot)} :
    ReadsProper (o >>= fun read => pure (Value.str read.1, read.2)) :=
  have hany : Yields (fun _ => True) o := fun _ _ => trivial
  hany.bind fun read _ => yields_ok (Value.proper_str read.1)

-- ── Values in brackets ─────────────────────────────────────────────────────────────

/-- With this much fuel the readers of values in brackets read proper values. -/
structure FlowProper (fuel : Nat) : Prop where
  value : ∀ flow parent spot, ReadsProper (flowValue flow parent fuel spot)
  member : ∀ name spot, name.Proper →
    Yields (fun read => ∀ pair ∈ read.1, pair.1.Proper ∧ pair.2.Proper)
      (flowMember name fuel spot)
  items : ∀ acc spot, (∀ v ∈ acc, v.Proper) → ReadsProper (flowItems fuel acc spot)
  members : ∀ acc spot, acc.Proper → ReadsProper (flowMembers fuel acc spot)

section

variable {fuel : Nat} (h : FlowProper fuel)

include h

theorem flowValue_proper (flow : Bool) (parent : Int) (spot : Spot) :
    ReadsProper (flowValue flow parent (fuel + 1) spot) := by
  rw [flowValue]
  split
  · exact h.items [] _ fun v hv => absurd hv List.not_mem_nil
  · exact h.members [] _ .nil
  · exact text_proper
  · exact text_proper
  · split
    · exact (yamlScalar_proper _).bind fun v hv => yields_ok hv
    · exact yields_error _

theorem flowMember_proper {name : Value} (hname : name.Proper) (spot : Spot) :
    Yields (fun read => ∀ pair ∈ read.1, pair.1.Proper ∧ pair.2.Proper)
      (flowMember name (fuel + 1) spot) := by
  have hpair {key v : Value} (hkey : key.Proper) (hv : v.Proper) :
      ∀ pair ∈ some (key, v), pair.1.Proper ∧ pair.2.Proper := by
    rintro pair ⟨⟩
    exact ⟨hkey, hv⟩
  rw [flowMember]
  split
  · refine (asKey_proper hname).bind fun key hkey => ?_
    dsimp only
    split
    · exact yields_ok (hpair hkey Value.proper_null)
    · exact yields_ok (hpair hkey Value.proper_null)
    · exact yields_ok (hpair hkey Value.proper_null)
    · exact (h.value true 0 _).bind fun read hread => yields_ok (hpair hkey hread)
  · exact yields_ok fun pair hpair => nomatch hpair

/-- Behind an item there are more, or the sequence is over. -/
theorem flowItems_rest {acc : List Value} (hacc : ∀ v ∈ acc, v.Proper) (spot : Spot) :
    ReadsProper (match spot.rest with
      | ',' :: _ => flowItems fuel acc ((spot.skip 1).settle)
      | ']' :: _ => .ok (.list acc.reverse, spot.skip 1)
      | _ => .error .notYaml) := by
  split
  · exact h.items _ _ hacc
  · exact yields_ok (.list fun v hv => hacc v (List.mem_reverse.mp hv))
  · exact yields_error _

theorem flowItems_proper {acc : List Value} (hacc : ∀ v ∈ acc, v.Proper) (spot : Spot) :
    ReadsProper (flowItems (fuel + 1) acc spot) := by
  rw [flowItems]
  split
  · exact yields_ok (.list fun v hv => hacc v (List.mem_reverse.mp hv))
  · refine (h.value true 0 spot).bind fun read hread => ?_
    refine (h.member read.1 _ hread).bind fun found hfound => ?_
    obtain ⟨member, spot⟩ := found
    cases member with
    | none => exact flowItems_rest h (List.forall_mem_cons.mpr ⟨hread, hacc⟩) spot
    | some pair =>
        obtain ⟨hname, hvalue⟩ := hfound pair rfl
        have hv : (Value.dict [pair]).Proper :=
          Value.proper_dict.mpr (Members.Proper.nil.put hname hvalue)
        exact flowItems_rest h (List.forall_mem_cons.mpr ⟨hv, hacc⟩) spot

/-- Behind a member there are more, or the mapping is over. -/
theorem flowMembers_rest {acc : Members} (hacc : acc.Proper) (spot : Spot) :
    ReadsProper (match spot.rest with
      | ',' :: _ => flowMembers fuel acc ((spot.skip 1).settle)
      | '\x7d' :: _ => .ok (.dict acc, spot.skip 1)
      | _ => .error .notYaml) := by
  split
  · exact h.members _ _ hacc
  · exact yields_ok (Value.proper_dict.mpr hacc)
  · exact yields_error _

theorem flowMembers_proper {acc : Members} (hacc : acc.Proper) (spot : Spot) :
    ReadsProper (flowMembers (fuel + 1) acc spot) := by
  rw [flowMembers]
  split
  · exact yields_ok (Value.proper_dict.mpr hacc)
  · refine (h.value true 0 spot).bind fun read hread => ?_
    refine (h.member read.1 _ hread).bind fun found hfound => ?_
    obtain ⟨member, spot⟩ := found
    have hrest (pair : Value × Value) (hpair : pair.1.Proper ∧ pair.2.Proper) :=
      flowMembers_rest h (hacc.put hpair.1 hpair.2) spot
    cases member with
    | some pair => exact hrest pair (hfound pair rfl)
    | none =>
        have hkey : Yields (fun pair => pair.1.Proper ∧ pair.2.Proper)
            ((asKey read.1).map fun name => (name, Value.null)) :=
          (asKey_proper hread).map fun name hname => ⟨hname, Value.proper_null⟩
        exact hkey.bind hrest

end

theorem flow_proper (fuel : Nat) : FlowProper fuel := by
  induction fuel with
  | zero =>
      refine ⟨fun _ _ _ => ?_, fun _ _ _ => ?_, fun _ _ _ => ?_, fun _ _ _ => ?_⟩
      · rw [flowValue]; exact yields_error _
      · rw [flowMember]; exact yields_error _
      · rw [flowItems]; exact yields_error _
      · rw [flowMembers]; exact yields_error _
  | succ fuel ih =>
      exact ⟨flowValue_proper ih, fun _ spot hname => flowMember_proper ih hname spot,
        fun _ spot hacc => flowItems_proper ih hacc spot,
        fun _ spot hacc => flowMembers_proper ih hacc spot⟩

-- ── Blocks ─────────────────────────────────────────────────────────────────────────

theorem blockName?_proper {parent : Int} {spot next : Spot} {name : Value}
    (h : blockName? parent spot = some (name, next)) : name.Proper := by
  rw [blockName?] at h
  dsimp only at h
  split at h
  · cases h
  · rename_i found after hfound
    split at h
    · split at h
      · obtain ⟨rfl, -⟩ := Prod.mk.inj (Option.some.inj h)
        refine (?_ : ReadsProper _) _ hfound
        split
        · split
          · exact (flow_proper _).value _ _ _
          · split
            · exact (yamlScalar_proper _).bind fun v hv => yields_ok hv
            · exact yields_error _
        · exact yields_error _
      · cases h
    · cases h

/-- With this much fuel the readers of blocks read proper values. -/
structure BlockProper (fuel : Nat) : Prop where
  value : ∀ block parent spot, ReadsProper (blockValue block parent fuel spot)
  member : ∀ column spot, ReadsProper (memberValue column fuel spot)
  members : ∀ column acc spot, acc.Proper → ReadsProper (blockMembers column fuel acc spot)
  items : ∀ column acc spot, (∀ v ∈ acc, v.Proper) → ReadsProper (blockItems column fuel acc spot)

section

variable {fuel : Nat} (h : BlockProper fuel)

include h

theorem blockValue_proper (block : Bool) (parent : Int) (spot : Spot) :
    ReadsProper (blockValue block parent (fuel + 1) spot) := by
  have hnone : ∀ v ∈ ([] : List Value), v.Proper := fun v hv => absurd hv List.not_mem_nil
  rw [blockValue]
  split
  · split
    · exact h.items _ _ _ hnone
    · exact yields_error _
  · split
    · split
      · exact h.members _ _ _ .nil
      · exact yields_error _
    · exact (flow_proper _).value _ _ _

theorem memberValue_proper (column : Nat) (spot : Spot) :
    ReadsProper (memberValue column (fuel + 1) spot) := by
  have hnone : ∀ v ∈ ([] : List Value), v.Proper := fun v hv => absurd hv List.not_mem_nil
  rw [memberValue]
  split
  · exact yields_ok Value.proper_null
  · split
    · exact h.value _ _ _
    · split
      · exact h.value _ _ _
      · split
        · exact h.items _ _ _ hnone
        · exact yields_ok Value.proper_null

theorem blockMembers_proper {acc : Members} (hacc : acc.Proper) (column : Nat) (spot : Spot) :
    ReadsProper (blockMembers column (fuel + 1) acc spot) := by
  rw [blockMembers]
  split
  · exact yields_error _
  · rename_i name next hname
    refine (asKey_proper (blockName?_proper hname)).bind fun key hkey => ?_
    refine (h.member column next).bind fun read hread => ?_
    have hput : (acc.put key read.1).Proper := hacc.put hkey hread
    dsimp only
    split
    · exact yields_ok (Value.proper_dict.mpr hput)
    · split
      · exact yields_error _
      · split
        · exact h.members _ _ _ hput
        · exact yields_ok (Value.proper_dict.mpr hput)

theorem blockItems_proper {acc : List Value} (hacc : ∀ v ∈ acc, v.Proper) (column : Nat)
    (spot : Spot) : ReadsProper (blockItems column (fuel + 1) acc spot) := by
  have hrest {read : Value × Spot} (hread : read.1.Proper) : ReadsProper
      (let next := read.2.settle
      if next.isOver then .ok (.list (read.1 :: acc).reverse, next)
      else if !next.fresh ∨ column < next.column then .error .notYaml
      else if next.column = column ∧ next.isDash then
        blockItems column fuel (read.1 :: acc) next
      else .ok (.list (read.1 :: acc).reverse, next)) := by
    have hall : ∀ item ∈ read.1 :: acc, item.Proper := List.forall_mem_cons.mpr ⟨hread, hacc⟩
    have hlist : (Value.list (read.1 :: acc).reverse).Proper :=
      .list fun v hv => hall v (List.mem_reverse.mp hv)
    dsimp only
    split
    · exact yields_ok hlist
    · split
      · exact yields_error _
      · split
        · exact h.items _ _ _ hall
        · exact yields_ok hlist
  rw [blockItems]
  dsimp only
  split
  · exact hrest Value.proper_null
  · exact (h.value _ _ _).bind fun _ hread => hrest hread

end

theorem block_proper (fuel : Nat) : BlockProper fuel := by
  induction fuel with
  | zero =>
      refine ⟨fun _ _ _ => ?_, fun _ _ => ?_, fun _ _ _ _ => ?_, fun _ _ _ _ => ?_⟩
      · rw [blockValue]; exact yields_error _
      · rw [memberValue]; exact yields_error _
      · rw [blockMembers]; exact yields_error _
      · rw [blockItems]; exact yields_error _
  | succ fuel ih =>
      exact ⟨blockValue_proper ih, memberValue_proper ih,
        fun column _ spot hacc => blockMembers_proper ih hacc column spot,
        fun column _ spot hacc => blockItems_proper ih hacc column spot⟩

/-- **What is read from a YAML document is proper**, whatever its text. -/
theorem readYaml_proper (s : String) : Yields Value.Proper (readYaml s) := by
  rw [readYaml]
  dsimp only
  split
  · exact yields_ok Value.proper_null
  · refine ((block_proper _).value _ _ _).bind fun read hread => ?_
    split
    · exact yields_ok hread
    · exact yields_error _

end Document

end CompletionStream
