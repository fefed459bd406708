import CompletionStream.Document.JsonReader
import CompletionStream.Schema.Reader
import Mathlib.Tactic.SplitIfs

/-!
# Objects — what a JSON document can be a mapping of

The keys of a mapping may be any values, but a JSON object names its members by texts.  The
reader of JSON keeps to that (`readJson?_named`), so an object that was read is one of named
members (`Value.Named.eq_object`) and is taken wherever names are asked for.
-/

namespace CompletionStream

/-- If the value is a mapping, texts are its keys. -/
def Value.Named (v : Value) : Prop :=
  ∀ members, v = .dict members → ∀ member ∈ members, ∃ name, member.1 = .str name

namespace Value.Named

/-- A mapping whose keys are texts is an object. -/
theorem eq_object {members : Members} (h : (Value.dict members).Named) :
    ∃ named, Value.dict members = .object named := by
  have hkeys := h members rfl
  clear h
  induction members with
  | nil => exact ⟨[], rfl⟩
  | cons member rest ih =>
      obtain ⟨key, v⟩ := member
      obtain ⟨name, rfl⟩ : ∃ name, key = .str name := hkeys _ List.mem_cons_self
      obtain ⟨named, hrest⟩ := ih fun member hmember => hkeys member (.tail _ hmember)
      refine ⟨(name, v) :: named, ?_⟩
      rw [Value.object, List.map_cons, ← Value.dict.inj hrest]

/-- Setting a text key keeps the keys texts. -/
theorem set {members : Members} (h : (Value.dict members).Named) (name : String) (v : Value) :
    (Value.dict (members.set name v)).Named := by
  rintro _ ⟨⟩
  have hkeys := h members rfl
  clear h
  rw [Members.set]
  induction members with
  | nil =>
      intro member hmember
      rw [List.mem_singleton.mp hmember]
      exact ⟨name, rfl⟩
  | cons first rest ih =>
      obtain ⟨key, old⟩ := first
      have hkey : ∃ name, key = .str name := hkeys _ List.mem_cons_self
      have hrest := ih fun member hmember => hkeys member (.tail _ hmember)
      rw [Members.put]
      split
      · intro member hmember
        rcases List.mem_cons.mp hmember with rfl | htail
        · exact hkey
        · exact hkeys member (.tail _ htail)
      · intro member hmember
        rcases List.mem_cons.mp hmember with rfl | htail
        · exact hkey
        · exact hrest member htail

end Value.Named

namespace Document

variable {v : Value} {cs rest : List Char}

/-- A number or a word is no mapping. -/
theorem readScalar_named (h : readScalar cs = some (v, rest)) : v.Named := by
  rintro members rfl
  have hnumber (negative : Bool) (cs : List Char) :
      readNumber negative cs ≠ some (.dict members, rest) := by
    intro hread
    rw [readNumber.eq_def] at hread
    dsimp only at hread
    split_ifs at hread
    all_goals exact nomatch (Prod.mk.inj (Option.some.inj hread)).1
  have hword (word : String) (w : Value) (hw : w ≠ .dict members) :
      (afterWord? word cs).map (fun rest => (w, rest)) ≠ some (.dict members, rest) := by
    intro hmap
    obtain ⟨after, -, hafter⟩ := Option.map_eq_some_iff.mp hmap
    exact hw (Prod.mk.inj hafter).1
  rw [readScalar.eq_def] at h
  split at h
  case h_7 => exact absurd h (hnumber _ _)
  case h_8 => exact absurd h (hnumber _ _)
  all_goals exact absurd h (hword _ _ nofun)

/-- An array is no mapping. -/
theorem readItems_named {fuel : Nat} {acc : List Value}
    (h : readItems fuel acc cs = some (v, rest)) : v.Named := by
  induction fuel generalizing acc cs with
  | zero => exact nomatch h
  | succ fuel ih =>
      rw [readItems] at h
      obtain ⟨⟨item, after⟩, -, h⟩ := Option.bind_eq_some_iff.mp h
      dsimp only at h
      split at h
      · exact ih h
      · obtain ⟨rfl, -⟩ := Prod.mk.inj (Option.some.inj h)
        exact fun members hmembers => nomatch hmembers
      · exact nomatch h

/-- The members of an object are named by texts. -/
theorem readMembers_named {fuel : Nat} {acc : Members} (hacc : (Value.dict acc).Named)
    (h : readMembers fuel acc cs = some (v, rest)) : v.Named := by
  induction fuel generalizing acc cs with
  | zero => exact nomatch h
  | succ fuel ih =>
      rw [readMembers.eq_def] at h
      dsimp only at h
      split at h
      · obtain ⟨⟨name, after⟩, -, h⟩ := Option.bind_eq_some_iff.mp h
        dsimp only at h
        split at h
        · obtain ⟨⟨member, after⟩, -, h⟩ := Option.bind_eq_some_iff.mp h
          dsimp only at h
          split at h
          · exact ih (hacc.set name member) h
          · obtain ⟨rfl, -⟩ := Prod.mk.inj (Option.some.inj h)
            exact hacc.set name member
          · exact nomatch h
        · exact nomatch h
      · exact nomatch h

theorem readValue_named {fuel : Nat} (h : readValue fuel cs = some (v, rest)) : v.Named := by
  have hempty : (Value.dict []).Named := by
    rintro _ ⟨⟩ member hmember
    exact absurd hmember List.not_mem_nil
  cases fuel with
  | zero => exact nomatch h
  | succ fuel =>
      rw [readValue.eq_def] at h
      dsimp only at h
      split at h
      · obtain ⟨⟨s, after⟩, -, h⟩ := Option.map_eq_some_iff.mp h
        obtain ⟨rfl, -⟩ := Prod.mk.inj h
        exact fun members hmembers => nomatch hmembers
      · split at h
        · obtain ⟨rfl, -⟩ := Prod.mk.inj (Option.some.inj h)
          exact fun members hmembers => nomatch hmembers
        · exact readItems_named h
      · split at h
        · obtain ⟨rfl, -⟩ := Prod.mk.inj (Option.some.inj h)
          exact hempty
        · exact readMembers_named hempty h
      · exact readScalar_named h

/-- **A JSON object names its members by texts.** -/
theorem readJson?_named {s : String} (h : readJson? s = some v) : v.Named := by
  rw [readJson?] at h
  obtain ⟨⟨w, after⟩, hread, h⟩ := Option.bind_eq_some_iff.mp h
  dsimp only at h
  split at h
  · obtain rfl := Option.some.inj h
    exact readValue_named hread
  · exact nomatch h

end Document

/-- A mapping with text keys is read as it was written. -/
theorem Reader.mappingOf_object (named : List (String × Value)) :
    Reader.mappingOf .anything (.object named) = .ok named := by
  rw [Value.object, mappingOf]
  induction named with
  | nil => rfl
  | cons member rest ih =>
      rw [List.map_cons, List.map_cons, Checked.all, ih]
      rfl

end CompletionStream
