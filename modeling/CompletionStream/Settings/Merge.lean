import CompletionStream.Fault

/-!
# Merging — one tree of settings laid over another

Where both trees hold a mapping, the mappings are merged member by member; everywhere else the
overriding tree decides. Members keep the order of the base, new ones follow in the order of
the override.
-/

namespace CompletionStream.Settings

mutual

/-- What stands under a key when a value is laid over what the base has there, if anything. -/
def overlay (base : Option Value) (above : Value) : Value :=
  match above with
  | .dict members =>
    match base with
    | some (.dict own) => .dict (mergeMembers own members)
    | _ => .dict members
  | v => v
  termination_by structural above

/-- Lays the members of one mapping over those of another. -/
def mergeMembers (base : Members) (above : List (Value × Value)) : Members :=
  match above with
  | [] => base
  | (key, v) :: rest => mergeMembers (base.put key (overlay (Members.lookup? base key) v)) rest
  termination_by structural above

end

/-- A pair as an item of a list: two items, or a text of two characters. -/
def pairOf : Value → Outcome (Value × Value)
  | .list items => two items
  | .tuple items => two items
  | .str s => two (s.toList.map fun c => .str c.toString)
  | .dict members => two (members.map (·.1))
  | _ => .error .wrongType
where
  /-- Exactly two items. -/
  two : List Value → Outcome (Value × Value)
    | [a, b] =>
      match a with
      | .list _ | .dict _ => .error .wrongType
      | a => .ok (a, b)
    | _ => .error .wrongValue

/-- A tree as a mapping: a list of pairs is as good. A text would have to be one too, but its
    characters are no pairs. -/
def asMapping : Value → Outcome Members
  | .dict members => .ok members
  | .list items => do return Members.ofPairs (← items.mapM pairOf)
  | .tuple items => do return Members.ofPairs (← items.mapM pairOf)
  | .str s => if s = "" then .ok [] else .error .wrongValue
  | _ => .error .wrongType

/-- Lays one tree over another; both have to be mappings. -/
def merge (base above : Value) : Outcome Value := do
  let own ← asMapping base
  match above with
  | .dict members => return .dict (mergeMembers own members)
  | _ => .error .noMember

end CompletionStream.Settings
