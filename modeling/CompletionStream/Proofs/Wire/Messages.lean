import CompletionStream.Proofs.Wire.Arguments
import Mathlib.Data.List.Forall2

/-!
# Messages — what the wire keeps of a message

A message has room for more than its role speaks of: a user calls no tools, and only the answer
of a tool names a call.  On the wire each role has its own members, and what it does not speak
of is left out.  `Agree` says role by role what two messages have to share; missing content is
the same as empty content, except beside tool calls.

Two messages are the same on the wire exactly if they agree (`wire_keeps`).  That they agree is
enough for one and the same value (`message_eq_of_agree`); that it is needed is shown for less
than equality, for values that are `Same` as data, whatever the order of their members
(`agree_of_same`): each member can be read off the value again.
-/

namespace CompletionStream

-- ── The same data ──────────────────────────────────────────────────────────────────

/-- Two values are the same data: numbers by what they amount to, sequences item by item, and
    mappings by what stands under each key, in whatever order their members stand. -/
inductive Value.Same : Value → Value → Prop where
  | refl (v : Value) : Same v v
  | scalar {v w : Value} : v.items? = none → v.members? = none → w.members? = none →
      v.key = w.key → Same v w
  | list {vs ws : List Value} : List.Forall₂ Same vs ws → Same (.list vs) (.list ws)
  | tuple {vs ws : List Value} : List.Forall₂ Same vs ws → Same (.tuple vs) (.tuple ws)
  | dict {ms ns : Members} :
      (∀ key, Option.Rel Same (ms.lookup? key) (ns.lookup? key)) → Same (.dict ms) (.dict ns)

namespace Value.Same

variable {v w : Value}

/-- Scalars that are the same have the same normal form. -/
theorem key_eq (h : Same v w) (hitems : v.items? = none) (hmembers : v.members? = none) :
    v.key = w.key := by
  cases h with
  | refl => rfl
  | scalar _ _ _ hkey => exact hkey
  | list => exact nomatch hitems
  | tuple => exact nomatch hitems
  | dict => exact nomatch hmembers

/-- The items of sequences that are the same are the same one by one. -/
theorem items (h : Same v w) {vs ws : List Value} (hvs : v.items? = some vs)
    (hws : w.items? = some ws) : List.Forall₂ Same vs ws := by
  cases h with
  | refl =>
      obtain rfl := Option.some.inj (hvs.symm.trans hws)
      exact List.forall₂_same.mpr fun v _ => .refl v
  | scalar hnone => exact nomatch hnone.symm.trans hvs
  | list hall =>
      obtain rfl := Option.some.inj hvs
      obtain rfl := Option.some.inj hws
      exact hall
  | tuple hall =>
      obtain rfl := Option.some.inj hvs
      obtain rfl := Option.some.inj hws
      exact hall
  | dict => exact nomatch hvs

/-- What may be missing is the same as data, null where it is missing. -/
theorem getD {x y : Option Value} (h : Option.Rel Same x y) :
    Same (x.getD .null) (y.getD .null) := by
  cases h with
  | some hsame => exact hsame
  | none => exact .refl _

/-- What stands under a name of mappings that are the same is the same. -/
theorem member (h : Same v w) (name : String) : Same (v.member name) (w.member name) := by
  have hscalar {v : Value} (hv : v.members? = none) : v.member name = .null := by
    cases v with
    | dict ms => exact nomatch hv
    | _ => rfl
  cases h with
  | refl => exact .refl _
  | scalar _ hv hw =>
      rw [hscalar hv, hscalar hw]
      exact .refl _
  | list => exact .refl _
  | tuple => exact .refl _
  | dict hall => exact getD (hall (.str name))

/-- Texts that are the same data are equal. -/
theorem text_eq {s t : String} (h : Same (.str s) (.str t)) : s = t := by
  simpa [Value.key] using h.key_eq rfl rfl

/-- So are texts that may be missing. -/
theorem text?_eq {a b : Option String} (h : Same (.ofOption .str a) (.ofOption .str b)) :
    a = b := by
  cases a with
  | none =>
      cases b with
      | none => rfl
      | some t => exact nomatch h.key_eq rfl rfl
  | some s =>
      cases b with
      | none => exact nomatch h.key_eq rfl rfl
      | some t => rw [text_eq h]

end Value.Same

namespace Wire

open Value (Same)

-- ── What messages have to share ────────────────────────────────────────────────────

/-- Two texts are the same where a missing one counts as empty. -/
def SameText (a b : Option String) : Prop :=
  a.getD "" = b.getD ""

/-- Two messages share what their role speaks of. -/
inductive Agree (a b : Message) : Prop where
  | system : a.role = .system → b.role = .system → SameText a.content b.content → Agree a b
  | user : a.role = .user → b.role = .user → SameText a.content b.content →
      SameText a.name b.name → Agree a b
  /-- Beside tool calls missing content is not the same as empty content. -/
  | calling : a.role = .assistant → b.role = .assistant → a.toolCalls ≠ [] →
      a.toolCalls = b.toolCalls → a.content = b.content → Agree a b
  | answering : a.role = .assistant → b.role = .assistant → a.toolCalls = [] →
      b.toolCalls = [] → SameText a.content b.content → Agree a b
  | tool : a.role = .tool → b.role = .tool → a.toolCallId = b.toolCallId →
      SameText a.content b.content → Agree a b

-- ── The members of a message ───────────────────────────────────────────────────────

variable {m a b : Message}

/-- The name of a user, where a missing one counts as empty. -/
theorem nameMember_user (h : m.role = .user) :
    nameMember m = if m.name.getD "" = "" then [] else [("name", .str (m.name.getD ""))] := by
  rw [nameMember.eq_def, h]
  cases m.name with
  | none => rfl
  | some name => rfl

theorem nameMember_system (h : m.role = .system) : nameMember m = [] := by
  rw [nameMember.eq_def, h]

theorem message_system (h : m.role = .system) :
    message m = .object [("role", .str "system"), ("content", .str (m.content.getD ""))] := by
  rw [message, h, nameMember_system h]
  rfl

theorem message_user (h : m.role = .user) :
    message m = .object ([("role", .str "user"), ("content", .str (m.content.getD ""))]
      ++ if m.name.getD "" = "" then [] else [("name", .str (m.name.getD ""))]) := by
  rw [message, h, nameMember_user h]
  rfl

theorem message_calling (h : m.role = .assistant) (hcalls : m.toolCalls ≠ []) :
    message m = .object [("role", .str "assistant"), ("content", .ofOption .str m.content),
      ("tool_calls", .list (m.toolCalls.map toolCall))] := by
  rw [message, h]
  exact if_neg fun hempty => hcalls (List.isEmpty_iff.mp hempty)

theorem message_answering (h : m.role = .assistant) (hcalls : m.toolCalls = []) :
    message m = .object [("role", .str "assistant"), ("content", .str (m.content.getD ""))] := by
  rw [message, h]
  exact if_pos (List.isEmpty_iff.mpr hcalls)

theorem message_tool (h : m.role = .tool) :
    message m = .object [("role", .str "tool"), ("tool_call_id", .ofOption .str m.toolCallId),
      ("content", .str (m.content.getD ""))] := by
  rw [message, h]
  rfl

/-- Every message has its role on the wire. -/
theorem member_role (m : Message) : (message m).member "role" = .str m.role.word := by
  cases h : m.role with
  | system => rw [message_system h]; rfl
  | user => rw [message_user h]; rfl
  | assistant =>
      by_cases hcalls : m.toolCalls = []
      · rw [message_answering h hcalls]; rfl
      · rw [message_calling h hcalls]; rfl
  | tool => rw [message_tool h]; rfl

theorem word_injective {r s : Role} (h : r.word = s.word) : r = s := by
  revert h
  cases r <;> cases s <;> decide

-- ── The same on the wire ───────────────────────────────────────────────────────────

/-- **Messages that agree are one and the same value on the wire.** -/
theorem message_eq_of_agree (h : Agree a b) : message a = message b := by
  cases h with
  | system ha hb hcontent => rw [message_system ha, message_system hb, hcontent]
  | user ha hb hcontent hname => rw [message_user ha, message_user hb, hcontent, hname]
  | calling ha hb hcalls hsame hcontent =>
      rw [message_calling ha hcalls, message_calling hb (hsame ▸ hcalls), hsame, hcontent]
  | answering ha hb hacalls hbcalls hcontent =>
      rw [message_answering ha hacalls, message_answering hb hbcalls, hcontent]
  | tool ha hb hid hcontent => rw [message_tool ha, message_tool hb, hid, hcontent]

/-- A tool call on the wire keeps its id, its name and its arguments. -/
theorem toolCall_eq_of_same {c d : ToolCall} (h : Same (toolCall c) (toolCall d)) : c = d := by
  have hid : c.id = d.id := (h.member "id").text?_eq
  have hname : c.name = d.name := ((h.member "function").member "name").text_eq
  have harguments : c.arguments = d.arguments :=
    ((h.member "function").member "arguments").text_eq
  obtain ⟨_, _, _⟩ := c
  obtain ⟨_, _, _⟩ := d
  subst hid hname harguments
  rfl

theorem toolCalls_eq_of_same {cs ds : List ToolCall}
    (h : List.Forall₂ Same (cs.map toolCall) (ds.map toolCall)) : cs = ds := by
  rw [List.forall₂_map_left_iff, List.forall₂_map_right_iff] at h
  exact List.forall₂_eq_eq_eq ▸ h.imp fun _ _ => toolCall_eq_of_same

/-- A user's turn has its name on the wire, unless it is empty. -/
theorem member_name (h : m.role = .user) :
    (message m).member "name"
      = if m.name.getD "" = "" then .null else .str (m.name.getD "") := by
  rw [message_user h]
  split
  · rfl
  · rfl

/-- A turn of the assistant has its calls on the wire, if there are any. -/
theorem member_toolCalls (h : m.role = .assistant) :
    (message m).member "tool_calls"
      = if m.toolCalls = [] then .null else .list (m.toolCalls.map toolCall) := by
  split
  · rename_i hcalls
    rw [message_answering h hcalls]
    rfl
  · rename_i hcalls
    rw [message_calling h hcalls]
    rfl

/-- Users that are the same on the wire have the same name. -/
theorem sameText_of_same {s t : String}
    (h : Same (if s = "" then .null else .str s) (if t = "" then .null else .str t)) : s = t := by
  by_cases hs : s = ""
  · by_cases ht : t = ""
    · rw [hs, ht]
    · rw [if_pos hs, if_neg ht] at h
      exact nomatch h.key_eq rfl rfl
  · by_cases ht : t = ""
    · rw [if_neg hs, if_pos ht] at h
      exact nomatch h.key_eq rfl rfl
    · rw [if_neg hs, if_neg ht] at h
      exact h.text_eq

/-- **Messages that are the same data on the wire agree.** -/
theorem agree_of_same (h : Same (message a) (message b)) : Agree a b := by
  have hrole : a.role = b.role := by
    have hword := h.member "role"
    rw [member_role, member_role] at hword
    exact word_injective hword.text_eq
  cases ha : a.role with
  | system =>
      have hb : b.role = .system := hrole.symm.trans ha
      rw [message_system ha, message_system hb] at h
      exact .system ha hb (h.member "content").text_eq
  | user =>
      have hb : b.role = .user := hrole.symm.trans ha
      have hname := h.member "name"
      have hcontent := h.member "content"
      rw [member_name ha, member_name hb] at hname
      rw [message_user ha, message_user hb] at hcontent
      exact .user ha hb hcontent.text_eq (sameText_of_same hname)
  | assistant =>
      have hb : b.role = .assistant := hrole.symm.trans ha
      have hcalls := h.member "tool_calls"
      rw [member_toolCalls ha, member_toolCalls hb] at hcalls
      by_cases hacalls : a.toolCalls = []
      · by_cases hbcalls : b.toolCalls = []
        · rw [message_answering ha hacalls, message_answering hb hbcalls] at h
          exact .answering ha hb hacalls hbcalls (h.member "content").text_eq
        · rw [if_pos hacalls, if_neg hbcalls] at hcalls
          exact nomatch hcalls.key_eq rfl rfl
      · by_cases hbcalls : b.toolCalls = []
        · rw [if_neg hacalls, if_pos hbcalls] at hcalls
          cases hcalls with
          | scalar hitems => exact nomatch hitems
        · rw [if_neg hacalls, if_neg hbcalls] at hcalls
          have hsame := toolCalls_eq_of_same (hcalls.items rfl rfl)
          rw [message_calling ha hacalls, message_calling hb hbcalls] at h
          exact .calling ha hb hacalls hsame (h.member "content").text?_eq
  | tool =>
      have hb : b.role = .tool := hrole.symm.trans ha
      rw [message_tool ha, message_tool hb] at h
      exact .tool ha hb (h.member "tool_call_id").text?_eq (h.member "content").text_eq

theorem same_iff_agree : Same (message a) (message b) ↔ Agree a b :=
  ⟨agree_of_same, fun h => message_eq_of_agree h ▸ .refl _⟩

theorem message_eq_iff_agree : message a = message b ↔ Agree a b :=
  ⟨fun h => agree_of_same (h ▸ .refl _), message_eq_of_agree⟩

-- ── Histories ──────────────────────────────────────────────────────────────────────

/-- Histories are equal on the wire if they agree message by message. -/
theorem history_eq_iff_agree {as bs : List Message} :
    as.map message = bs.map message ↔ List.Forall₂ Agree as bs := by
  rw [← List.forall₂_eq_eq_eq, List.forall₂_map_left_iff, List.forall₂_map_right_iff]
  exact ⟨fun h => h.imp fun _ _ => message_eq_iff_agree.mp,
    fun h => h.imp fun _ _ => message_eq_iff_agree.mpr⟩

/-- Nor is more needed to make them the same data. -/
theorem history_same_iff_agree {as bs : List Message} :
    Same (.list (as.map message)) (.list (bs.map message)) ↔ List.Forall₂ Agree as bs := by
  constructor
  · intro h
    have hall := h.items rfl rfl
    rw [List.forall₂_map_left_iff, List.forall₂_map_right_iff] at hall
    exact hall.imp fun _ _ => agree_of_same
  · intro h
    rw [history_eq_iff_agree.mpr h]
    exact .refl _

theorem lookup_messages (deployment : Value) (o : Options) (includeUsage : Bool) :
    (argumentsFor deployment o includeUsage).lookup "messages"
      = some (.list (o.messages.map message)) :=
  lookup_argumentsFor (.tail _ (.head _))

/-- **THE WIRE KEEPS OF A MESSAGE WHAT ITS ROLE SPEAKS OF, AND NOTHING ELSE.**  Two messages are
    the same on the wire, as one value or only as the same data, exactly if they agree; and so
    are two histories, also as calls hold them, exactly if they agree message by message. -/
theorem wire_keeps :
    (∀ a b : Message,
      (message a = message b ↔ Agree a b) ∧ (Same (message a) (message b) ↔ Agree a b))
      ∧ (∀ as bs : List Message,
        (as.map message = bs.map message ↔ List.Forall₂ Agree as bs)
          ∧ (Same (.list (as.map message)) (.list (bs.map message)) ↔ List.Forall₂ Agree as bs))
      ∧ ∀ (first second : Value) (o p : Options) (u w : Bool),
        (argumentsFor first o u).lookup "messages" = (argumentsFor second p w).lookup "messages"
          ↔ List.Forall₂ Agree o.messages p.messages := by
  refine ⟨?_, ?_, ?_⟩
  · exact fun a b => ⟨message_eq_iff_agree, same_iff_agree⟩
  · exact fun as bs => ⟨history_eq_iff_agree, history_same_iff_agree⟩
  · intro first second o p u w
    rw [lookup_messages, lookup_messages, Option.some.injEq, Value.list.injEq]
    exact history_eq_iff_agree

end Wire

end CompletionStream
