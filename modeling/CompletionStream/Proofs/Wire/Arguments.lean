import CompletionStream.Wire.Encode
import Mathlib.Data.List.Nodup

/-!
# Arguments — what a call holds under each keyword

A call is written part by part, and a part that is not set is left out.  `slots` lists the
parts in their order, each with its keyword and with the value it has if it is set; a call is
what is `present` of them (`argumentsFor_eq`).

As no keyword occurs twice among the slots, looking a keyword up in a call gives the value of
its slot (`lookup_argumentsFor`), so that what a call holds can be read off slot by slot.
-/

namespace CompletionStream.Wire

/-- The values of slots that are set, under their keywords. -/
def present (slots : List (String × Option Value)) : List (String × Value) :=
  slots.filterMap fun slot => slot.2.map fun v => (slot.1, v)

theorem present_append (first second : List (String × Option Value)) :
    present (first ++ second) = present first ++ present second :=
  List.filterMap_append

theorem present_cons (name : String) (v : Option Value) (rest : List (String × Option Value)) :
    present ((name, v) :: rest) = (v.map fun v => (name, v)).toList ++ present rest := by
  cases v <;> rfl

/-- Every keyword of a call is that of a slot. -/
theorem keys_present (slots : List (String × Option Value)) :
    ((present slots).map (·.1)).Sublist (slots.map (·.1)) := by
  induction slots with
  | nil => exact .slnil
  | cons slot rest ih =>
      obtain ⟨name, v⟩ := slot
      rw [present_cons]
      cases v with
      | none => exact ih.cons name
      | some v => exact ih.cons_cons name

/-- **A keyword holds the value of its slot.** -/
theorem lookup_present {slots : List (String × Option Value)} (h : (slots.map (·.1)).Nodup)
    {name : String} {v : Option Value} (hslot : (name, v) ∈ slots) :
    (present slots).lookup name = v := by
  have habsent {rest : List (String × Option Value)} (hname : name ∉ rest.map (·.1)) :
      (present rest).lookup name = none := by
    rw [List.lookup_eq_none_iff]
    intro entry hentry
    have hkey := (keys_present rest).subset (List.mem_map_of_mem hentry)
    exact bne_iff_ne.mpr fun heq => hname (heq ▸ hkey)
  induction slots with
  | nil => exact absurd hslot List.not_mem_nil
  | cons slot rest ih =>
      obtain ⟨other, w⟩ := slot
      obtain ⟨hother, hrest⟩ := List.nodup_cons.mp h
      rw [present_cons, List.lookup_append]
      rcases List.mem_cons.mp hslot with heq | hslot
      · obtain ⟨rfl, rfl⟩ := Prod.mk.inj heq
        rw [habsent hother]
        cases v <;> simp
      · have hname : name ∈ rest.map (·.1) := List.mem_map_of_mem hslot
        have hne : (name == other) = false :=
          beq_eq_false_iff_ne.mpr fun heq => hother (heq ▸ hname)
        rw [ih hrest hslot]
        cases w with
        | none => rfl
        | some w =>
            rw [Option.map_some, Option.toList_some, List.lookup_cons, hne]
            rfl

-- ── The slots of a call ────────────────────────────────────────────────────────────

/-- The parts of a call to a deployment, in their order. -/
def slots (deployment : Value) (o : Options) (includeUsage : Bool) :
    List (String × Option Value) :=
  [("model", some deployment),
   ("messages", some (.list (o.messages.map message))),
   ("stream", some (.bool true)),
   ("max_tokens", o.sampling.maxTokens.map .int),
   ("temperature", o.sampling.temperature.map .float),
   ("top_p", o.sampling.topP.map .float),
   ("logit_bias", o.sampling.logitBias.map biasValue),
   ("user", o.sampling.user.map .str),
   ("stop", (o.sampling.stop.filter (!·.isEmpty)).map fun texts => .list (texts.map .str)),
   ("presence_penalty", o.sampling.presencePenalty.map .float),
   ("frequency_penalty", o.sampling.frequencyPenalty.map .float),
   ("seed", o.sampling.seed.map .int),
   ("tools", (o.tools.filter (!·.isEmpty)).map fun ts => .list (ts.map tool)),
   ("tool_choice", o.forcedTool.map toolChoice),
   ("response_format", o.format.map (format · o.strictSchema)),
   ("stream_options",
    if includeUsage then some (.object [("include_usage", .bool true)]) else none)]

/-- The keywords that a call can have. -/
def keywords : List String :=
  ["model", "messages", "stream", "max_tokens", "temperature", "top_p", "logit_bias", "user",
   "stop", "presence_penalty", "frequency_penalty", "seed", "tools", "tool_choice",
   "response_format", "stream_options"]

theorem keywords_nodup : keywords.Nodup := by decide

theorem slots_keywords (deployment : Value) (o : Options) (includeUsage : Bool) :
    (slots deployment o includeUsage).map (·.1) = keywords := rfl

theorem whenSet_eq {α : Type} (name : String) (write : α → Value) (given : Option α) :
    whenSet name write given = present [(name, given.map write)] := by
  cases given <;> rfl

theorem stopMember_eq (given : Option (List String)) :
    stopMember given
      = present
          [("stop", (given.filter (!·.isEmpty)).map fun texts => .list (texts.map .str))] := by
  rcases given with - | - | - <;> rfl

theorem toolsMember_eq (given : Option (List ToolSpec)) :
    toolsMember given
      = present [("tools", (given.filter (!·.isEmpty)).map fun ts => .list (ts.map tool))] := by
  rcases given with - | - | - <;> rfl

/-- **A call holds what is present of its slots.** -/
theorem argumentsFor_eq (deployment : Value) (o : Options) (includeUsage : Bool) :
    argumentsFor deployment o includeUsage = present (slots deployment o includeUsage) := by
  have husage : (if includeUsage then
        [("stream_options", Value.object [("include_usage", .bool true)])] else [])
      = present [("stream_options",
          if includeUsage then some (.object [("include_usage", .bool true)]) else none)] := by
    cases includeUsage <;> rfl
  rw [argumentsFor, parameters, husage]
  simp only [whenSet_eq, stopMember_eq, toolsMember_eq]
  change present [("model", some deployment)] ++ (present
    [("messages", some (.list (o.messages.map message))), ("stream", some (.bool true))]
    ++ _ ++ _ ++ _ ++ _ ++ _ ++ _ ++ _ ++ _ ++ _ ++ _ ++ _ ++ _ ++ _) = _
  simp only [← present_append]
  rfl

/-- A call holds the value of each slot under its keyword. -/
theorem lookup_argumentsFor {deployment : Value} {o : Options} {includeUsage : Bool}
    {keyword : String} {v : Option Value}
    (hslot : (keyword, v) ∈ slots deployment o includeUsage) :
    (argumentsFor deployment o includeUsage).lookup keyword = v := by
  have hnodup : ((slots deployment o includeUsage).map (·.1)).Nodup := by
    rw [slots_keywords]
    exact keywords_nodup
  rw [argumentsFor_eq]
  exact lookup_present hnodup hslot

/-- The keywords of a call are among those there are, in their order. -/
theorem keys_argumentsFor (deployment : Value) (o : Options) (includeUsage : Bool) :
    ((argumentsFor deployment o includeUsage).map (·.1)).Sublist keywords := by
  rw [argumentsFor_eq, ← slots_keywords deployment o includeUsage]
  exact keys_present _

end CompletionStream.Wire
