import CompletionStream.Proofs.Accumulator.Reference
import CompletionStream.Proofs.Schema.Reading
import CompletionStream.Wire.Decode
import Mathlib.Data.List.Forall2

/-!
# Documented chunks — what a provider says, and how it is read

The documentation of the provider's API types every member of a chunk, and lets any of them be
missing or null.  `Said` is what such a chunk says, with nothing left of how it says it; `Says`
relates the two, level by level, as the objects of a chunk are nested.  A missing member and a
null one say the same (`part`), and so do missing choices and an empty list of them; further
choices after the first say nothing.

Decoding a documented chunk never fails, and what it gives depends on what is said alone
(`chunk_said`): a missing index is zero, missing arguments are empty, and an empty id, model or
reason is none.
-/

namespace CompletionStream.Wire

/-- A fragment of a tool call as a provider sends it. -/
structure Fragment where
  index : Option Int
  id : Option String
  name : Option String
  arguments : Option String

/-- Counts of tokens as a provider sends them. -/
structure Counts where
  prompt : Option Int
  completion : Option Int
  total : Option Int

/-- What a chunk says. -/
structure Said where
  content : Option String
  fragments : List Fragment
  reason : Option String
  id : Option String
  model : Option String
  usage : Option Counts

-- ── How it is said ─────────────────────────────────────────────────────────────────

/-- What the function of a fragment says. -/
inductive SaysFunction : Value → Option String → Option String → Prop
  | absent : SaysFunction .null none none
  | object {m : Members} {name arguments : Option String}
      (hname : part (.dict m) "name" = .ofOption .str name)
      (harguments : part (.dict m) "arguments" = .ofOption .str arguments) :
      SaysFunction (.dict m) name arguments

/-- What a fragment of a tool call says. -/
inductive SaysFragment : Value → Fragment → Prop
  | object {m : Members} {f : Fragment}
      (hindex : part (.dict m) "index" = .ofOption .int f.index)
      (hid : part (.dict m) "id" = .ofOption .str f.id)
      (hfunction : SaysFunction (part (.dict m) "function") f.name f.arguments) :
      SaysFragment (.dict m) f

/-- What a list of fragments says. -/
inductive SaysFragments : Value → List Fragment → Prop
  | absent : SaysFragments .null []
  | list {calls : List Value} {fs : List Fragment} (h : List.Forall₂ SaysFragment calls fs) :
      SaysFragments (.list calls) fs

/-- What the increment of a choice says. -/
inductive SaysDelta : Value → Option String → List Fragment → Prop
  | absent : SaysDelta .null none []
  | object {m : Members} {content : Option String} {fs : List Fragment}
      (hcontent : part (.dict m) "content" = .ofOption .str content)
      (hfragments : SaysFragments (part (.dict m) "tool_calls") fs) :
      SaysDelta (.dict m) content fs

/-- What the choices of a chunk say; only the first of them counts. -/
inductive SaysChoices : Value → Option String → List Fragment → Option String → Prop
  | absent : SaysChoices .null none [] none
  | empty : SaysChoices (.list []) none [] none
  | first {m : Members} {others : List Value} {content reason : Option String}
      {fs : List Fragment} (hdelta : SaysDelta (part (.dict m) "delta") content fs)
      (hreason : part (.dict m) "finish_reason" = .ofOption .str reason) :
      SaysChoices (.list (.dict m :: others)) content fs reason

/-- What the usage of a chunk says. -/
inductive SaysUsage : Value → Option Counts → Prop
  | absent : SaysUsage .null none
  | object {m : Members} {counts : Counts}
      (hprompt : part (.dict m) "prompt_tokens" = .ofOption .int counts.prompt)
      (hcompletion : part (.dict m) "completion_tokens" = .ofOption .int counts.completion)
      (htotal : part (.dict m) "total_tokens" = .ofOption .int counts.total) :
      SaysUsage (.dict m) (some counts)

/-- What a documented chunk says. -/
inductive Says : Value → Said → Prop
  | object {m : Members} {said : Said}
      (hchoices : SaysChoices (part (.dict m) "choices") said.content said.fragments said.reason)
      (hid : part (.dict m) "id" = .ofOption .str said.id)
      (hmodel : part (.dict m) "model" = .ofOption .str said.model)
      (husage : SaysUsage (part (.dict m) "usage") said.usage) :
      Says (.dict m) said

-- ── How it is read ─────────────────────────────────────────────────────────────────

/-- A fragment as it is read. -/
def Fragment.delta (f : Fragment) : ToolCallDelta :=
  ⟨f.index.getD 0, f.id, f.name, f.arguments.getD ""⟩

/-- Counts as they are read. -/
def Counts.usage (counts : Counts) : TokenUsage :=
  TokenUsage.ofCounts (counts.prompt.getD 0) (counts.completion.getD 0) (counts.total.getD 0)

/-- A chunk as it is read. -/
def Said.chunk (said : Said) : PartialChunk :=
  { text := said.content
    id := spoken said.id
    model := spoken said.model
    finishReason := (spoken said.reason).map FinishReason.ofReported
    usage := said.usage.map Counts.usage
    toolCalls := said.fragments.map Fragment.delta }

theorem spoken_some (s : String) : spoken (some s) = if s = "" then none else some s := by
  by_cases hs : s = ""
  · simp [spoken, Option.filter, hs]
  · simp [spoken, Option.filter, hs]

/-- An empty text counts as none. -/
theorem orElse_text (text : Option String) (substitute : Value) :
    orElse (.ofOption .str text) substitute = (spoken text).elim substitute .str := by
  cases text with
  | none => rfl
  | some s =>
      rw [spoken_some]
      by_cases hs : s = ""
      · rw [hs]
        rfl
      · simp [orElse, given, Value.ofOption, Value.truthy, hs]

theorem nullable_text_orElse (text : Option String) :
    Reader.nullable .text (orElse (.ofOption .str text) .null) = .ok (spoken text) := by
  rw [orElse_text]
  cases spoken text <;> rfl

theorem text_orElse (text : Option String) :
    Reader.text (orElse (.ofOption .str text) (.str "")) = .ok (text.getD "") := by
  rw [orElse_text]
  cases text with
  | none => rfl
  | some s =>
      rw [spoken_some]
      by_cases hs : s = ""
      · rw [hs]
        rfl
      · rw [if_neg hs]
        rfl

/-- A number counts as given unless it is zero. -/
theorem given_int (n : Int) : given (.int n) = decide (n ≠ 0) := rfl

theorem integer_orElse (n : Option Int) :
    Reader.integer (orElse (.ofOption .int n) (.int 0)) = .ok (n.getD 0) := by
  cases n with
  | none => rfl
  | some n =>
      rw [orElse, Value.ofOption, given_int]
      by_cases hn : n = 0
      · rw [hn]
        rfl
      · rw [decide_eq_true hn]
        rfl

theorem count_said (n : Option Int) : count (.ofOption .int n) = .ok (n.getD 0) := by
  cases n with
  | none => rfl
  | some n =>
      rw [count, Value.ofOption, given_int]
      by_cases hn : n = 0
      · rw [hn]
        rfl
      · rw [decide_eq_true hn]
        rfl

theorem reason_said (text : Option String) :
    reason (.ofOption .str text) = .ok ((spoken text).map FinishReason.ofReported) := by
  cases text with
  | none => rfl
  | some s =>
      rw [spoken_some]
      by_cases hs : s = ""
      · rw [hs]
        rfl
      · simp [reason, FinishReason.ofWire, Value.ofOption, Value.truthy, hs]

/-- The function of a fragment is read from its two members. -/
theorem function_said {v : Value} {name arguments : Option String}
    (h : SaysFunction v name arguments) :
    part v "name" = .ofOption .str name ∧ part v "arguments" = .ofOption .str arguments := by
  cases h with
  | absent => exact ⟨rfl, rfl⟩
  | object hname harguments => exact ⟨hname, harguments⟩

theorem callDelta_said {v : Value} {f : Fragment} (h : SaysFragment v f) :
    callDelta v = .ok f.delta := by
  cases h with
  | object hindex hid hfunction =>
      obtain ⟨hname, harguments⟩ := function_said hfunction
      rw [callDelta, hindex, hid, hname, harguments, integer_orElse,
        Reader.nullable_text, Reader.nullable_text, text_orElse]
      rfl

/-- Fragments are read one by one. -/
theorem fragments_said {v : Value} {fs : List Fragment} (h : SaysFragments v fs) :
    ∃ calls, itemsOf v = .ok calls ∧ calls.mapM callDelta = .ok (fs.map Fragment.delta) := by
  cases h with
  | absent => exact ⟨[], rfl, rfl⟩
  | list h =>
      rename_i calls
      refine ⟨calls, rfl, ?_⟩
      induction h with
      | nil => rfl
      | cons hhead _ ih =>
          rw [List.mapM_cons, callDelta_said hhead, ih]
          rfl

theorem choice_said {m : Members} {content reason : Option String} {fs : List Fragment}
    (hdelta : SaysDelta (part (.dict m) "delta") content fs)
    (hreason : part (.dict m) "finish_reason" = .ofOption .str reason) :
    choice (.dict m) = .ok ⟨.ofOption .str content, fs.map Fragment.delta,
      (spoken reason).map FinishReason.ofReported⟩ := by
  obtain ⟨hcontent, calls, hitems, hcalls⟩ :
      part (part (.dict m) "delta") "content" = .ofOption .str content
        ∧ ∃ calls, itemsOf (part (part (.dict m) "delta") "tool_calls") = .ok calls
          ∧ calls.mapM callDelta = .ok (fs.map Fragment.delta) := by
    generalize part (.dict m) "delta" = delta at hdelta ⊢
    cases hdelta with
    | absent => exact ⟨rfl, [], rfl, rfl⟩
    | object hcontent hfragments => exact ⟨hcontent, fragments_said hfragments⟩
  rw [choice, hitems, hreason, reason_said, hcontent]
  change (calls.mapM callDelta >>= fun toolCalls => _) = _
  rw [hcalls]
  rfl

theorem firstChoice_said {v : Value} {content reason : Option String} {fs : List Fragment}
    (h : SaysChoices v content fs reason) :
    firstChoice v = .ok ⟨.ofOption .str content, fs.map Fragment.delta,
      (spoken reason).map FinishReason.ofReported⟩ := by
  cases h with
  | absent => rfl
  | empty => rfl
  | first hdelta hreason =>
      rw [firstChoice]
      exact choice_said hdelta hreason

theorem usage_said {v : Value} {counts : Option Counts} (h : SaysUsage v counts) :
    usage v = .ok (counts.map Counts.usage) := by
  cases h with
  | absent => rfl
  | object hprompt hcompletion htotal =>
      rw [usage]
      · rw [hprompt, hcompletion, htotal, count_said, count_said, count_said]
        rfl
      · exact fun h => nomatch h

/-- **A documented chunk is read as what it says.** -/
theorem chunk_said {raw : Value} {said : Said} (h : Says raw said) :
    chunk raw = .ok said.chunk := by
  cases h with
  | object hchoices hid hmodel husage =>
      rw [chunk, firstChoice_said hchoices, usage_said husage, hid, hmodel]
      change Checked.toOutcome (_ <$> Checked.under _ (Reader.nullable .text _)
        <*> _ <*> _ <*> _ <*> _ <*> _) = _
      rw [Reader.nullable_text, nullable_text_orElse, nullable_text_orElse]
      rfl

/-- **Documented chunks are read one by one**, and none of them fails. -/
theorem mapM_chunk_said {raws : List Value} {saids : List Said}
    (h : List.Forall₂ Says raws saids) : raws.mapM chunk = .ok (saids.map Said.chunk) := by
  induction h with
  | nil => rfl
  | cons hhead _ ih =>
      rw [List.mapM_cons, chunk_said hhead, ih]
      rfl

end CompletionStream.Wire
