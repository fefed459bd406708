import CompletionStream.Proofs.Counting.Estimates
import CompletionStream.Proofs.Wire.Messages

/-!
# Unsent — what an estimate counts and the wire leaves out

A message has room for more than its role speaks of, and the wire leaves the rest out
(`message_sent`).  An estimate does not: it counts every name, and the tool calls of every
message.  So an estimate is that of what is sent and the tokens of what is not
(`estimated_eq_sent`), and it is refused if either is.  Histories that are the same on the wire
have the same estimate of the first part (`estimated_sent`).

Where a role has no more than it speaks of, the estimate is that of what is sent.  Otherwise two
histories that the provider cannot tell apart have one estimate under all encodings exactly if
they hide the same number of names and, in any order, the same texts (`estimate_counts_sent`).
-/

namespace CompletionStream

namespace Message

/-- What of a message is sent: a name of users only, an id of answers of tools only, and tool
    calls of the assistant only. -/
def sent (m : Message) : Message :=
  { m with
    name := if m.role = .user then m.name else none
    toolCallId := if m.role = .tool then m.toolCallId else none
    toolCalls := if m.role = .assistant then m.toolCalls else [] }

/-- A name that is not sent, unless it is empty. -/
def unsentName (m : Message) : List String :=
  if m.role = .user ∨ m.name.getD "" = "" then [] else [m.name.getD ""]

/-- The texts of tool calls that are not sent, except for empty ones. -/
def unsentCalls (m : Message) : List String :=
  if m.role = .assistant then [] else (Tally.toolCallTexts m.toolCalls).filter (· ≠ "")

/-- A message has no more than its role speaks of. -/
structure Fitting (m : Message) : Prop where
  name : m.role ≠ .user → m.name.getD "" = ""
  toolCalls : m.role ≠ .assistant → m.toolCalls = []

end Message

namespace Wire

variable {a b : Message}

theorem agree_sent (m : Message) : Agree m.sent m := by
  cases h : m.role with
  | system => exact .system h h rfl
  | user => exact .user h h rfl (congrArg (Option.getD · "") (if_pos h))
  | assistant =>
      have hsent : m.sent.toolCalls = m.toolCalls := if_pos h
      by_cases hcalls : m.toolCalls = []
      · exact .answering h h (hsent.trans hcalls) hcalls rfl
      · exact .calling h h (hsent ▸ hcalls) hsent rfl
  | tool => exact .tool h h (if_pos h) rfl

/-- **What is not sent leaves no trace on the wire.** -/
theorem message_sent (m : Message) : message m.sent = message m :=
  message_eq_of_agree (agree_sent m)

/-- Messages that agree share their role and content, and what is sent of the rest. -/
theorem sent_of_agree (h : Agree a b) :
    a.role = b.role ∧ SameText a.content b.content ∧ SameText a.sent.name b.sent.name
      ∧ a.sent.toolCalls = b.sent.toolCalls := by
  rw [Message.sent, Message.sent]
  cases h with
  | system ha hb hcontent =>
      exact ⟨ha.trans hb.symm, hcontent, by simp [SameText, ha, hb], by simp [ha, hb]⟩
  | user ha hb hcontent hname =>
      exact ⟨ha.trans hb.symm, hcontent, by simpa [ha, hb] using hname, by simp [ha, hb]⟩
  | calling ha hb _ hcalls hcontent =>
      exact ⟨ha.trans hb.symm, congrArg (Option.getD · "") hcontent,
        by simp [SameText, ha, hb], by simp [ha, hb, hcalls]⟩
  | answering ha hb hacalls hbcalls hcontent =>
      exact ⟨ha.trans hb.symm, hcontent, by simp [SameText, ha, hb],
        by simp [ha, hb, hacalls, hbcalls]⟩
  | tool ha hb _ hcontent =>
      exact ⟨ha.trans hb.symm, hcontent, by simp [SameText, ha, hb], by simp [ha, hb]⟩

end Wire

namespace Tally

open Wire (Agree)

variable {a b : Message} (encoding : Encoding)

-- ── What is taken ──────────────────────────────────────────────────────────────────

/-- An empty text is never refused. -/
theorem takes_filter (texts : List String) :
    encoding.Takes (texts.filter (· ≠ "")) ↔ encoding.Takes texts := by
  constructor
  · intro h s hs hne
    exact h s (List.mem_filter.mpr ⟨hs, decide_eq_true hne⟩) hne
  · exact fun h s hs => h s (List.mem_of_mem_filter hs)

theorem takes_name (m : Message) :
    encoding.Takes [m.name.getD ""]
      ↔ encoding.Takes [m.sent.name.getD ""] ∧ encoding.Takes m.unsentName := by
  have hempty : encoding.Takes [""] := List.forall_mem_singleton.mpr fun hne => absurd rfl hne
  by_cases hrole : m.role = .user
  · have hsent : m.sent.name = m.name := if_pos hrole
    have hnone : m.unsentName = [] := if_pos (.inl hrole)
    rw [hsent, hnone]
    exact (and_iff_left Encoding.Takes.nil).symm
  · have hsent : m.sent.name = none := if_neg hrole
    rw [hsent, Message.unsentName]
    by_cases hname : m.name.getD "" = ""
    · rw [if_pos (.inr hname), hname]
      exact (and_iff_left Encoding.Takes.nil).symm
    · rw [if_neg fun h => h.elim hrole hname]
      exact (and_iff_right hempty).symm

theorem takes_toolCalls (m : Message) :
    encoding.Takes (toolCallTexts m.toolCalls)
      ↔ encoding.Takes (toolCallTexts m.sent.toolCalls) ∧ encoding.Takes m.unsentCalls := by
  by_cases hrole : m.role = .assistant
  · have hsent : m.sent.toolCalls = m.toolCalls := if_pos hrole
    have hnone : m.unsentCalls = [] := if_pos hrole
    rw [hsent, hnone]
    exact (and_iff_left Encoding.Takes.nil).symm
  · have hsent : m.sent.toolCalls = [] := if_neg hrole
    rw [hsent, Message.unsentCalls, if_neg hrole, takes_filter]
    exact (and_iff_right Encoding.Takes.nil).symm

/-- The texts of a message are taken if those are that are sent and those that are not. -/
theorem takes_message (m : Message) :
    encoding.Takes (messageTexts m)
      ↔ encoding.Takes (messageTexts m.sent)
        ∧ encoding.Takes (m.unsentName ++ m.unsentCalls) := by
  have hsplit (m : Message) : encoding.Takes (messageTexts m)
      ↔ encoding.Takes [m.role.word, m.content.getD ""]
        ∧ encoding.Takes [m.name.getD ""] ∧ encoding.Takes (toolCallTexts m.toolCalls) := by
    rw [← Encoding.Takes.append_iff, ← Encoding.Takes.append_iff]
    rfl
  have hrole : m.sent.role = m.role := rfl
  have hcontent : m.sent.content = m.content := rfl
  rw [hsplit m, hsplit m.sent, hrole, hcontent, takes_name, takes_toolCalls,
    Encoding.Takes.append_iff]
  exact ⟨fun ⟨hhead, ⟨hname, hother⟩, hcalls, hrest⟩ =>
      ⟨⟨hhead, hname, hcalls⟩, hother, hrest⟩,
    fun ⟨⟨hhead, hname, hcalls⟩, hother, hrest⟩ =>
      ⟨hhead, ⟨hname, hother⟩, hcalls, hrest⟩⟩

-- ── What is sent and what is not ───────────────────────────────────────────────────

/-- What a name costs, with its text. -/
def nameSize (name : String) : Int :=
  (if name = "" then 0 else perName) + size encoding name

theorem messageSize_eq (m : Message) :
    messageSize encoding m
      = perMessage + size encoding m.role.word + size encoding (m.content.getD "")
        + nameSize encoding (m.name.getD "") + total encoding (toolCallTexts m.toolCalls) := by
  have htexts : total encoding (messageTexts m)
      = size encoding m.role.word + (size encoding (m.content.getD "")
        + (size encoding (m.name.getD "") + total encoding (toolCallTexts m.toolCalls))) := rfl
  rw [messageSize, messageCost, nameSize, htexts]
  omega

/-- What the size of a message has that is not sent. -/
def unsentSize (m : Message) : Int :=
  (m.unsentName.length : Int) * perName + total encoding (m.unsentName ++ m.unsentCalls)

theorem nameSize_eq_sent (m : Message) :
    nameSize encoding (m.name.getD "")
      = nameSize encoding (m.sent.name.getD "")
        + ((m.unsentName.length : Int) * perName + total encoding m.unsentName) := by
  by_cases hrole : m.role = .user
  · have hsent : m.sent.name = m.name := if_pos hrole
    have hnone : m.unsentName = [] := if_pos (.inl hrole)
    rw [hsent, hnone]
    exact (Int.add_zero _).symm
  · have hsent : m.sent.name = none := if_neg hrole
    rw [hsent, Message.unsentName]
    by_cases hname : m.name.getD "" = ""
    · rw [if_pos (.inr hname), hname]
      rfl
    · rw [if_neg fun h => h.elim hrole hname, nameSize, if_neg hname]
      show perName + size encoding (m.name.getD "")
        = 0 + (1 * perName + (size encoding (m.name.getD "") + 0))
      omega

theorem toolCalls_eq_sent (m : Message) :
    total encoding (toolCallTexts m.toolCalls)
      = total encoding (toolCallTexts m.sent.toolCalls) + total encoding m.unsentCalls := by
  by_cases hrole : m.role = .assistant
  · have hsent : m.sent.toolCalls = m.toolCalls := if_pos hrole
    have hnone : m.unsentCalls = [] := if_pos hrole
    rw [hsent, hnone]
    exact (Int.add_zero _).symm
  · have hsent : m.sent.toolCalls = [] := if_neg hrole
    rw [hsent, Message.unsentCalls, if_neg hrole, total_filter]
    exact (Int.zero_add _).symm

/-- The size of a message is that of what is sent and that of what is not. -/
theorem messageSize_eq_sent (m : Message) :
    messageSize encoding m = messageSize encoding m.sent + unsentSize encoding m := by
  have hrole : m.sent.role = m.role := rfl
  have hcontent : m.sent.content = m.content := rfl
  have hname := nameSize_eq_sent encoding m
  have hcalls := toolCalls_eq_sent encoding m
  rw [messageSize_eq encoding m, messageSize_eq encoding m.sent, unsentSize, total_append,
    hrole, hcontent]
  omega

/-- Messages that agree have the same frame and the same texts, but for what is not sent. -/
theorem counted_sent (h : Agree a b) :
    messageCost a.sent = messageCost b.sent ∧ messageTexts a.sent = messageTexts b.sent := by
  obtain ⟨hrole, hcontent, hname, hcalls⟩ := Wire.sent_of_agree h
  have hsent (m : Message) : m.sent.role = m.role ∧ m.sent.content = m.content := ⟨rfl, rfl⟩
  constructor
  · rw [messageCost, messageCost, hname]
  · rw [messageTexts, messageTexts, (hsent a).1, (hsent b).1, (hsent a).2, (hsent b).2, hrole,
      hcontent, hname, hcalls]

-- ── Histories ──────────────────────────────────────────────────────────────────────

/-- The names in a history that are not sent. -/
def unsentNames (messages : List Message) : List String :=
  messages.flatMap Message.unsentName

/-- The texts in a history that are not sent. -/
def unsentTexts (messages : List Message) : List String :=
  messages.flatMap fun m => m.unsentName ++ m.unsentCalls

theorem nothing_unsent {messages : List Message} (h : ∀ m ∈ messages, m.Fitting) :
    unsentNames messages = [] ∧ unsentTexts messages = [] := by
  have hname (m : Message) (hfitting : m.Fitting) : m.unsentName = [] := by
    by_cases hrole : m.role = .user
    · exact if_pos (.inl hrole)
    · exact if_pos (.inr (hfitting.name hrole))
  have hcalls (m : Message) (hfitting : m.Fitting) : m.unsentCalls = [] := by
    by_cases hrole : m.role = .assistant
    · exact if_pos hrole
    · rw [Message.unsentCalls, if_neg hrole, hfitting.toolCalls hrole]
      rfl
  constructor
  · exact List.flatMap_eq_nil_iff.mpr fun m hmem => hname m (h m hmem)
  · refine List.flatMap_eq_nil_iff.mpr fun m hmem => ?_
    rw [hname m (h m hmem), hcalls m (h m hmem), List.append_nil]

/-- The tokens of what is not sent. -/
def unsentTotal (messages : List Message) : Int :=
  ((unsentNames messages).length : Int) * perName + total encoding (unsentTexts messages)

theorem unsentTotal_cons (m : Message) (rest : List Message) :
    unsentTotal encoding (m :: rest) = unsentSize encoding m + unsentTotal encoding rest := by
  rw [unsentTotal, unsentTotal, unsentSize, unsentNames, unsentTexts, List.flatMap_cons,
    List.flatMap_cons, total_append, List.length_append, perName, ← unsentNames, ← unsentTexts]
  omega

/-- What an estimate has for what is not sent, which may be refused. -/
def unsent (messages : List Message) : Outcome Int :=
  if encoding.Takes (unsentTexts messages) then .ok (unsentTotal encoding messages)
  else .error .wrongValue

/-- The size of a history is that of what is sent, and the tokens of what is not. -/
theorem estimate_eq_sent (messages : List Message) :
    estimate encoding messages
      = estimate encoding (messages.map Message.sent) + unsentTotal encoding messages := by
  have hsum : (messages.map (messageSize encoding)).sum
      = ((messages.map Message.sent).map (messageSize encoding)).sum
        + unsentTotal encoding messages := by
    induction messages with
    | nil => rfl
    | cons m rest ih =>
        rw [List.map_cons, List.sum_cons, ih, List.map_cons, List.map_cons, List.sum_cons,
          unsentTotal_cons, messageSize_eq_sent encoding m]
        omega
  rw [estimate, estimate, hsum]
  omega

/-- The texts of a history are taken if those are that are sent and those that are not. -/
theorem takes_history (messages : List Message) :
    encoding.Takes (messages.flatMap messageTexts)
      ↔ encoding.Takes ((messages.map Message.sent).flatMap messageTexts)
        ∧ encoding.Takes (unsentTexts messages) := by
  induction messages with
  | nil => exact (and_iff_left Encoding.Takes.nil).symm
  | cons m rest ih =>
      rw [List.map_cons, unsentTexts, List.flatMap_cons, List.flatMap_cons, List.flatMap_cons,
        Encoding.Takes.append_iff, Encoding.Takes.append_iff, Encoding.Takes.append_iff, ih,
        takes_message]
      exact and_and_and_comm

/-- **An estimate is that of what is sent, and the tokens of what is not.** -/
theorem estimated_eq_sent (messages : List Message) :
    estimated encoding messages
      = (estimated encoding (messages.map Message.sent)).bind fun n =>
          (unsent encoding messages).map (n + ·) := by
  rw [estimated, estimated, unsent, estimate_eq_sent]
  by_cases hsent : encoding.Takes ((messages.map Message.sent).flatMap messageTexts)
  · rw [if_pos hsent]
    by_cases hunsent : encoding.Takes (unsentTexts messages)
    · rw [if_pos ((takes_history encoding messages).mpr ⟨hsent, hunsent⟩), if_pos hunsent]
      rfl
    · rw [if_neg fun h => hunsent ((takes_history encoding messages).mp h).2, if_neg hunsent]
      rfl
  · rw [if_neg fun h => hsent ((takes_history encoding messages).mp h).1, if_neg hsent]
    rfl

variable {as bs : List Message}

/-- Histories that agree have the same estimate, but for what is not sent. -/
theorem estimated_sent (h : List.Forall₂ Agree as bs) :
    estimated encoding (as.map Message.sent) = estimated encoding (bs.map Message.sent) := by
  have hboth : (as.map Message.sent).flatMap messageTexts
        = (bs.map Message.sent).flatMap messageTexts
      ∧ (as.map Message.sent).map (messageSize encoding)
        = (bs.map Message.sent).map (messageSize encoding) := by
    induction h with
    | nil => exact ⟨rfl, rfl⟩
    | cons hhead _ ih =>
        obtain ⟨hcost, htexts⟩ := counted_sent hhead
        simp only [List.map_cons, List.flatMap_cons]
        rw [messageSize, messageSize, hcost, htexts, ih.1, ih.2]
        exact ⟨rfl, rfl⟩
  rw [estimated, estimated, estimate, estimate, hboth.1, hboth.2]

-- ── Encodings that tell texts apart ────────────────────────────────────────────────

/-- The encoding that has two tokens for one text and one for every other. -/
def singling (text : String) : Encoding :=
  fun s => some (if s = text then 2 else 1)

theorem singling_positive (text : String) : (singling text).Positive := by
  intro s _ n hn
  have hcount : (if s = text then 2 else 1) = n := Option.some.inj hn
  rw [← hcount]
  split <;> decide

/-- It counts all texts, and one of them twice. -/
theorem total_singling {texts : List String} (h : ∀ s ∈ texts, s ≠ "") (text : String) :
    total (singling text) texts = (texts.length : Int) + (texts.count text : Int) := by
  induction texts with
  | nil => rfl
  | cons s rest ih =>
      obtain ⟨hs, hrest⟩ := List.forall_mem_cons.mp h
      show size (singling text) s + total (singling text) rest = _
      rw [ih hrest, size, if_neg hs, singling, Option.getD_some, List.length_cons,
        List.count_cons]
      by_cases htext : s = text
      · rw [if_pos htext, if_pos (beq_iff_eq.mpr htext)]
        omega
      · rw [if_neg htext, if_neg fun heq => htext (beq_iff_eq.mp heq)]
        omega

theorem unsentTexts_ne_empty (messages : List Message) :
    ∀ s ∈ unsentTexts messages, s ≠ "" := by
  intro s hmem
  obtain ⟨m, -, hs⟩ := List.mem_flatMap.mp hmem
  rcases List.mem_append.mp hs with hname | hcall
  · rw [Message.unsentName] at hname
    split at hname
    · exact nomatch hname
    · rename_i hnone
      rw [List.mem_singleton.mp hname]
      exact fun hempty => hnone (.inr hempty)
  · rw [Message.unsentCalls] at hcall
    split at hcall
    · exact nomatch hcall
    · exact of_decide_eq_true (List.mem_filter.mp hcall).2

/-- Two histories leave the same out: as many names, and the same texts in any order. -/
structure HideAlike (as bs : List Message) : Prop where
  names : (unsentNames as).length = (unsentNames bs).length
  texts : (unsentTexts as).Perm (unsentTexts bs)

/-- What is left out alike has the same tokens, or is refused alike. -/
theorem HideAlike.unsent_eq (h : HideAlike as bs) : unsent encoding as = unsent encoding bs := by
  have htakes : encoding.Takes (unsentTexts as) ↔ encoding.Takes (unsentTexts bs) :=
    forall_congr' fun s => imp_congr_left h.texts.mem_iff
  rw [unsent, unsent, unsentTotal, unsentTotal, h.names, total_perm encoding h.texts]
  simp only [htakes]

/-- **Nothing else has the same tokens under every encoding**, even if no text vanishes or is
    refused. -/
theorem hideAlike_of_unsent (h : ∀ encoding : Encoding, encoding.Positive →
    (∀ texts, encoding.Takes texts) → unsentTotal encoding as = unsentTotal encoding bs) :
    HideAlike as bs := by
  have hall (text : String) : ((unsentNames as).length : Int) + (unsentTexts as).length
        + (unsentTexts as).count text
      = (unsentNames bs).length + (unsentTexts bs).length + (unsentTexts bs).count text := by
    have htext := h (singling text) (singling_positive text) fun _ _ _ _ => rfl
    rw [unsentTotal, unsentTotal, total_singling (unsentTexts_ne_empty as),
      total_singling (unsentTexts_ne_empty bs), perName] at htext
    omega
  -- the empty text is never left out, so its encoding counts names and texts only
  have hempty (messages : List Message) : (unsentTexts messages).count "" = 0 :=
    List.count_eq_zero.mpr fun hmem => unsentTexts_ne_empty messages "" hmem rfl
  have hbase := hall ""
  rw [hempty, hempty] at hbase
  have htexts : (unsentTexts as).Perm (unsentTexts bs) := by
    rw [List.perm_iff_count]
    intro text
    have htext := hall text
    omega
  refine ⟨?_, htexts⟩
  have hlength := htexts.length_eq
  omega

/-- Whoever counts them, whatever is remembered, two histories have the same estimate, or both
    are refused. -/
def CountAlike (as bs : List Message) : Prop :=
  ∀ (vocabulary : Vocabulary) (model : String) (tally : Tally),
    (tally.countMessages vocabulary model as).1 = (tally.countMessages vocabulary model bs).1

/-- Counting is counting what is sent, and then what is not. -/
theorem countMessages_eq_sent (messages : List Message) (vocabulary : Vocabulary)
    (model : String) (tally : Tally) :
    (tally.countMessages vocabulary model messages).1
      = (tally.countMessages vocabulary model (messages.map Message.sent)).1.bind fun n =>
          (unsent (tally.current vocabulary model) messages).map (n + ·) := by
  rw [countMessages_eq, countMessages_eq, estimated_eq_sent]

/-- What is sent of histories that agree has the same estimate. -/
theorem countAlike_sent (h : List.Forall₂ Agree as bs) :
    CountAlike (as.map Message.sent) (bs.map Message.sent) := by
  intro vocabulary model tally
  rw [countMessages_eq, countMessages_eq, estimated_sent _ h]

/-- **AN ESTIMATE COUNTS WHAT IS SENT, AND WHAT IS NOT.**  Two histories that are the same on the
    wire have the same estimate if no message has more than its role speaks of.  In general what
    is sent of them has, and every estimate is that of what is sent, with the tokens of the names
    and tool calls that are not; where one of these texts is refused, so is the estimate.  Two
    histories have the same estimate under every encoding if they leave the same out, and only
    then, even if no text vanishes or is refused. -/
theorem estimate_counts_sent {as bs : List Message}
    (h : Value.Same (.list (as.map Wire.message)) (.list (bs.map Wire.message))) :
    ((∀ m ∈ as, m.Fitting) → (∀ m ∈ bs, m.Fitting) → CountAlike as bs)
      ∧ CountAlike (as.map Message.sent) (bs.map Message.sent)
      ∧ (∀ messages : List Message,
          (messages.map Message.sent).map Wire.message = messages.map Wire.message
            ∧ ∀ (vocabulary : Vocabulary) (model : String) (tally : Tally),
              (tally.countMessages vocabulary model messages).1
                = (tally.countMessages vocabulary model (messages.map Message.sent)).1.bind
                    fun n => (unsent (tally.current vocabulary model) messages).map (n + ·))
      ∧ (HideAlike as bs → CountAlike as bs)
      ∧ ((∀ (vocabulary : Vocabulary) (model : String),
            (vocabulary.encodingOf model).Positive →
            (∀ texts, (vocabulary.encodingOf model).Takes texts) →
              (fresh.countMessages vocabulary model as).1
                = (fresh.countMessages vocabulary model bs).1)
          → HideAlike as bs) := by
  have hsent : CountAlike (as.map Message.sent) (bs.map Message.sent) :=
    countAlike_sent (Wire.history_same_iff_agree.mp h)
  have hhide (hide : HideAlike as bs) : CountAlike as bs := by
    intro vocabulary model tally
    rw [countMessages_eq_sent as, countMessages_eq_sent bs, hsent, hide.unsent_eq]
  refine ⟨?_, hsent, ?_, hhide, ?_⟩
  · intro has hbs
    refine hhide ⟨?_, ?_⟩
    · rw [(nothing_unsent has).1, (nothing_unsent hbs).1]
    · rw [(nothing_unsent has).2, (nothing_unsent hbs).2]
  · intro messages
    refine ⟨?_, countMessages_eq_sent messages⟩
    rw [List.map_map]
    exact List.map_congr_left fun m _ => Wire.message_sent m
  · intro hall
    refine hideAlike_of_unsent fun encoding hpositive htakes => ?_
    -- a vocabulary in which every model has this encoding
    let vocabulary : Vocabulary := ⟨fun _ => some encoding, fun _ => encoding⟩
    have hsame := hall vocabulary "" hpositive htakes
    have hequal := estimated_sent encoding (Wire.history_same_iff_agree.mp h)
    rw [countMessages_eq, countMessages_eq, current_fresh] at hsame
    have hestimates : estimate encoding as = estimate encoding bs := by
      have hboth : estimated encoding as = estimated encoding bs := hsame
      rw [estimated, estimated, if_pos (htakes _), if_pos (htakes _)] at hboth
      exact Except.ok.inj hboth
    rw [estimated, estimated, if_pos (htakes _), if_pos (htakes _)] at hequal
    rw [estimate_eq_sent encoding as, estimate_eq_sent encoding bs, Except.ok.inj hequal]
      at hestimates
    exact Int.add_left_cancel hestimates

/-- A turn of the assistant with a name, and the answer of a tool. -/
def nameFirst : List Message :=
  [⟨.assistant, some "a", some "x", none, []⟩, ⟨.tool, some "b", none, some "t", []⟩]

/-- The same turns, the name beside the answer. -/
def nameSecond : List Message :=
  [⟨.assistant, some "a", none, none, []⟩, ⟨.tool, some "b", some "x", some "t", []⟩]

/-- A turn of a user without content. -/
def silent : List Message := [⟨.user, none, some "", none, []⟩]

/-- The same turn with empty content, and an id that is not sent. -/
def silentText : List Message := [⟨.user, some "", none, some "t", []⟩]

/-- A name that is not sent costs the same wherever it stands; and where nothing that is counted
    is left out, missing content costs the same as empty content. -/
theorem estimate_counts_sent_moved :
    nameFirst.map Wire.message = nameSecond.map Wire.message
      ∧ HideAlike nameFirst nameSecond ∧ CountAlike nameFirst nameSecond
      ∧ silent.map Wire.message = silentText.map Wire.message
      ∧ CountAlike silent silentText ∧ HideAlike silent silentText := by
  have hsame {as bs : List Message} (heq : as.map Wire.message = bs.map Wire.message) :
      Value.Same (.list (as.map Wire.message)) (.list (bs.map Wire.message)) := heq ▸ .refl _
  have hfitting (m : Message) (huser : m.role = .user) (hcalls : m.toolCalls = []) : m.Fitting :=
    ⟨fun hother => absurd huser hother, fun _ => hcalls⟩
  have hmoved : nameFirst.map Wire.message = nameSecond.map Wire.message := rfl
  have hempty : silent.map Wire.message = silentText.map Wire.message := rfl
  have hhide : HideAlike nameFirst nameSecond := ⟨rfl, .refl _⟩
  obtain ⟨-, -, -, hcount, -⟩ := estimate_counts_sent (hsame hmoved)
  obtain ⟨hplain, -, -, -, honly⟩ := estimate_counts_sent (hsame hempty)
  have hsilent : CountAlike silent silentText :=
    hplain (List.forall_mem_singleton.mpr (hfitting _ rfl rfl))
      (List.forall_mem_singleton.mpr (hfitting _ rfl rfl))
  exact ⟨hmoved, hhide, hcount hhide, hempty, hsilent,
    honly fun vocabulary model _ _ => hsilent vocabulary model fresh⟩

/-- **A name and tool calls that are not sent are counted all the same.** -/
theorem unsent_counted :
    ([⟨.assistant, some "hi", some "bob", none, []⟩].map Wire.message
        = [⟨.assistant, some "hi", none, none, []⟩].map Wire.message
      ∧ (fresh.countMessages .letters "gpt-4o"
          [⟨.assistant, some "hi", some "bob", none, []⟩]).1 = .ok 21
      ∧ (fresh.countMessages .letters "gpt-4o"
          [⟨.assistant, some "hi", none, none, []⟩]).1 = .ok 17)
      ∧ [⟨.user, some "hi", none, none, [⟨none, "f", "()"⟩]⟩].map Wire.message
        = [⟨.user, some "hi", none, none, []⟩].map Wire.message
      ∧ (fresh.countMessages .letters "gpt-4o"
          [⟨.user, some "hi", none, none, [⟨none, "f", "()"⟩]⟩]).1 = .ok 15
      ∧ (fresh.countMessages .letters "gpt-4o" [⟨.user, some "hi", none, none, []⟩]).1 = .ok 12 :=
  ⟨⟨rfl, rfl, rfl⟩, rfl, rfl, rfl⟩

end Tally

end CompletionStream
