import CompletionStream.Proofs.Counting.Recall
import Mathlib.Algebra.BigOperators.Group.List.Basic
import Mathlib.Algebra.Ring.Int.Defs

/-!
# Estimates — what messages amount to

An estimate of messages is a sum: every message has a size, its frame and its texts together,
and the reply is primed once (`estimate`).  Whatever was counted before, a count over a
vocabulary is this sum over the encoding of the moment, unless that refuses one of the texts
(`countMessages_eq`).

What holds of sums holds of estimates.  Estimates of two histories add up to that of both at
once, but for the reply that is counted twice; the order of messages plays no part; and since
every role has a word, a message is never smaller than its frame and one token.
-/

namespace CompletionStream

/-- No text vanishes that an encoding takes: one that is not empty has a token at least. -/
def Encoding.Positive (encoding : Encoding) : Prop :=
  ∀ s, s ≠ "" → ∀ n ∈ encoding s, 0 < n

namespace Vocabulary

/-- The encoding for a model: its own, or the fixed one where the model is unknown. -/
def encodingOf (vocabulary : Vocabulary) (model : String) : Encoding :=
  (vocabulary.forModel? model).getD (vocabulary.named "cl100k_base")

/-- A vocabulary that knows one model and counts its texts letter by letter; all others have
    two tokens a letter. -/
def letters : Vocabulary where
  forModel? name := if name = "gpt-4o" then some fun s => some s.length else none
  named _ s := some (2 * s.length)

theorem letters_positive : (letters.encodingOf "llama").Positive := by
  intro s hs n hn
  have htwo : 2 * s.length = n := Option.some.inj hn
  have hlength : s.length ≠ 0 := fun hzero => hs (String.length_eq_zero_iff.mp hzero)
  omega

end Vocabulary

namespace Tally

/-- What has counted nothing yet counts with the encoding for its model. -/
theorem current_fresh (vocabulary : Vocabulary) (model : String) :
    fresh.current vocabulary model = vocabulary.encodingOf model := by
  rw [current, resolve.eq_def, fresh, Vocabulary.encodingOf]
  cases vocabulary.forModel? model <;> rfl

variable (encoding : Encoding)

-- ── Sizes ──────────────────────────────────────────────────────────────────────────

theorem total_eq_sum (texts : List String) :
    total encoding texts = (texts.map (size encoding)).sum := by
  rw [List.sum, List.foldr_map]
  rfl

theorem total_append (xs ys : List String) :
    total encoding (xs ++ ys) = total encoding xs + total encoding ys := by
  rw [total_eq_sum, total_eq_sum, total_eq_sum, List.map_append, List.sum_append]

/-- The order of texts does not matter. -/
theorem total_perm {xs ys : List String} (h : xs.Perm ys) :
    total encoding xs = total encoding ys := by
  rw [total_eq_sum, total_eq_sum, (h.map (size encoding)).sum_eq]

theorem size_nonneg (s : String) : 0 ≤ size encoding s := by
  rw [size]
  split
  · exact Int.le_refl 0
  · exact Int.natCast_nonneg _

theorem total_nonneg (texts : List String) : 0 ≤ total encoding texts := by
  induction texts with
  | nil => exact Int.le_refl 0
  | cons s rest ih => exact Int.add_nonneg (size_nonneg encoding s) ih

/-- Empty texts do not count. -/
theorem total_filter (texts : List String) :
    total encoding (texts.filter (· ≠ "")) = total encoding texts := by
  induction texts with
  | nil => rfl
  | cons s rest ih =>
      by_cases hs : s = ""
      · rw [List.filter_cons_of_neg (by simpa using hs), ih, hs]
        exact (Int.zero_add _).symm
      · rw [List.filter_cons_of_pos (by simpa using hs)]
        exact congrArg (size encoding s + ·) ih

/-- The size of a message: its frame and its texts. -/
def messageSize (m : Message) : Int :=
  messageCost m + total encoding (messageTexts m)

/-- What messages and the reply amount to. -/
def estimate (messages : List Message) : Int :=
  (messages.map (messageSize encoding)).sum + perReply

/-- The frames of messages, and all their texts in one row, are their sizes. -/
theorem foldl_messageCost (messages : List Message) (n : Int) :
    messages.foldl (fun n m => n + messageCost m)
        (n + total encoding (messages.flatMap messageTexts))
      = n + (messages.map (messageSize encoding)).sum := by
  induction messages generalizing n with
  | nil => rfl
  | cons m rest ih =>
      have hsplit : n + total encoding ((m :: rest).flatMap messageTexts) + messageCost m
          = (n + messageSize encoding m) + total encoding (rest.flatMap messageTexts) := by
        rw [List.flatMap_cons, total_append, messageSize]
        omega
      rw [List.foldl_cons, hsplit, ih, List.map_cons, List.sum_cons, Int.add_assoc]

/-- What messages come to: their estimate, if none of their texts is refused. -/
def estimated (messages : List Message) : Outcome Int :=
  if encoding.Takes (messages.flatMap messageTexts) then .ok (estimate encoding messages)
  else .error .wrongValue

/-- **Counting messages is estimating them** with the encoding of the moment. -/
theorem countMessages_eq (vocabulary : Vocabulary) (model : String) (messages : List Message)
    (tally : Tally) :
    (tally.countMessages vocabulary model messages).1
      = estimated (tally.current vocabulary model) messages := by
  have hsum := foldl_messageCost (tally.current vocabulary model) messages 0
  rw [Int.zero_add, Int.zero_add] at hsum
  rw [estimated, estimate, ← hsum]
  show Except.map _ (tally.countTexts vocabulary model _).1 = _
  rw [(countTexts_eq vocabulary model _ tally).1, amount]
  split <;> rfl

-- ── Laws of estimates ──────────────────────────────────────────────────────────────

/-- Two estimates count the reply twice. -/
theorem estimate_append (a b : List Message) :
    estimate encoding (a ++ b) + perReply = estimate encoding a + estimate encoding b := by
  rw [estimate, estimate, estimate, List.map_append, List.sum_append]
  omega

/-- The order of messages does not matter. -/
theorem estimate_perm {a b : List Message} (h : a.Perm b) :
    estimate encoding a = estimate encoding b := by
  rw [estimate, estimate, (h.map (messageSize encoding)).sum_eq]

theorem word_ne_empty (role : Role) : role.word ≠ "" := by
  cases role <;> decide

theorem perMessage_le_messageCost (m : Message) : perMessage ≤ messageCost m := by
  rw [messageCost]
  split
  · exact Int.le_of_eq (Int.add_zero _).symm
  · decide

variable {encoding}

/-- A text that is taken and not empty has a token. -/
theorem one_le_size (h : encoding.Positive) {s : String} (hs : s ≠ "")
    (htaken : encoding.Takes [s]) : 1 ≤ size encoding s := by
  obtain ⟨n, hn⟩ := Option.isSome_iff_exists.mp (htaken s List.mem_cons_self hs)
  rw [size, if_neg hs, hn]
  exact Int.ofNat_le.mpr (h s hs n hn)

/-- A message has its frame and the word for its role at least. -/
theorem four_le_messageSize (h : encoding.Positive) {m : Message}
    (htaken : encoding.Takes (messageTexts m)) : 4 ≤ messageSize encoding m := by
  have hcost := perMessage_le_messageCost m
  have hword : 1 ≤ size encoding m.role.word :=
    one_le_size h (word_ne_empty m.role)
      (List.forall_mem_singleton.mpr (htaken _ List.mem_cons_self))
  have hrest := total_nonneg encoding
    ([m.content.getD "", m.name.getD ""] ++ toolCallTexts m.toolCalls)
  have htexts : total encoding (messageTexts m) = size encoding m.role.word
      + total encoding ([m.content.getD "", m.name.getD ""] ++ toolCallTexts m.toolCalls) := rfl
  rw [perMessage] at hcost
  rw [messageSize, htexts]
  omega

/-- So messages have at least four tokens each, beside the reply. -/
theorem estimate_ge (h : encoding.Positive) {messages : List Message}
    (htaken : encoding.Takes (messages.flatMap messageTexts)) :
    3 + 4 * (messages.length : Int) ≤ estimate encoding messages := by
  have hsum : 4 * (messages.length : Int) ≤ (messages.map (messageSize encoding)).sum := by
    induction messages with
    | nil => exact Int.le_refl 0
    | cons m rest ih =>
        rw [List.flatMap_cons] at htaken
        obtain ⟨hfirst, hrest⟩ := Encoding.Takes.append_iff.mp htaken
        have hhead := four_le_messageSize h hfirst
        have htail := ih hrest
        rw [List.map_cons, List.sum_cons, List.length_cons]
        omega
  rw [estimate, perReply]
  omega

end Tally

end CompletionStream
