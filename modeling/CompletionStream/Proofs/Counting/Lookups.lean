import CompletionStream.Proofs.Counting.Estimates

/-!
# Look-ups — one estimator asked again and again

An estimator is asked for texts, messages and tool calls in any order, and keeps its encoding
from one question to the next.  What it answers shows nothing of that (`answerAll_eq`).

What it remembers comes from the texts of all questions in one row, counted one after the other
(`answerAll_tally`): empty texts leave no trace, the first other text has the encoding looked
up, and after it nothing changes any more (`countTexts_tally`).  That one of the texts is
refused, so that the rest of its question is not counted, makes no difference to this.  So however
long the row, the vocabulary is asked for the model once at most, and for the fixed encoding only
if it does not know the model (`answers_as_if_new`).
-/

namespace CompletionStream

/-- What an estimator can be asked to count. -/
inductive Query where
  | text (s : String)
  | messages (history : List Message)
  | toolCalls (calls : List ToolCall)

/-- The texts of a question, in the order in which they are counted. -/
def Query.texts : Query → List String
  | .text s => [s]
  | .messages history => history.flatMap Tally.messageTexts
  | .toolCalls calls => Tally.toolCallTexts calls

namespace Estimator

/-- Answers a question. -/
def answer (estimator : Estimator) : Query → Tally → Outcome Int × Tally
  | .text s => estimator.countText s
  | .messages history => estimator.countMessages history
  | .toolCalls calls => estimator.countToolCalls calls

/-- Answers questions one after the other. -/
def answerAll (estimator : Estimator) : List Query → Tally → List (Outcome Int) × Tally
  | [], tally => ([], tally)
  | query :: rest, tally =>
    let (n, tally) := estimator.answer query tally
    let (ns, tally) := answerAll estimator rest tally
    (n :: ns, tally)

-- ── Answers ────────────────────────────────────────────────────────────────────────

theorem steady_answer (estimator : Estimator) (query : Query) :
    Steady (some estimator) (estimator.answer query) := by
  cases query with
  | text s => exact estimator.steady_countText s
  | messages history => exact estimator.steady_countMessages history
  | toolCalls calls => exact estimator.steady_countToolCalls calls

/-- **Every answer in a row is the one that is given alone**, with the same encoding. -/
theorem answerAll_eq (estimator : Estimator) (queries : List Query) {tally other : Tally}
    (h : tally.encodingFor (some estimator) = other.encodingFor (some estimator)) :
    (estimator.answerAll queries tally).1
      = queries.map fun query => (estimator.answer query other).1 := by
  induction queries generalizing tally with
  | nil => rfl
  | cons query rest ih =>
      have hsteady := estimator.steady_answer query
      rw [List.map_cons, ← hsteady.answer h, ← ih ((hsteady.keeps tally).trans h)]
      rfl

end Estimator

namespace Tally

variable (vocabulary : Vocabulary) (model : String)

-- ── Remembering ────────────────────────────────────────────────────────────────────

/-- Once an encoding is known, it stays, and nothing is looked up. -/
theorem countTexts_settled (texts : List String) {tally : Tally} {encoding : Encoding}
    (h : tally.encoding = some encoding) :
    (tally.countTexts vocabulary model texts).2 = tally := by
  induction texts with
  | nil => rfl
  | cons s rest ih =>
      have htext : (tally.countText vocabulary model s).2 = tally := by
        rw [countText, resolve, h]
        split <;> rfl
      rw [countTexts]
      generalize tally.countText vocabulary model s = counted at htext ⊢
      obtain ⟨fault | n, left⟩ := counted
      · exact htext
      · obtain rfl : left = tally := htext
        exact ih

/-- After a look-up there is an encoding. -/
theorem encoding_resolve (tally : Tally) :
    (tally.resolve vocabulary model).2.encoding = some (tally.current vocabulary model) := by
  rw [current, resolve]
  cases hencoding : tally.encoding with
  | some encoding => exact hencoding
  | none => cases vocabulary.forModel? model <;> rfl

/-- **The first text that is not empty has the encoding looked up, and no text ever after**,
    whether or not it is refused. -/
theorem countTexts_tally (texts : List String) (tally : Tally) :
    (tally.countTexts vocabulary model texts).2
      = if ∀ s ∈ texts, s = "" then tally else (tally.resolve vocabulary model).2 := by
  induction texts with
  | nil => rfl
  | cons s rest ih =>
      by_cases hs : s = ""
      · have htext : tally.countText vocabulary model s = (.ok 0, tally) := if_pos hs
        rw [countTexts, htext]
        show (tally.countTexts vocabulary model rest).2 = _
        rw [ih]
        simp only [List.forall_mem_cons, hs, true_and]
      · have htext : (tally.countText vocabulary model s).2
            = (tally.resolve vocabulary model).2 := by
          rw [countText, if_neg hs]
        rw [if_neg fun hall => hs (hall s List.mem_cons_self), countTexts]
        generalize tally.countText vocabulary model s = counted at htext ⊢
        obtain ⟨fault | n, left⟩ := counted
        · exact htext
        · obtain rfl : left = _ := htext
          exact countTexts_settled vocabulary model rest
            (encoding_resolve vocabulary model tally)

/-- Texts in a row leave behind what the second part leaves behind after the first. -/
theorem countTexts_append (xs ys : List String) (tally : Tally) :
    (tally.countTexts vocabulary model (xs ++ ys)).2
      = ((tally.countTexts vocabulary model xs).2.countTexts vocabulary model ys).2 := by
  rw [countTexts_tally vocabulary model (xs ++ ys), countTexts_tally vocabulary model xs]
  by_cases hxs : ∀ s ∈ xs, s = ""
  · have hboth : (∀ s ∈ xs ++ ys, s = "") ↔ ∀ s ∈ ys, s = "" := by
      rw [List.forall_mem_append, and_iff_right hxs]
    rw [if_pos hxs, countTexts_tally]
    simp only [hboth]
  · rw [if_neg hxs, if_neg fun hall => hxs (List.forall_mem_append.mp hall).1,
      countTexts_settled vocabulary model ys (encoding_resolve vocabulary model tally)]

/-- What is looked up for texts that are counted in a row, by somebody who knew no encoding. -/
structure LookedUp (texts : List String) (lookups : List Lookup) : Prop where
  idle : (∀ s ∈ texts, s = "") → lookups = []
  known : (∃ s ∈ texts, s ≠ "") → vocabulary.forModel? model ≠ none →
    lookups = [.model model]
  unknown : (∃ s ∈ texts, s ≠ "") → vocabulary.forModel? model = none →
    lookups = [.model model, .encoding "cl100k_base"]

/-- A row of texts looks up what is needed, once. -/
theorem lookedUp_countTexts (texts : List String) :
    LookedUp vocabulary model texts (fresh.countTexts vocabulary model texts).2.lookups := by
  have hspoken (h : ∃ s ∈ texts, s ≠ "") : ¬ ∀ s ∈ texts, s = "" := by
    obtain ⟨s, hmem, hne⟩ := h
    exact fun hall => hne (hall s hmem)
  rw [countTexts_tally]
  constructor
  · intro hidle
    rw [if_pos hidle]
    rfl
  · intro hsome hknown
    obtain ⟨encoding, hencoding⟩ := Option.ne_none_iff_exists'.mp hknown
    rw [if_neg (hspoken hsome), fresh, resolve, hencoding]
    rfl
  · intro hsome hunknown
    rw [if_neg (hspoken hsome), fresh, resolve, hunknown]
    rfl

end Tally

namespace Estimator

open Tally (LookedUp fresh)

variable (vocabulary : Vocabulary) (model : String)

/-- A question leaves behind what its texts leave behind. -/
theorem answer_tally (query : Query) (tally : Tally) :
    ((Estimator.vocabulary vocabulary model).answer query tally).2
      = (tally.countTexts vocabulary model query.texts).2 := by
  cases query with
  | text s =>
      show (tally.countText vocabulary model s).2 = (tally.countTexts vocabulary model [s]).2
      rw [Tally.countTexts]
      generalize tally.countText vocabulary model s = counted
      obtain ⟨fault | n, left⟩ := counted <;> rfl
  | _ => rfl

/-- Questions in a row leave behind what all their texts in one row do. -/
theorem answerAll_tally (queries : List Query) (tally : Tally) :
    ((Estimator.vocabulary vocabulary model).answerAll queries tally).2
      = (tally.countTexts vocabulary model (queries.flatMap Query.texts)).2 := by
  induction queries generalizing tally with
  | nil => rfl
  | cons query rest ih =>
      rw [List.flatMap_cons, Tally.countTexts_append, ← answer_tally, ← ih]
      rfl

/-- A new estimator has an answer exactly if its encoding refuses none of the texts. -/
theorem answer_fresh (query : Query) :
    ((vocabulary.encodingOf model).Takes query.texts →
        ∃ n, ((Estimator.vocabulary vocabulary model).answer query fresh).1 = .ok n)
      ∧ (¬ (vocabulary.encodingOf model).Takes query.texts →
        ((Estimator.vocabulary vocabulary model).answer query fresh).1 = .error .wrongValue) := by
  have hamount (texts : List String) : ((vocabulary.encodingOf model).Takes texts →
        ∃ n, Tally.amount (vocabulary.encodingOf model) texts = .ok n)
      ∧ (¬ (vocabulary.encodingOf model).Takes texts →
        Tally.amount (vocabulary.encodingOf model) texts = .error .wrongValue) :=
    ⟨fun htakes => ⟨_, Tally.amount_taken htakes⟩, Tally.amount_refused⟩
  cases query with
  | text s =>
      have hcount := (Tally.countText_eq vocabulary model s fresh).1
      rw [Tally.current_fresh] at hcount
      show (_ → ∃ n, (fresh.countText vocabulary model s).1 = .ok n)
        ∧ (_ → (fresh.countText vocabulary model s).1 = _)
      rw [hcount]
      exact hamount [s]
  | messages history =>
      show (_ → ∃ n, (fresh.countMessages vocabulary model history).1 = .ok n)
        ∧ (_ → (fresh.countMessages vocabulary model history).1 = _)
      rw [Tally.countMessages_eq, Tally.current_fresh]
      exact ⟨fun htakes => ⟨_, if_pos htakes⟩, fun hrefuses => if_neg hrefuses⟩
  | toolCalls calls =>
      have hcount := (Tally.countTexts_eq vocabulary model (Tally.toolCallTexts calls) fresh).1
      rw [Tally.current_fresh] at hcount
      show (_ → ∃ n, (fresh.countTexts vocabulary model _).1 = .ok n)
        ∧ (_ → (fresh.countTexts vocabulary model _).1 = _)
      rw [hcount]
      exact hamount (Tally.toolCallTexts calls)

/-- **AN ESTIMATOR ANSWERS AS IF IT WERE NEW, AND LOOKS UP ITS ENCODING ONCE.**  Whatever it is
    asked in a row, each answer is the count that a new estimator comes to, or its refusal.  At
    every moment of the row nothing was looked up as long as all texts were empty, and then the
    model, followed by the fixed encoding exactly if the vocabulary does not know the model.  An
    answer is refused exactly if the encoding refuses one of the texts.  The counts of messages
    add up, but for the reply; their order does not matter; and where no text vanishes they are at
    least three for the reply and four for every message. -/
theorem answers_as_if_new :
    (∀ queries : List Query,
      let run := (Estimator.vocabulary vocabulary model).answerAll queries fresh
      run.1 = queries.map (fun query =>
          ((Estimator.vocabulary vocabulary model).answer query fresh).1)
        ∧ ∀ before after, queries.flatMap Query.texts = before ++ after →
            let moment := (fresh.countTexts vocabulary model before).2
            LookedUp vocabulary model before moment.lookups
              ∧ run.2 = (moment.countTexts vocabulary model after).2)
      ∧ (∀ query,
          ((vocabulary.encodingOf model).Takes query.texts →
              ∃ n, ((Estimator.vocabulary vocabulary model).answer query fresh).1 = .ok n)
            ∧ (¬ (vocabulary.encodingOf model).Takes query.texts →
              ((Estimator.vocabulary vocabulary model).answer query fresh).1
                = .error .wrongValue))
      ∧ ∃ count : List Message → Int,
          (∀ messages, ((Estimator.vocabulary vocabulary model).answer (.messages messages)
              fresh).1
                = if (vocabulary.encodingOf model).Takes (messages.flatMap Tally.messageTexts)
                  then .ok (count messages) else .error .wrongValue)
            ∧ (∀ a b, count (a ++ b) + 3 = count a + count b)
            ∧ (∀ a b : List Message, a.Perm b → count a = count b)
            ∧ ((vocabulary.encodingOf model).Positive →
                ∀ messages n, ((Estimator.vocabulary vocabulary model).answer (.messages messages)
                    fresh).1 = .ok n → 3 + 4 * (messages.length : Int) ≤ n) := by
  have hcount (messages : List Message) :
      ((Estimator.vocabulary vocabulary model).answer (.messages messages) fresh).1
        = Tally.estimated (vocabulary.encodingOf model) messages := by
    rw [← Tally.current_fresh]
    exact Tally.countMessages_eq vocabulary model messages fresh
  refine ⟨?_, answer_fresh vocabulary model, Tally.estimate (vocabulary.encodingOf model), hcount,
    Tally.estimate_append _, fun a b h => Tally.estimate_perm _ h, ?_⟩
  · intro queries
    refine ⟨answerAll_eq _ queries rfl, ?_⟩
    intro before after hsplit
    refine ⟨Tally.lookedUp_countTexts vocabulary model before, ?_⟩
    rw [answerAll_tally, hsplit, Tally.countTexts_append]
  · intro hpositive messages n hn
    rw [hcount, Tally.estimated] at hn
    split at hn
    · rename_i htakes
      rw [← Except.ok.inj hn]
      exact Tally.estimate_ge hpositive htakes
    · cases hn

/-- A user with a name, and an answer without content. -/
def greeting : List Message :=
  [⟨.user, some "hi", some "bo", none, []⟩, ⟨.assistant, none, none, none, []⟩]

/-- An unknown model, asked for nothing first, then for a history, then for a text. -/
theorem answers_as_if_new_unknown :
    (Vocabulary.letters.encodingOf "llama").Positive
      ∧ ((Estimator.vocabulary .letters "llama").answerAll
            [.text "", .messages greeting, .text "again"] fresh).1 = [.ok 0, .ok 44, .ok 10]
      ∧ LookedUp .letters "llama" [""] []
      ∧ ((Estimator.vocabulary .letters "llama").answerAll
            [.text "", .messages greeting, .text "again"] fresh).2.lookups
          = [.model "llama", .encoding "cl100k_base"]
      ∧ ∃ n, ((Estimator.vocabulary .letters "llama").answer (.messages greeting) fresh).1 = .ok n
          ∧ 3 + 4 * 2 ≤ n := by
  obtain ⟨hrun, -, -, -, -, -, hleast⟩ := answers_as_if_new .letters "llama"
  obtain ⟨hanswers, hmoments⟩ := hrun [.text "", .messages greeting, .text "again"]
  refine ⟨Vocabulary.letters_positive, hanswers.trans rfl, (hmoments [""] _ rfl).1, ?_, 44, rfl,
    hleast Vocabulary.letters_positive greeting 44 rfl⟩
  obtain ⟨hlooked, hlast⟩ := hmoments _ [] (List.append_nil _).symm
  rw [hlast]
  exact hlooked.unknown ⟨"again", by decide, by decide⟩ rfl

end Estimator

end CompletionStream
