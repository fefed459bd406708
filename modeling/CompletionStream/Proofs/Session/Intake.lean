import CompletionStream.Proofs.Session.Ending

/-!
# Intake — what a session does with a chunk

A session that streams takes a chunk in and adds its text, if it says something, to what the
handler was told (`after`).  Then the handler reacts: it sends signals, and it may raise
something (`react`).  Whatever is raised meanwhile is a failure of the stream
(`next_streaming`).  While a transport delivers the chunks there is no session to send signals
to, so that nothing is left of a reaction but what it raises (`receive_streaming`).

As long as a session is open its state is known from the chunks it took in: `underway` is that
state, and a chunk leads from one such state to the next (`after_underway`).
-/

namespace CompletionStream

open Scene (Adds)

theorem lastSpoken_append (texts : List (Option String)) (text : Option String) :
    lastSpoken (texts ++ [text]) = newer text (lastSpoken texts) := by
  rw [lastSpoken, lastSpoken, List.filterMap_append, newer_eq_or]
  cases h : spoken text with
  | none => simp [h]
  | some s => simp [h]

namespace Reference

theorem texts_append (chunks more : List PartialChunk) :
    texts (chunks ++ more) = texts chunks ++ texts more :=
  List.filterMap_append

theorem texts_cons (chunk : PartialChunk) (rest : List PartialChunk) :
    texts (chunk :: rest) = (spoken chunk.text).toList ++ texts rest := by
  rw [texts, List.filterMap_cons]
  cases spoken chunk.text <;> rfl

/-- All texts in a row are the texts that say something in a row. -/
theorem content_eq_join (chunks : List PartialChunk) :
    content chunks = String.join (texts chunks) := by
  induction chunks with
  | nil => rfl
  | cons chunk rest ih =>
      rw [content, List.map_cons, String.join_cons, ← content, ih, texts_cons,
        String.join_append]
      cases htext : spoken chunk.text with
      | some s =>
          have hgiven : chunk.text = some s := (Option.filter_eq_some_iff.mp htext).1
          rw [hgiven]
          simp
      | none =>
          cases h : chunk.text with
          | none => simp
          | some s =>
              have hempty : s = "" := by simpa [h, spoken] using htext
              simp [hempty]

end Reference

/-- What a handler raises that has no session to send signals to: sending any fails. -/
def Reaction.raises (reaction : Reaction) : Option Fault :=
  match reaction.signals with
  | [] => reaction.fault
  | _ :: _ => some Session.tooDeep

namespace Session

/-- A chunk is taken in, and its text is on its way to the handler. -/
def after (s : Session) (chunk : PartialChunk) : Session :=
  let taken := { s with
    accumulator := s.accumulator.take chunk
    responseId := newer chunk.id s.responseId }
  match spoken chunk.text with
  | none => taken
  | some text => { taken.add (.partialText text) with partials := s.partials + 1 }

/-- What the handler does with a chunk. -/
def reaction (s : Session) (chunk : PartialChunk) : Reaction :=
  match spoken chunk.text with
  | none => .none
  | some _ => s.handler.onPartial s.partials

/-- What the handler raises over a chunk is ordinary. -/
theorem reaction_ordinary (s : Session) (h : s.handler.Ordinary) (chunk : PartialChunk) :
    ∀ fault ∈ (s.reaction chunk).fault, fault.isOrdinary = true := by
  intro fault hfault
  rw [reaction] at hfault
  split at hfault
  · exact nomatch hfault
  · exact h.onPartial _ fault hfault

/-- The handler sends its signals, and then it may raise something. -/
def react (perform : Session → Signal → Outcome Unit × Session) (reaction : Reaction)
    (s : Session) : Outcome Unit × Session :=
  match performAll perform reaction.signals s with
  | (.error fault, s) => (.error fault, s)
  | (.ok (), s) => (PullStream.outcomeOf reaction.fault, s)

/-- Taking a chunk in is to take it and to let the handler react. -/
theorem attempt_open {s : Session} (hopen : s.accumulator.finalized = false)
    (perform : Session → Signal → Outcome Unit × Session) (chunk : PartialChunk) :
    s.attempt perform chunk = react perform (s.reaction chunk) (s.after chunk) := by
  have habsorb : s.absorb chunk = .ok { s with
      accumulator := s.accumulator.take chunk
      responseId := newer chunk.id s.responseId } := by
    rw [absorb, Accumulator.append, hopen]
    rfl
  rw [attempt, habsorb, reaction, after]
  cases htext : chunk.text with
  | none => rfl
  | some text =>
      by_cases hempty : text = ""
      · subst hempty; rfl
      · have hspoken : spoken (some text) = some text := by simp [spoken, hempty]
        rw [hspoken]
        dsimp only
        rw [if_neg hempty, handOver, react]
        rcases performAll perform _ _ with ⟨outcome, s'⟩
        cases outcome with
        | error fault => rfl
        | ok u => cases (s.handler.onPartial s.partials).fault <;> rfl

/-- A chunk reaches a session that streams. -/
theorem next_streaming {s : Session} (hphase : s.phase = .streaming)
    (hopen : s.accumulator.finalized = false)
    (perform : Session → Signal → Outcome Unit × Session) (chunk : PartialChunk) :
    s.next perform chunk
      = match react perform (s.reaction chunk) (s.after chunk) with
        | (.ok (), s) => (.ok (), s)
        | (.error fault, s) => s.settle (some fault) := by
  rw [next, if_pos hphase, attempt_open hopen]
  rfl

/-- A chunk that reaches any other session is ignored. -/
theorem next_ignored {s : Session} (hphase : s.phase ≠ .streaming)
    (perform : Session → Signal → Outcome Unit × Session) (chunk : PartialChunk) :
    s.next perform chunk = (.ok (), s) := by
  rw [next, if_neg hphase]

-- ── Chunks from a transport ────────────────────────────────────────────────────────

/-- Where signals are not taken a handler that sends any fails, and else it may raise. -/
theorem react_tooDeep (reaction : Reaction) (s : Session) :
    react (fun s _ => (.error tooDeep, s)) reaction s
      = (PullStream.outcomeOf reaction.raises, s) := by
  rw [react, Reaction.raises]
  cases reaction.signals <;> rfl

/-- A chunk from a transport reaches a session that streams. -/
theorem receive_streaming {s : Session} (hphase : s.phase = .streaming)
    (hopen : s.accumulator.finalized = false) (chunk : PartialChunk) :
    s.receive (.next chunk)
      = match (s.reaction chunk).raises with
        | none => (.ok (), s.after chunk)
        | some fault => (s.after chunk).settle (some fault) := by
  rw [receive, step, next_streaming hphase hopen, react_tooDeep]
  cases (s.reaction chunk).raises <;> rfl

/-- What is raised over a chunk from a transport is ordinary. -/
theorem raises_ordinary (s : Session) (h : s.handler.Ordinary) (chunk : PartialChunk) :
    ∀ fault ∈ (s.reaction chunk).raises, fault.isOrdinary = true := by
  intro fault hfault
  rw [Reaction.raises] at hfault
  split at hfault
  · exact s.reaction_ordinary h chunk fault hfault
  · rw [← Option.some.inj hfault]
    rfl

-- ── Sessions that are open ─────────────────────────────────────────────────────────

/-- The state of an open session that was set up like this one and has taken in chunks. -/
def underway (s : Session) (phase : Phase) (chunks : List PartialChunk) (scene : Scene) :
    Session :=
  { s with
    phase, scene
    accumulator := .gather chunks
    responseId := lastSpoken (chunks.map (·.id))
    partials := (Reference.texts chunks).length }

theorem underway_open (s : Session) (phase : Phase) (chunks : List PartialChunk)
    (scene : Scene) : (s.underway phase chunks scene).accumulator.finalized = false := by
  show (Accumulator.gather chunks).finalized = false
  rw [Accumulator.gather_eq]

/-- Taking in chunks calls nobody else. -/
theorem Orderly.underway {s : Session} (h : s.Orderly) (phase : Phase)
    (chunks : List PartialChunk) (scene : Scene) : (s.underway phase chunks scene).Orderly :=
  ⟨h.listeners, h.handler, h.estimator⟩

/-- A session that was just set up has taken in nothing. -/
theorem fresh_underway (exchange : Exchange) (handler : Handler) (listeners : List Listener)
    (estimator : Option Estimator) (inputTokens : Value) (scene : Scene) :
    fresh exchange handler listeners estimator inputTokens scene
      = (fresh exchange handler listeners estimator inputTokens scene).underway
          .requesting [] scene := rfl

/-- **A chunk leads from one open state to the next**, and the handler is told of its text. -/
theorem after_underway (s : Session) (phase : Phase) (chunks : List PartialChunk)
    (scene : Scene) (chunk : PartialChunk) :
    ∃ scene', (s.underway phase chunks scene).after chunk
        = s.underway phase (chunks ++ [chunk]) scene'
      ∧ Adds ((Reference.texts [chunk]).map .partialText) scene scene' := by
  have hnext (scene : Scene) : s.underway phase (chunks ++ [chunk]) scene
      = { s with
          phase, scene
          accumulator := (Accumulator.gather chunks).take chunk
          responseId := newer chunk.id (lastSpoken (chunks.map (·.id)))
          partials := (Reference.texts chunks).length + (Reference.texts [chunk]).length } := by
    rw [underway, Accumulator.gather_append, List.map_append, List.map_singleton,
      lastSpoken_append, Reference.texts_append, List.length_append]
  rw [after]
  cases htext : spoken chunk.text with
  | none =>
      have hsilent : Reference.texts [chunk] = [] := by rw [Reference.texts_cons, htext]; rfl
      refine ⟨scene, ?_, ?_⟩
      · rw [hnext, hsilent]; rfl
      · rw [hsilent]; exact Adds.refl scene
  | some text =>
      have hgiven : Reference.texts [chunk] = [text] := by rw [Reference.texts_cons, htext]; rfl
      refine ⟨scene.add (.partialText text), ?_, ?_⟩
      · rw [hnext, hgiven]; rfl
      · rw [hgiven]; exact Adds.add scene (.partialText text)

end Session

end CompletionStream
