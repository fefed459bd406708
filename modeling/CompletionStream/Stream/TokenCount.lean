import CompletionStream.Chat.Message
import CompletionStream.Log.Record

/-!
# Token counts — estimates for requests and responses

A count over a vocabulary needs an encoding. It is looked up when the first text that is not
empty is counted, by the name of the model and, where the vocabulary does not know the model,
by a fixed name; after that the encoding is kept. `Tally` is what such a count remembers.

An encoding refuses a text that holds one of its special tokens, and then there is no count of
anything that this text belongs to.

A message costs a few tokens besides its content, and so does the reply that it leads to.
-/

namespace CompletionStream

/-- How many tokens a text has, unless the text holds a special token and is refused. -/
abbrev Encoding := String → Option Nat

/-- The tokens of a text. A refusal is a fault of the text's value. -/
def Encoding.count (encoding : Encoding) (s : String) : Outcome Int :=
  match encoding s with
  | some n => .ok n
  | none => .error .wrongValue

/-- What a vocabulary offers: encodings for the models it knows, and encodings by name. -/
structure Vocabulary where
  forModel? : String → Option Encoding
  named : String → Encoding

/-- A look-up in a vocabulary. -/
inductive Lookup where
  | model (name : String)
  | encoding (name : String)
  deriving DecidableEq, Repr

/-- What counting remembers: the encoding once it was looked up, every look-up so far, and
    what was reported. -/
structure Tally where
  encoding : Option Encoding
  lookups : List Lookup
  log : List LogRecord

namespace Tally

/-- Nothing was counted yet. -/
def fresh : Tally := ⟨none, [], []⟩

/-- The encoding for models that a vocabulary does not know. -/
def defaultEncoding : String := "cl100k_base"

/-- The report that a model is unknown. -/
def unknownModel (model : String) : LogRecord :=
  { logger := "chatstream.core.tokens"
    level := LogRecord.debug
    template := "no tiktoken encoding for model, using %s"
    arguments := [.text defaultEncoding]
    extra := [("model_name", .str model)]
    fault := none }

/-- The encoding for a model, looked up unless it is known already. -/
def resolve (vocabulary : Vocabulary) (model : String) (tally : Tally) : Encoding × Tally :=
  match tally.encoding with
  | some encoding => (encoding, tally)
  | none =>
    match vocabulary.forModel? model with
    | some encoding =>
      (encoding, { tally with
        encoding := some encoding
        lookups := tally.lookups ++ [.model model] })
    | none =>
      let encoding := vocabulary.named defaultEncoding
      (encoding, { encoding := some encoding
                   lookups := tally.lookups ++ [.model model, .encoding defaultEncoding]
                   log := tally.log ++ [unknownModel model] })

/-- Counts a text. Nothing needs to be looked up for an empty one. -/
def countText (vocabulary : Vocabulary) (model : String) (s : String) (tally : Tally) :
    Outcome Int × Tally :=
  if s = "" then (.ok 0, tally)
  else
    let (encoding, tally) := tally.resolve vocabulary model
    (encoding.count s, tally)

/-- Counts texts one after the other, up to the first that is refused. -/
def countTexts (vocabulary : Vocabulary) (model : String) :
    List String → Tally → Outcome Int × Tally
  | [], tally => (.ok 0, tally)
  | s :: rest, tally =>
    match tally.countText vocabulary model s with
    | (.error fault, tally) => (.error fault, tally)
    | (.ok n, tally) =>
      let (count, tally) := countTexts vocabulary model rest tally
      (count.map (n + ·), tally)

/-- What every message costs besides its texts. -/
def perMessage : Int := 3

/-- What a participant's name costs besides its text. -/
def perName : Int := 1

/-- What the reply costs. -/
def perReply : Int := 3

/-- The texts of tool calls that count. -/
def toolCallTexts (calls : List ToolCall) : List String :=
  calls.flatMap fun call => [call.name, call.arguments]

/-- The texts of a message that count. -/
def messageTexts (m : Message) : List String :=
  [m.role.word, m.content.getD "", m.name.getD ""] ++ toolCallTexts m.toolCalls

/-- What a message costs besides its texts. -/
def messageCost (m : Message) : Int :=
  perMessage + (if m.name.getD "" = "" then 0 else perName)

/-- Counts messages and the reply. -/
def countMessages (vocabulary : Vocabulary) (model : String) (messages : List Message)
    (tally : Tally) : Outcome Int × Tally :=
  let (count, tally) := tally.countTexts vocabulary model (messages.flatMap messageTexts)
  (count.map fun n => messages.foldl (fun n m => n + messageCost m) n + perReply, tally)

/-- Counts tool calls. -/
def countToolCalls (vocabulary : Vocabulary) (model : String) (calls : List ToolCall)
    (tally : Tally) : Outcome Int × Tally :=
  tally.countTexts vocabulary model (toolCallTexts calls)

end Tally

/-- What estimates token counts. -/
inductive Estimator where
  /-- Counts over a vocabulary, for a model. -/
  | vocabulary (vocabulary : Vocabulary) (model : String)
  /-- Counts in a way of its own, which may fail. -/
  | custom (text : String → Outcome Int) (messages : List Message → Outcome Int)
      (toolCalls : List ToolCall → Outcome Int)

namespace Estimator

/-- Estimates a text. -/
def countText (estimator : Estimator) (s : String) (tally : Tally) : Outcome Int × Tally :=
  match estimator with
  | .vocabulary v model => tally.countText v model s
  | .custom text _ _ => (text s, tally)

/-- Estimates messages. -/
def countMessages (estimator : Estimator) (messages : List Message) (tally : Tally) :
    Outcome Int × Tally :=
  match estimator with
  | .vocabulary v model => tally.countMessages v model messages
  | .custom _ count _ => (count messages, tally)

/-- Estimates tool calls. -/
def countToolCalls (estimator : Estimator) (calls : List ToolCall) (tally : Tally) :
    Outcome Int × Tally :=
  match estimator with
  | .vocabulary v model => tally.countToolCalls v model calls
  | .custom _ _ count => (count calls, tally)

end Estimator

end CompletionStream
