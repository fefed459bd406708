import CompletionStream.Chat.Request
import CompletionStream.Decimal.Notation

/-!
# The gate — which requests are let through

A request is checked before anything is sent and before anyone is told of it. The checks run
in a fixed order and the first one that fails gives the refusal. A range refuses a number that
lies outside of it, so NaN, which lies nowhere, is not refused.
-/

namespace CompletionStream

/-- The numbers a parameter may have. -/
structure Range where
  name : String
  low : Float
  high : Float
  lowIncluded : Bool

namespace Range

/-- Whether a number lies below or above the range. -/
def excludes (range : Range) (x : Float) : Bool :=
  (if range.lowIncluded then x < range.low else x ≤ range.low) || range.high < x

/-- The range as an interval. -/
def interval (range : Range) : String :=
  (if range.lowIncluded then "[" else "(") ++ floatText range.low ++ ", " ++
    floatText range.high ++ "]"

def temperature : Range := ⟨"temperature", 0.0, 2.0, true⟩

def topP : Range := ⟨"top_p", 0.0, 1.0, false⟩

def presencePenalty : Range := ⟨"presence_penalty", -2.0, 2.0, true⟩

def frequencyPenalty : Range := ⟨"frequency_penalty", -2.0, 2.0, true⟩

end Range

/-- The most stop sequences a request may have. -/
def maxStopSequences : Nat := 4

/-- The largest bias of a token, in either direction. -/
def maxBias : Int := 100

/-- Why a request is refused. -/
inductive Refusal where
  | noMessages
  | ownModel
  | topK
  | outOfRange (range : Range) (x : Float)
  | maxTokens (n : Int)
  | bias (token : String) (n : Int)
  | stopSequences
  | namelessTool
  | repeatedTool

namespace Refusal

/-- The text of a refusal. -/
def message : Refusal → String
  | .noMessages => "messages must not be empty"
  | .ownModel => "model_name is not supported; configure the deployment name on the client"
  | .topK => "top_k is not supported by this provider"
  | .outOfRange range x =>
    range.name ++ " must be in " ++ range.interval ++ ", got " ++ floatText x
  | .maxTokens n => "max_output_tokens must be positive, got " ++ toString n
  | .bias token n =>
    "logit_bias for token " ++ Text.quoted token ++ " must be in [-100, 100], got " ++ toString n
  | .stopSequences => "at most 4 stop sequences are supported"
  | .namelessTool => "tool specifications must have a name"
  | .repeatedTool => "tool specification names must be unique"

/-- A refusal as a fault. -/
def fault (refusal : Refusal) : Fault :=
  .of .validation refusal.message

end Refusal

namespace ChatRequest

/-- A refusal for a reason that holds. -/
def refuseIf (condition : Bool) (refusal : Refusal) : Option Refusal :=
  if condition then some refusal else none

/-- A refusal of a parameter outside of its range. -/
def refuseOutside (range : Range) : Option Float → Option Refusal
  | none => none
  | some x => refuseIf (range.excludes x) (.outOfRange range x)

/-- A refusal of the first bias that is too large. -/
def refuseBias (bias : List (String × Int)) : Option Refusal :=
  bias.findSome? fun (token, n) => refuseIf (decide (n < -maxBias ∨ maxBias < n)) (.bias token n)

/-- Whether some name occurs twice. -/
def hasRepetition : List String → Bool
  | [] => false
  | name :: rest => rest.contains name || hasRepetition rest

/-- Every check, in order. -/
def checks (r : ChatRequest) : List (Option Refusal) :=
  let names := r.tools.map (·.name)
  [refuseIf r.messages.isEmpty .noMessages,
   refuseIf r.modelName.isSome .ownModel,
   refuseIf r.topK.isSome .topK,
   refuseOutside .temperature r.sampling.temperature,
   refuseOutside .topP r.sampling.topP,
   refuseOutside .presencePenalty r.sampling.presencePenalty,
   refuseOutside .frequencyPenalty r.sampling.frequencyPenalty,
   r.sampling.maxTokens.bind fun n => refuseIf (decide (n ≤ 0)) (.maxTokens n),
   r.sampling.logitBias.bind refuseBias,
   r.sampling.stop.bind fun s => refuseIf (decide (maxStopSequences < s.length)) .stopSequences,
   refuseIf (names.contains "") .namelessTool,
   refuseIf (hasRepetition names) .repeatedTool]

/-- Why a request is refused, if it is. -/
def refusal? (r : ChatRequest) : Option Refusal :=
  r.checks.findSome? id

/-- Lets a request through or refuses it. -/
def check (r : ChatRequest) : Outcome Unit :=
  match r.refusal? with
  | some refusal => .error refusal.fault
  | none => .ok ()

/-- The tools on offer, if there are any. -/
def offeredTools (r : ChatRequest) : Option (List ToolSpec) :=
  if r.tools.isEmpty then none else some r.tools

/-- The tool that the model has to call, if it has to call one. It can only be demanded where
    there is a single tool. -/
def forcedTool (r : ChatRequest) : Outcome (Option ToolSpec) :=
  match r.toolChoice, r.tools with
  | some .required, [] => .ok none
  | some .required, [tool] => .ok (some tool)
  | some .required, _ => .error (.of .capability
      "ToolChoice.REQUIRED is currently supported only when there is a single tool")
  | _, _ => .ok none

end ChatRequest

end CompletionStream
