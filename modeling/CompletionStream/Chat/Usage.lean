import CompletionStream.Schema.Reader

/-!
# Usage — token counts of a request

The total of a count that comes without one is filled in from the two parts before anything
is read. The parts are taken as numbers in the lenient way: fractions are cut off, texts of
digits in any script count, and whatever is empty counts as zero.
-/

namespace CompletionStream

/-- Token counts. -/
structure TokenUsage where
  inputTokens : Int
  outputTokens : Int
  totalTokens : Int
  deriving DecidableEq, Repr, Inhabited

/-- A value as an integer, in the lenient way. -/
def lenientInteger : Value → Outcome Int
  | .int n => .ok n
  | .bool b => .ok (if b then 1 else 0)
  | .float x => (FloatClass.ofFloat x).truncated
  | .str s =>
    match Text.lenientInt? s with
    | some n => .ok n
    | none => .error .wrongValue
  | _ => .error .wrongType

/-- A value as an integer, zero for everything empty. -/
def countOrZero (v : Value) : Outcome Int :=
  if v.truthy then lenientInteger v else .ok 0

namespace TokenUsage

/-- No tokens at all. -/
def zero : TokenUsage := ⟨0, 0, 0⟩

/-- The sum of the two parts of raw counts. -/
def rawTotal (m : Members) : Outcome Int := do
  let input ← countOrZero (m.getOrNull "input_tokens")
  let output ← countOrZero (m.getOrNull "output_tokens")
  return input + output

/-- Fills in the total of raw counts that come without one. -/
def fill (m : Members) : Checked Members :=
  if (m.getOrNull "total_tokens").truthy then .ok m
  else
    match rawTotal m with
    | .ok total => .ok (m.set "total_tokens" (.int total))
    | .error fault =>
      match fault.kind with
      | .named "ValueError" => .problem "value_error"
      | _ => .abandoned fault

/-- Reads token counts. -/
def read : Reader TokenUsage :=
  .record fun m => (fill m).andThen fun m => TokenUsage.mk
    <$> Reader.optional m "input_tokens" .integer 0
    <*> Reader.optional m "output_tokens" .integer 0
    <*> Reader.optional m "total_tokens" .integer 0

/-- Token counts as a value. -/
def toValue (u : TokenUsage) : Value :=
  .object [("input_tokens", .int u.inputTokens), ("output_tokens", .int u.outputTokens),
    ("total_tokens", .int u.totalTokens)]

/-- Counts that are integers already: a total of zero counts as missing. -/
def ofCounts (input output total : Int) : TokenUsage :=
  ⟨input, output, if total = 0 then input + output else total⟩

/-- The counts of two requests together. -/
def add (a : TokenUsage) : Option TokenUsage → TokenUsage
  | none => a
  | some b => ofCounts (a.inputTokens + b.inputTokens) (a.outputTokens + b.outputTokens)
      (a.totalTokens + b.totalTokens)

end TokenUsage

end CompletionStream
