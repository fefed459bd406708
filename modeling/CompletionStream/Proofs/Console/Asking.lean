import CompletionStream.Console.Run
import CompletionStream.Proofs.Chat.Gate
import CompletionStream.Proofs.Counting.Recall
import CompletionStream.Proofs.Document.Objects

/-!
# Asking — a command line always asks for something that may be sent

A command line comes to a request with a question, maybe instructions before it, and maybe a
schema for the answer (`buildRequest_eq`).  All its texts can be read, and so can a schema that
is a JSON object, because that has named members.  The request sets none of the parameters that
the gate looks at (`passes_bare`), so every command line whose schema can be read comes to a
request that passes (`buildRequest_ok`).  Its messages are what the command line says
(`Arguments.said`), and an encoding that takes the words of it takes all that is counted of them
(`takes_said`).
-/

namespace CompletionStream

namespace ChatRequest

/-- A request with messages and nothing else that the gate looks at. -/
def bare (messages : List Message) (format : Option ResponseFormat) : ChatRequest where
  messages := messages
  tools := []
  toolChoice := none
  format := format
  modelName := none
  topK := none
  sampling := ⟨none, none, none, none, none, none, none, none, none⟩

theorem passes_bare {messages : List Message} (h : messages ≠ [])
    (format : Option ResponseFormat) : (bare messages format).Passes := by
  cases messages with
  | nil => exact absurd rfl h
  | cons message rest => exact ⟨rfl, none, rfl⟩

end ChatRequest

namespace Console

/-- The file that a command line names for a schema, if it names one, holds a JSON object. -/
def Arguments.Readable (args : Arguments) (files : Settings.Files) : Prop :=
  ∀ path ∈ args.schema, path ≠ "" →
    ∃ members, files.loadJson path = .ok (.dict members)

/-- A JSON object that was read from a file has named members. -/
theorem loadJson_object {files : Settings.Files} {path : String} {members : Members}
    (h : files.loadJson path = .ok (.dict members)) :
    ∃ named, Value.dict members = .object named := by
  rw [Settings.Files.loadJson] at h
  split at h
  · split at h
    · rename_i v hread
      obtain rfl := Except.ok.inj h
      exact (Document.readJson?_named hread).eq_object
    · exact nomatch h
  · exact nomatch h
  · exact nomatch h

/-- An object is taken as the schema of JSON output. -/
theorem json_object (named : List (String × Value)) (name : String) :
    ResponseFormat.json (.object named) (.str name) = .ok ⟨.json, some named, some name⟩ := by
  have hschema : Reader.nullable (.mappingOf .anything) (.object named) = .ok (some named) := by
    show (Reader.mappingOf .anything (.object named)).map some = _
    rw [Reader.mappingOf_object]
    rfl
  show ResponseFormat.mk <$> .ok .json
      <*> (Reader.nullable (.mappingOf .anything) (.object named)).under (.name "json_schema")
      <*> .ok (some name) = _
  rw [hschema]
  rfl

/-- The instructions of a command line, if it gives any. -/
def instructions (system : Value) : Outcome (List Message) :=
  if system.truthy then ((Message.system system).map fun m => [m]).toOutcome else .ok []

/-- The format of the answer that a command line wants, if it wants one. -/
def wanted (schemaPath : String) (files : Settings.Files) : Outcome (Option ResponseFormat) :=
  if schemaPath = "" then .ok none
  else do
    let schema ← files.loadJson schemaPath
    ((ResponseFormat.json schema (.str (Settings.Files.stem schemaPath))).map some).toOutcome

/-- A request is built from its three parts, the first of which that fails is the fault. -/
theorem buildRequest_eq (prompt system : Value) (schemaPath : String) (files : Settings.Files) :
    buildRequest prompt system schemaPath files = do
      let instructions ← instructions system
      let question ← (Message.user prompt).toOutcome
      let format ← wanted schemaPath files
      return .bare (instructions ++ [question]) format := by
  have hrest (before : List Message) : (do
      let question ← (Message.user prompt).toOutcome
      let finish (format : Option ResponseFormat) : Outcome ChatRequest :=
        .ok (.bare (before ++ [question]) format)
      if schemaPath = "" then (.ok none : Outcome _) >>= finish
      else do
        let schema ← files.loadJson schemaPath
        let format ←
          ((ResponseFormat.json schema (.str (Settings.Files.stem schemaPath))).map some).toOutcome
        finish format) = (do
      let question ← (Message.user prompt).toOutcome
      let format ← wanted schemaPath files
      return .bare (before ++ [question]) format) := by
    rw [wanted]
    cases (Message.user prompt).toOutcome with
    | error fault => rfl
    | ok question =>
        show ite _ _ _ = _
        split
        · rfl
        · cases files.loadJson schemaPath <;> rfl
  rw [buildRequest, instructions]
  split
  · cases ((Message.system system).map fun m => [m]).toOutcome with
    | error fault => rfl
    | ok before => exact hrest before
  · exact hrest []

/-- What a command line says: its instructions, unless they are empty, and its question. -/
def Arguments.said (args : Arguments) : List Message :=
  (args.system.filter (· ≠ "")).toList.map (fun text => ⟨.system, some text, none, none, []⟩)
    ++ [⟨.user, some args.prompt, none, none, []⟩]

/-- The words that are counted of what a command line says: its texts, each behind the word for
    the role that speaks it. -/
def Arguments.words (args : Arguments) : List String :=
  (args.system.filter (· ≠ "")).toList.flatMap (["system", ·]) ++ ["user", args.prompt]

/-- Besides these words only empty texts are counted. -/
theorem takes_said (encoding : Encoding) (args : Arguments) :
    encoding.Takes (args.said.flatMap Tally.messageTexts) ↔ encoding.Takes args.words := by
  have hspoken (role : Role) (text : String) :
      encoding.Takes (Tally.messageTexts ⟨role, some text, none, none, []⟩)
        ↔ encoding.Takes [role.word, text] := by
    have htexts : Tally.messageTexts ⟨role, some text, none, none, []⟩
        = [role.word, text] ++ [""] := rfl
    rw [htexts, Encoding.Takes.append_iff]
    exact and_iff_left (List.forall_mem_singleton.mpr fun hne => absurd rfl hne)
  rw [Arguments.said, Arguments.words, List.flatMap_append, Encoding.Takes.append_iff,
    Encoding.Takes.append_iff, List.flatMap_singleton, hspoken]
  refine and_congr_left' ?_
  cases args.system.filter (· ≠ "") with
  | none => exact Iff.rfl
  | some text =>
      rw [Option.toList_some, List.map_singleton, List.flatMap_singleton, List.flatMap_singleton,
        hspoken]
      exact Iff.rfl

theorem instructions_eq (system : Option String) :
    instructions (.ofOption .str system) = .ok ((system.filter (· ≠ "")).toList.map
      fun text => ⟨.system, some text, none, none, []⟩) := by
  cases system with
  | none => rfl
  | some text =>
      by_cases htext : text = ""
      · rw [htext]
        rfl
      · have htruthy : (Value.ofOption .str (some text)).truthy = true := decide_eq_true htext
        have hkept : (some text).filter (· ≠ "") = some text :=
          Option.filter_eq_some_iff.mpr ⟨rfl, decide_eq_true htext⟩
        rw [instructions, if_pos htruthy, hkept]
        rfl

/-- A schema that can be read is a format that is wanted. -/
theorem wanted_ok {args : Arguments} {files : Settings.Files} (h : args.Readable files) :
    ∃ format, wanted (args.schema.getD "") files = .ok format := by
  rw [wanted]
  split
  · exact ⟨none, rfl⟩
  · rename_i hnamed
    cases hschema : args.schema with
    | none =>
        rw [hschema] at hnamed
        exact absurd rfl hnamed
    | some path =>
        rw [hschema] at hnamed
        obtain ⟨members, hload⟩ := h path hschema hnamed
        obtain ⟨named, hobject⟩ := loadJson_object hload
        rw [hobject] at hload
        rw [show (some path).getD "" = path from rfl, hload]
        show ∃ format, ((ResponseFormat.json (.object named) (.str _)).map some).toOutcome = _
        rw [json_object]
        exact ⟨_, rfl⟩

/-- **The request of a command line can be built**: it holds what the command line says, and
    passes the gate. -/
theorem buildRequest_ok {args : Arguments} {files : Settings.Files} (h : args.Readable files) :
    ∃ request, request.Passes ∧ request.messages = args.said
      ∧ buildRequest (.str args.prompt) (.ofOption .str args.system) (args.schema.getD "") files
        = .ok request := by
  obtain ⟨format, hformat⟩ := wanted_ok h
  have hquestion : (Message.user (.str args.prompt)).toOutcome
      = .ok ⟨.user, some args.prompt, none, none, []⟩ := rfl
  refine ⟨.bare args.said format, ?_, rfl, ?_⟩
  · exact ChatRequest.passes_bare
      (List.append_ne_nil_of_right_ne_nil _ (List.cons_ne_nil _ _)) format
  · rw [buildRequest_eq, instructions_eq, hquestion, hformat]
    rfl

end Console

end CompletionStream
