import CompletionStream.Proofs.Wire.Messages

/-!
# Written — what messages, tools and formats are on the wire

For each part of a request that has a shape of its own on the wire, a relation says which
value it is written as, member by member and shape by shape.  None of them mentions how the
value is put together; each encoder writes what its relation says (`message_writes`,
`tool_writes`, `format_writes`).
-/

namespace CompletionStream.Wire

/-- What a tool call of the assistant is written as. -/
inductive WritesCall (call : ToolCall) : Value → Prop
  | call : WritesCall call (.object [("id", .ofOption .str call.id), ("type", .str "function"),
      ("function", .object [("name", .str call.name), ("arguments", .str call.arguments)])])

/-- What a message is written as.  Only beside tool calls may an assistant's content be
    missing, and only a user has a name. -/
inductive WritesMessage (m : Message) : Value → Prop
  | system : m.role = .system →
      WritesMessage m (.object [("role", .str "system"), ("content", .str (m.content.getD ""))])
  | user : m.role = .user → m.name.getD "" = "" →
      WritesMessage m (.object [("role", .str "user"), ("content", .str (m.content.getD ""))])
  | named {name : String} : m.role = .user → m.name = some name → name ≠ "" →
      WritesMessage m (.object [("role", .str "user"), ("content", .str (m.content.getD "")),
        ("name", .str name)])
  | answering : m.role = .assistant → m.toolCalls = [] →
      WritesMessage m
        (.object [("role", .str "assistant"), ("content", .str (m.content.getD ""))])
  | calling {calls : List Value} : m.role = .assistant → m.toolCalls ≠ [] →
      List.Forall₂ WritesCall m.toolCalls calls →
      WritesMessage m (.object [("role", .str "assistant"),
        ("content", .ofOption .str m.content), ("tool_calls", .list calls)])
  | tool : m.role = .tool →
      WritesMessage m (.object [("role", .str "tool"),
        ("tool_call_id", .ofOption .str m.toolCallId), ("content", .str (m.content.getD ""))])

/-- What the schema of a tool's arguments is written as: an object without properties where
    the tool has none. -/
inductive WritesParameters (t : ToolSpec) : Value → Prop
  | own : t.parameters ≠ [] → WritesParameters t (.object t.parameters)
  | none : t.parameters = [] →
      WritesParameters t (.object [("type", .str "object"), ("properties", .object [])])

/-- What a tool on offer is written as. -/
inductive WritesTool (t : ToolSpec) : Value → Prop
  | plain {parameters : Value} : t.description.getD "" = "" → WritesParameters t parameters →
      WritesTool t (.object [("type", .str "function"),
        ("function", .object [("name", .str t.name), ("parameters", parameters)])])
  | described {description : String} {parameters : Value} :
      t.description = some description → description ≠ "" → WritesParameters t parameters →
      WritesTool t (.object [("type", .str "function"),
        ("function", .object [("name", .str t.name), ("description", .str description),
          ("parameters", parameters)])])

/-- What an output format is written as.  A schema that has no name, or an empty one, goes by
    a fixed name. -/
inductive WritesFormat (strict : Bool) (f : ResponseFormat) : Value → Prop
  | text : f.kind = .text → WritesFormat strict f (.object [("type", .str "text")])
  | free : f.kind = .json → f.schema = none →
      WritesFormat strict f (.object [("type", .str "json_object")])
  | bound {schema : Schema} {name : String} : f.kind = .json → f.schema = some schema →
      name = (if f.name.getD "" = "" then "response" else f.name.getD "") →
      WritesFormat strict f (.object [("type", .str "json_schema"),
        ("json_schema", .object [("name", .str name), ("schema", .object schema),
          ("strict", .bool strict)])])

-- ── What the encoders write ────────────────────────────────────────────────────────

/-- **A message is written so.** -/
theorem message_writes (m : Message) : WritesMessage m (message m) := by
  cases hrole : m.role with
  | system =>
      rw [message_system hrole]
      exact .system hrole
  | user =>
      rw [message_user hrole]
      by_cases hname : m.name.getD "" = ""
      · rw [if_pos hname]
        exact .user hrole hname
      · rw [if_neg hname]
        cases hgiven : m.name with
        | none => exact absurd (by rw [hgiven]; rfl) hname
        | some name => exact .named hrole hgiven (by rwa [hgiven] at hname)
  | assistant =>
      by_cases hcalls : m.toolCalls = []
      · rw [message_answering hrole hcalls]
        exact .answering hrole hcalls
      · rw [message_calling hrole hcalls]
        refine .calling hrole hcalls (List.forall₂_map_right_iff.mpr ?_)
        exact List.forall₂_same.mpr fun call _ => .call
  | tool =>
      rw [message_tool hrole]
      exact .tool hrole

/-- **A tool on offer is written so.** -/
theorem tool_writes (t : ToolSpec) : WritesTool t (tool t) := by
  have hparameters : WritesParameters t
      (if t.parameters.isEmpty then noParameters else Schema.toValue t.parameters) := by
    by_cases hown : t.parameters = []
    · rw [if_pos (List.isEmpty_iff.mpr hown)]
      exact .none hown
    · rw [if_neg fun hempty => hown (List.isEmpty_iff.mp hempty)]
      exact .own hown
  rw [tool]
  cases hgiven : t.description with
  | none => exact .plain (by rw [hgiven]; rfl) hparameters
  | some description =>
      by_cases hempty : description = ""
      · simp only [if_pos hempty]
        exact .plain (by rw [hgiven]; exact hempty) hparameters
      · simp only [if_neg hempty]
        exact .described hgiven hempty hparameters

/-- **An output format is written so.** -/
theorem format_writes (f : ResponseFormat) (strict : Bool) :
    WritesFormat strict f (format f strict) := by
  rw [format.eq_def]
  cases hkind : f.kind with
  | text => exact .text hkind
  | json =>
      cases hschema : f.schema with
      | none => exact .free hkind hschema
      | some schema =>
          refine .bound hkind hschema ?_
          cases f.name <;> rfl

end CompletionStream.Wire
