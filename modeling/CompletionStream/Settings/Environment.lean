import CompletionStream.Document.JsonReader
import CompletionStream.Settings.Merge
import CompletionStream.Text.Class
import CompletionStream.Value.Literal

/-!
# Environment — settings from outside the files

The environment is a list of variables. A few are asked for by their exact names; all others
are found whatever their letter case. A field that holds a list or a mapping is written in the
environment as JSON. Where the field may also be missing, a text that is not JSON is kept, so
that it is reported as a misfit of the field; where it may not, it is a setting that cannot be
read.
-/

namespace CompletionStream.Settings

/-- The variables, in order. -/
abbrev Environment := List (String × String)

/-- How a field is written in the environment. -/
inductive Shape where
  /-- As it is. -/
  | plain
  /-- As JSON. -/
  | structured
  /-- As JSON, unless it is not JSON. -/
  | perhapsStructured
  deriving DecidableEq, Repr

/-- A field of a group of settings: its name, the other name it may be given by, and how it is
    written in the environment. -/
structure Field where
  name : String
  otherName : Option String
  shape : Shape
  deriving DecidableEq, Repr

namespace Field

/-- A field with one name that is written as it is. -/
def named (name : String) : Field := ⟨name, none, .plain⟩

/-- The names by which data gives a field, the first being preferred. -/
def names (field : Field) : List String :=
  field.otherName.toList ++ [field.name]

/-- The name that data from the environment is filed under. -/
def preferredName (field : Field) : String :=
  field.otherName.getD field.name

end Field

/-- A group of settings: its name, how the names of its variables start, and its fields. -/
structure Group where
  name : String
  lead : String
  fields : List Field

namespace Environment

/-- The value of a variable that is set to something. -/
def get? (env : Environment) (name : String) : Option String :=
  match env.find? (·.1 == name) with
  | some (_, value) => if value = "" then none else some value
  | none => none

/-- The variables with their names in lower case; of two with one name the later counts. -/
def folded (env : Environment) : List (String × String) :=
  env.foldl (fun seen (name, value) => insert (Text.lower name) value seen) []
where
  /-- Sets a variable in its place. -/
  insert (name value : String) : List (String × String) → List (String × String)
    | [] => [(name, value)]
    | (n, v) :: rest => if n = name then (n, value) :: rest else (n, v) :: insert name value rest

/-- The value of a variable, whatever the letter case of its name. -/
def find? (env : Environment) (name : String) : Option String :=
  (env.folded.find? (·.1 == Text.lower name)).map (·.2)

end Environment

/-- A text from the environment as a field's value. JSON's null is no value. -/
def Shape.read (shape : Shape) (text : String) : Outcome (Option Value) :=
  match shape with
  | .plain => .ok (some (.str text))
  | .structured =>
    match Document.readJson? text with
    | some .null => .ok none
    | some v => .ok (some v)
    | none => .error .badSetting
  | .perhapsStructured =>
    match Document.readJson? text with
    | some .null => .ok none
    | some v => .ok (some v)
    | none => .ok (some (.str text))

namespace Group

/-- The variables of a field, each with the name its value is filed under. -/
def fieldVariables (group : Group) (field : Field) : List (String × String) :=
  (field.otherName.toList.map fun other => (other, other)) ++
    [(field.name, group.lead ++ field.name)]

/-- What the environment gives for a field, with the name it is filed under. -/
def fieldFrom (group : Group) (env : Environment) (field : Field) :
    Outcome (Option (String × Value)) :=
  let found := (group.fieldVariables field).findSome? fun (name, variableName) =>
    (env.find? variableName).map fun text => (name, text)
  match found with
  | none => .ok none
  | some (name, text) => do
    return (← field.shape.read text).map fun v => (name, v)

/-- The field that a part of a variable's name speaks of. -/
def fieldNamed? (group : Group) (part : String) : Option Field :=
  group.fields.find? fun field =>
    field.name == Text.lower part || Text.lower field.preferredName == Text.lower part

/-- Files a value under a path of names. What stands in the way of the path stays. -/
def fileUnder : List String → Value → Members → Members
  | [], _, members => members
  | [last], v, members => members.set last v
  | part :: rest, v, members =>
    match members.get? part with
    | some (.dict inner) => members.set part (.dict (fileUnder rest v inner))
    | some _ => members
    | none => members.set part (.dict (fileUnder rest v []))

/-- The value of a variable that names a single field of a group, or something inside one.
    Only a field of the group itself can be written as JSON. -/
def nestedValue (group : Group) (path : List String) (text : String) : Outcome Value :=
  match path with
  | [part] =>
    match group.fieldNamed? part with
    | some field =>
      if text = "" then .ok (.str text)
      else (field.shape.read text).map fun v => v.getD .null
    | none => .ok (.str text)
  | _ => .ok (.str text)

/-- What the variables that name single fields of a group give, `GROUP__FIELD` and the like. -/
def nested (group : Group) (env : Environment) : Outcome Members :=
  let lead := group.name ++ "__"
  env.folded.foldlM (fun members (name, text) =>
    if name.startsWith lead then do
      let path := (name.drop lead.length).toString.splitOn "__"
      return fileUnder path (← group.nestedValue path text) members
    else return members) []

/-- Files data from the environment under the names that the group knows. -/
def respelled (group : Group) (members : Members) : Members :=
  members.foldl (fun acc (key, v) =>
    let spelled := (group.fields.find? fun field =>
      Text.lower field.preferredName == Text.lower key.plain).map Field.preferredName
    acc.set (spelled.getD key.plain) v) []

/-- What the environment gives for a group as a whole: a JSON document in a variable of the
    group's name, and the variables that name single fields. -/
def wholeFrom (group : Group) (env : Environment) : Outcome (Option Value) :=
  match env.find? group.name with
  | none => do
    let members ← group.nested env
    return if members.isEmpty then none else some (.dict (group.respelled members))
  | some text => do
    match ← Shape.structured.read text with
    | none => return none
    | some (.dict members) =>
      return some (.dict (group.respelled (mergeMembers members (← group.nested env))))
    | some v => return some v

/-- What is given for a field, with the name it was given by: data counts before the
    environment, and mappings from both are merged. -/
def given (group : Group) (env : Environment) (data : Members) (field : Field) :
    Outcome (Option (String × Value)) := do
  let own := field.names.findSome? fun name => (data.get? name).map fun v => (name, v)
  let outer ← group.fieldFrom env field
  match own, outer with
  | some (name, v), some (_, base) => return some (name, overlay (some base) v)
  | some pair, none => return some pair
  | none, outer => return outer

end Group

end CompletionStream.Settings
