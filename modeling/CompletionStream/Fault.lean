import CompletionStream.Text.Quoted
import CompletionStream.Value

/-!
# Fault — what can go wrong

A fault has a kind and, mostly, a text. The library raises faults of its own kinds; a
provider's client raises vendor faults; callbacks, streams and readers of documents raise
others, known here by the name of their class. All of these are ordinary. An interrupt is
not: it tells the program to stop, and nothing in the library absorbs it.
-/

namespace CompletionStream

/-- One step on the way to a piece of data: a member's name or a position. -/
inductive Locator where
  | name (s : String)
  | index (n : Int)
  deriving DecidableEq, Repr

/-- Why a piece of data does not fit its field, and where it stands. -/
structure Detail where
  problem : String
  path : List Locator
  deriving DecidableEq, Repr

/-- What stands behind a fault: a failure of a provider's client, with the name of its class, its
    status if it carries one, and what it says of itself. -/
structure Cause where
  name : String
  status : Option Value
  text : Option String

/-- Where a text will do, a cause is known by its name. -/
instance : Coe (Option Cause) (Option String) := ⟨Option.map Cause.name⟩

/-- The kinds of faults. -/
inductive FaultKind where
  /-- A failure of the library for which there is no closer kind. -/
  | general
  /-- A client was set up in a way that cannot work. -/
  | configuration
  /-- A request was refused before anything was sent. -/
  | validation
  /-- The provider cannot serve what a request asks for. -/
  | capability
  /-- The stream itself failed, with the provider's status and what caused it. -/
  | transport (status : Value) (cause : Option Cause)
  /-- A finalized stream was used again. -/
  | streamState
  /-- A provider's client failed; some of its failures carry a status. -/
  | vendor (name : String) (status : Option Value)
  /-- Data does not fit its fields. -/
  | misfit (details : List Detail)
  /-- Any other failure, known by the name of its class. -/
  | named (name : String)
  /-- A demand to stop. -/
  | interrupt (name : String)

/-- A failure on its way to whoever handles it. The text is absent where its wording belongs
    to the reader or library that raised it. -/
structure Fault where
  kind : FaultKind
  text : Option String

/-- A computation that may fail. -/
abbrev Outcome := Except Fault

namespace FaultKind

/-- The name of the fault's class. -/
def name : FaultKind → String
  | .general => "ChatStreamError"
  | .configuration => "ConfigurationError"
  | .validation => "ValidationError"
  | .capability => "UnsupportedCapabilityError"
  | .transport _ _ => "TransportError"
  | .streamState => "StreamStateError"
  | .vendor name _ => name
  | .misfit _ => "ValidationError"
  | .named name => name
  | .interrupt name => name

/-- Whether handlers of failures see the fault. -/
def isOrdinary : FaultKind → Bool
  | .interrupt _ => false
  | _ => true

/-- Whether the fault is of one of the library's own kinds. -/
def isOwn : FaultKind → Bool
  | .general | .configuration | .validation | .capability | .transport _ _ | .streamState => true
  | _ => false

/-- Whether a provider's client raised the fault. -/
def isVendor : FaultKind → Bool
  | .vendor _ _ => true
  | _ => false

end FaultKind

namespace Fault

/-- The name of the fault's class. -/
def name (fault : Fault) : String :=
  fault.kind.name

/-- Whether handlers of failures see the fault. -/
def isOrdinary (fault : Fault) : Bool :=
  fault.kind.isOrdinary

/-- A fault with a text. -/
def of (kind : FaultKind) (text : String) : Fault :=
  ⟨kind, some text⟩

/-- A fault known by the name of its class alone. -/
def ofName (name : String) : Fault :=
  ⟨.named name, none⟩

/-- What a fault says of itself. A failed look-up quotes the key that was not found. -/
def message? (fault : Fault) : Option String :=
  match fault.kind with
  | .named "KeyError" => fault.text.map Text.quoted
  | _ => fault.text

/-- What a fault says of itself, nothing where its wording is not known. -/
def message (fault : Fault) : String :=
  fault.message?.getD ""

/-- A fault whose text is lost on the way. -/
def mute (fault : Fault) : Fault :=
  { fault with text := none }

/-- The status of a fault that carries one. -/
def status? (fault : Fault) : Option Value :=
  match fault.kind with
  | .transport status _ => some status
  | .vendor _ status => status
  | _ => none

/-- The failure of a provider's client that stands behind a fault. -/
def cause? (fault : Fault) : Option Fault :=
  match fault.kind with
  | .transport _ (some cause) => some ⟨.vendor cause.name cause.status, cause.text⟩
  | _ => none

/-- Data of the wrong kind. -/
def wrongType : Fault := ofName "TypeError"

/-- Data without the member that was asked for. -/
def noMember : Fault := ofName "AttributeError"

/-- Data of the right kind with a value that makes no sense. -/
def wrongValue : Fault := ofName "ValueError"

/-- A number too large for where it is needed. -/
def overflow : Fault := ofName "OverflowError"

/-- A file that is not there. -/
def noFile : Fault := ofName "FileNotFoundError"

/-- A document that is not JSON. -/
def notJson : Fault := ofName "JSONDecodeError"

/-- A document that is not YAML. -/
def notYaml : Fault := ofName "YAMLError"

/-- A setting that cannot be read from the environment. -/
def badSetting : Fault := ofName "SettingsError"

/-- The program ends with this status. -/
def exit (status : Int) : Fault :=
  of (.interrupt "SystemExit") (toString status)

end Fault

/-- The integer next to a double on the side of zero. -/
def FloatClass.truncated : FloatClass → Outcome Int
  | .nan => .error .wrongValue
  | .infinite _ => .error .overflow
  | .finite negative mantissa exponent => .ok (signed negative (whole mantissa exponent))

end CompletionStream
