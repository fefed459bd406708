import CompletionStream.Fault

/-!
# Checked — readings that collect every misfit

Reading a record reads all of its fields, and the details of all fields that do not fit are
reported together, in the order of the fields. A reading can also be abandoned: then its
fault stands for the whole, whatever details there were.
-/

namespace CompletionStream

/-- What came of reading some data. -/
inductive Checked (α : Type) where
  | ok (a : α)
  | misfit (details : List Detail)
  | abandoned (fault : Fault)

namespace Checked

variable {α β : Type}

/-- Applies a function to what was read. -/
def map (f : α → β) : Checked α → Checked β
  | .ok a => .ok (f a)
  | .misfit ds => .misfit ds
  | .abandoned fault => .abandoned fault

/-- Reads two things. The first reading to be abandoned decides; else all details count. -/
def apply : Checked (α → β) → Checked α → Checked β
  | .abandoned fault, _ => .abandoned fault
  | _, .abandoned fault => .abandoned fault
  | .ok f, .ok a => .ok (f a)
  | .ok _, .misfit ds => .misfit ds
  | .misfit ds, .ok _ => .misfit ds
  | .misfit ds, .misfit es => .misfit (ds ++ es)

instance : Applicative Checked where
  pure := .ok
  map := map
  seq f a := apply f (a ())

/-- A single misfit. -/
def problem (text : String) : Checked α :=
  .misfit [⟨text, []⟩]

/-- Puts a step in front of where every detail stands. -/
def under (step : Locator) : Checked α → Checked α
  | .ok a => .ok a
  | .misfit ds => .misfit (ds.map fun d => { d with path := step :: d.path })
  | .abandoned fault => .abandoned fault

/-- Reads the items of a list. -/
def all : List (Checked α) → Checked (List α)
  | [] => .ok []
  | a :: rest => apply (map List.cons a) (all rest)

/-- Details become one fault. -/
def toOutcome : Checked α → Outcome α
  | .ok a => .ok a
  | .misfit ds => .error ⟨.misfit ds, none⟩
  | .abandoned fault => .error fault

/-- Goes on with what was read, if it could be read. -/
def andThen (a : Checked α) (f : α → Checked β) : Checked β :=
  match a with
  | .ok a => f a
  | .misfit ds => .misfit ds
  | .abandoned fault => .abandoned fault

end Checked

end CompletionStream
