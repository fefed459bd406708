import CompletionStream.Decimal.Notation
import CompletionStream.Text.Quoted
import CompletionStream.Value

/-!
# Literals — values written for people

A value is written the way it would stand in a program: texts between quotes, numbers in
their default spelling, sequences and mappings between brackets with a comma and a blank
between the items. A tuple of one item keeps a final comma.
-/

namespace CompletionStream.Value

/-- Joins texts with a comma and a blank. -/
def commaSeparated : List String → String
  | [] => ""
  | [s] => s
  | s :: rest => s ++ ", " ++ commaSeparated rest

mutual

/-- The literal of a value. -/
def literal : Value → String
  | .null => "None"
  | .bool b => if b then "True" else "False"
  | .int n => toString n
  | .float x => floatText x
  | .str s => Text.quoted s
  | .list items => "[" ++ commaSeparated (literals items) ++ "]"
  | .tuple items =>
    match literals items with
    | [item] => "(" ++ item ++ ",)"
    | items => "(" ++ commaSeparated items ++ ")"
  | .dict members => "\x7b" ++ commaSeparated (memberLiterals members) ++ "\x7d"
  | .foreign s => s
  termination_by structural v => v

/-- The literals of the items of a sequence. -/
def literals : List Value → List String
  | [] => []
  | v :: vs => literal v :: literals vs
  termination_by structural vs => vs

/-- The literals of the members of a mapping. -/
def memberLiterals : List (Value × Value) → List String
  | [] => []
  | (k, v) :: ms => (literal k ++ ": " ++ literal v) :: memberLiterals ms
  termination_by structural ms => ms

end

/-- A value as running text: a text stands as it is, everything else as its literal. -/
def plain : Value → String
  | .str s => s
  | v => literal v

end CompletionStream.Value
