import CompletionStream.Text.Number

/-!
# Reading JSON

The reader takes the JSON grammar with two liberties: `NaN`, `Infinity` and `-Infinity` are
numbers, and of two members with one key the later value stands. A number with a point or an
exponent is a double, every other number an integer of any size. Half of a surrogate pair
without its partner becomes the replacement character.

Each nested value uses up some of the text, so the length of the text bounds the nesting.
-/

namespace CompletionStream.Document

/-- Drops blanks as JSON knows them. -/
def skipBlanks (cs : List Char) : List Char :=
  cs.dropWhile fun c => c == ' ' || c == '\t' || c == '\n' || c == '\r'

/-- The value of a hexadecimal digit. -/
def hexDigit? (c : Char) : Option Nat :=
  if '0' ≤ c ∧ c ≤ '9' then some (c.toNat - 0x30)
  else if 'a' ≤ c ∧ c ≤ 'f' then some (c.toNat - 0x57)
  else if 'A' ≤ c ∧ c ≤ 'F' then some (c.toNat - 0x37)
  else none

/-- Four hexadecimal digits and the rest. -/
def hexUnit? : List Char → Option (Nat × List Char)
  | a :: b :: c :: d :: rest => do
    let a ← hexDigit? a
    let b ← hexDigit? b
    let c ← hexDigit? c
    let d ← hexDigit? d
    return (((a * 16 + b) * 16 + c) * 16 + d, rest)
  | _ => none

/-- The character of a `\u` escape: two units make up a character beyond `U+FFFF`. -/
def escapedChar? (cs : List Char) : Option (Char × List Char) := do
  let (high, rest) ← hexUnit? cs
  if 0xd800 ≤ high ∧ high < 0xdc00 then
    match rest with
    | '\\' :: 'u' :: more =>
      match hexUnit? more with
      | some (low, rest') =>
        if 0xdc00 ≤ low ∧ low < 0xe000 then
          some (Char.ofNat (0x10000 + (high - 0xd800) * 0x400 + (low - 0xdc00)), rest')
        else some ('\ufffd', rest)
      | none => some ('\ufffd', rest)
    | _ => some ('\ufffd', rest)
  else if 0xdc00 ≤ high ∧ high < 0xe000 then some ('\ufffd', rest)
  else some (Char.ofNat high, rest)

/-- The text up to the closing quote, and what follows it. -/
def readString (fuel : Nat) (acc : List Char) (cs : List Char) :
    Option (String × List Char) :=
  match fuel with
  | 0 => none
  | fuel + 1 =>
    match cs with
    | '"' :: rest => some (String.ofList acc.reverse, rest)
    | '\\' :: 'u' :: rest => do
      let (c, rest) ← escapedChar? rest
      readString fuel (c :: acc) rest
    | '\\' :: c :: rest =>
      match c with
      | '"' => readString fuel ('"' :: acc) rest
      | '\\' => readString fuel ('\\' :: acc) rest
      | '/' => readString fuel ('/' :: acc) rest
      | 'b' => readString fuel ('\x08' :: acc) rest
      | 'f' => readString fuel ('\x0c' :: acc) rest
      | 'n' => readString fuel ('\n' :: acc) rest
      | 'r' => readString fuel ('\r' :: acc) rest
      | 't' => readString fuel ('\t' :: acc) rest
      | _ => none
    | c :: rest => if c.toNat < 0x20 then none else readString fuel (c :: acc) rest
    | [] => none

/-- The digits in front of a text. -/
def spanDigits (cs : List Char) : List Char × List Char :=
  (cs.takeWhile Char.isDigit, cs.dropWhile Char.isDigit)

/-- A fraction in front of a text: a point with digits behind it. -/
def readFraction (cs : List Char) : List Char × List Char :=
  match cs with
  | '.' :: rest =>
    let (digits, rest) := spanDigits rest
    if digits.isEmpty then ([], cs) else (digits, rest)
  | _ => ([], cs)

/-- An exponent in front of a text. -/
def readExponent (cs : List Char) : Option Int × List Char :=
  match cs with
  | c :: rest =>
    if c = 'e' ∨ c = 'E' then
      let (negative, rest) := Text.splitSign rest
      let (digits, rest) := spanDigits rest
      if digits.isEmpty then (none, cs)
      else
        let value := Text.ofDigits (digits.filterMap Text.asciiDigit?)
        (some (FloatClass.signed negative value), rest)
    else (none, cs)
  | [] => (none, [])

/-- A number in front of a text, its sign already taken off. -/
def readNumber (negative : Bool) (cs : List Char) : Option (Value × List Char) :=
  let (digits, rest) :=
    match cs with
    | '0' :: rest => (['0'], rest)
    | _ => spanDigits cs
  if digits.isEmpty then none
  else
    let (fraction, rest) := readFraction rest
    let (exponent, rest) := readExponent rest
    let number := Text.ofDigits ((digits ++ fraction).filterMap Text.asciiDigit?)
    if fraction.isEmpty ∧ exponent.isNone then
      some (.int (FloatClass.signed negative number), rest)
    else
      let magnitude := Text.decimalFloat number (exponent.getD 0 - fraction.length)
      some (.float (if negative then -magnitude else magnitude), rest)

/-- What follows a given word. -/
def afterWord? (word : String) (cs : List Char) : Option (List Char) :=
  if word.toList.isPrefixOf cs then some (cs.drop word.toList.length) else none

/-- A number or one of the words. -/
def readScalar (cs : List Char) : Option (Value × List Char) :=
  match cs with
  | 'n' :: _ => (afterWord? "null" cs).map fun rest => (.null, rest)
  | 't' :: _ => (afterWord? "true" cs).map fun rest => (.bool true, rest)
  | 'f' :: _ => (afterWord? "false" cs).map fun rest => (.bool false, rest)
  | 'N' :: _ => (afterWord? "NaN" cs).map fun rest => (.float (0.0 / 0.0), rest)
  | 'I' :: _ => (afterWord? "Infinity" cs).map fun rest => (.float (1.0 / 0.0), rest)
  | '-' :: 'I' :: _ => (afterWord? "-Infinity" cs).map fun rest => (.float (-1.0 / 0.0), rest)
  | '-' :: rest => readNumber true rest
  | _ => readNumber false cs

mutual

/-- A value in front of a text that starts with no blank. -/
def readValue : Nat → List Char → Option (Value × List Char)
  | 0, _ => none
  | fuel + 1, cs =>
    match cs with
    | '"' :: rest => (readString (rest.length + 1) [] rest).map fun (s, rest) => (.str s, rest)
    | '[' :: rest =>
      match skipBlanks rest with
      | ']' :: rest => some (.list [], rest)
      | rest => readItems fuel [] rest
    | '\x7b' :: rest =>
      match skipBlanks rest with
      | '\x7d' :: rest => some (.dict [], rest)
      | rest => readMembers fuel [] rest
    | _ => readScalar cs

/-- The items of an array, the next of them in front. -/
def readItems : Nat → List Value → List Char → Option (Value × List Char)
  | 0, _, _ => none
  | fuel + 1, acc, cs => do
    let (v, rest) ← readValue fuel cs
    match skipBlanks rest with
    | ',' :: rest => readItems fuel (v :: acc) (skipBlanks rest)
    | ']' :: rest => some (.list (v :: acc).reverse, rest)
    | _ => none

/-- The members of an object, the next of them in front. -/
def readMembers : Nat → Members → List Char → Option (Value × List Char)
  | 0, _, _ => none
  | fuel + 1, acc, cs =>
    match cs with
    | '"' :: rest => do
      let (name, rest) ← readString (rest.length + 1) [] rest
      match skipBlanks rest with
      | ':' :: rest =>
        let (v, rest) ← readValue fuel (skipBlanks rest)
        let acc := acc.set name v
        match skipBlanks rest with
        | ',' :: rest => readMembers fuel acc (skipBlanks rest)
        | '\x7d' :: rest => some (.dict acc, rest)
        | _ => none
      | _ => none
    | _ => none

end

/-- Reads a whole JSON document. -/
def readJson? (s : String) : Option Value := do
  let cs := s.toList
  let (v, rest) ← readValue (2 * cs.length + 2) (skipBlanks cs)
  if (skipBlanks rest).isEmpty then some v else none

end CompletionStream.Document
