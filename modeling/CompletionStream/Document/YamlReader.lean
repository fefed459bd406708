import CompletionStream.Document.YamlScalar

/-!
# Reading YAML

The reader takes one document made of block and flow mappings and sequences, plain words and
quoted texts, and comments. The structure of blocks is told by columns: the members of a block
mapping start in one column, and what belongs to a member stands further to the right, but for
a sequence, whose dashes may stand in the column of the member's name.

A position in the text knows its column and whether only blanks stand before it on its line.
Each nested value uses up some of the text, so the length of the text bounds the nesting.
-/

namespace CompletionStream.Document

/-- A position in a text. -/
structure Spot where
  rest : List Char
  column : Nat
  /-- Only blanks stand before it on its line. -/
  fresh : Bool
  /-- The number of its line. -/
  line : Nat

namespace Spot

/-- The start of a text. -/
def start (cs : List Char) : Spot := ⟨cs, 0, true, 0⟩

/-- Past a number of characters of the same line. -/
def skip (spot : Spot) (count : Nat) : Spot :=
  { spot with rest := spot.rest.drop count, column := spot.column + count, fresh := false }

/-- At the start of the next line, whose text is given. -/
def nextLine (spot : Spot) (rest : List Char) : Spot :=
  ⟨rest, 0, true, spot.line + 1⟩

/-- Past blanks, comments and ends of lines. -/
def settle (spot : Spot) : Spot :=
  go spot.rest false spot
where
  /-- Takes the text apart; the flag tells whether it is inside a comment. -/
  go : List Char → Bool → Spot → Spot
    | [], _, spot => { spot with rest := [] }
    | '\n' :: rest, _, spot => go rest false (spot.nextLine rest)
    | '\r' :: rest, _, spot => go rest false { spot with rest }
    | _ :: rest, true, spot => go rest true spot
    | ' ' :: rest, false, spot => go rest false { spot with rest, column := spot.column + 1 }
    | '#' :: rest, false, spot => go rest true spot
    | c :: rest, false, spot => { spot with rest := c :: rest }

/-- Whether the text is used up. -/
def isEnd (spot : Spot) : Bool := spot.rest.isEmpty

end Spot

/-- A blank, the end of a line, or the end of the text. -/
def startsGap : List Char → Bool
  | [] => true
  | c :: _ => c == ' ' || c == '\t' || c == '\n' || c == '\r'

/-- Whether a text starts with a mark of three characters that stands alone. -/
def startsMark (mark : List Char) (cs : List Char) : Bool :=
  mark.isPrefixOf cs && startsGap (cs.drop 3)

/-- Whether a document begins or ends here. -/
def Spot.isMark (spot : Spot) : Bool :=
  spot.column == 0 && (startsMark ['-', '-', '-'] spot.rest || startsMark ['.', '.', '.'] spot.rest)

/-- Whether a document has nothing more. -/
def Spot.isOver (spot : Spot) : Bool := spot.isEnd || spot.isMark

/-- Whether an item of a block sequence starts here. -/
def Spot.isDash (spot : Spot) : Bool :=
  match spot.rest with
  | '-' :: rest => startsGap rest
  | _ => false

/-- The characters that end a plain word inside brackets. -/
def isFlowMark (c : Char) : Bool :=
  c == ',' || c == '[' || c == ']' || c == '\x7b' || c == '\x7d'

/-- Whether a colon that is followed by this text ends a plain word. -/
def endsWord (flow : Bool) (rest : List Char) : Bool :=
  startsGap rest || (flow && (rest.head?.map isFlowMark).getD false)

/-- Whether a plain word may start here. -/
def startsWord (flow : Bool) : List Char → Bool
  | [] => false
  | c :: rest =>
    if c == '-' then !startsGap rest
    else if c == '?' || c == ':' then !flow && !startsGap rest
    else !("\t\n\r,[]\x7b\x7d#&*!|>'\"%@\x60 ".toList.contains c)

/-- The part of a plain word on one line, without the blanks behind it, and how many characters
    it takes up. The blanks that were passed over are counted until more of the word follows. -/
def wordLine (flow : Bool) : List Char → Nat → List Char
  | [], _ => []
  | c :: rest, blanks =>
    if c = ' ' then wordLine flow rest (blanks + 1)
    else if c = '\n' ∨ c = '\r' ∨ c = '\t' then []
    else if c = '#' ∧ 0 < blanks then []
    else if c = ':' ∧ endsWord flow rest then []
    else if flow ∧ (isFlowMark c ∨ c = '?') then []
    else List.replicate blanks ' ' ++ c :: wordLine flow rest 0

/-- Past blanks of the same line. -/
def Spot.pastBlanks (spot : Spot) : Spot :=
  let blanks := (spot.rest.takeWhile (· == ' ')).length
  { spot with rest := spot.rest.drop blanks, column := spot.column + blanks }

/-- At the next line that is not blank, if a line ends here, with the number of blank lines
    passed over. -/
def nextText : Nat → Spot → Nat → Option (Nat × Spot)
  | 0, _, _ => none
  | fuel + 1, spot, breaks =>
    let spot := spot.pastBlanks
    match spot.rest with
    | '\r' :: '\n' :: rest => nextText fuel (spot.nextLine rest) (breaks + 1)
    | '\n' :: rest => nextText fuel (spot.nextLine rest) (breaks + 1)
    | _ => if 0 < breaks then some (breaks - 1, spot) else none

/-- What stands between two lines of a text that is folded: a blank, or the blank lines. -/
def fold (blankLines : Nat) : List Char :=
  if blankLines = 0 then [' '] else List.replicate blankLines '\n'

/-- The lines of a plain word behind its first. They stand to the right of `parent`, unless
    the word is inside brackets. -/
def moreWords (flow : Bool) (parent : Int) : Nat → Spot → List Char × Spot
  | 0, spot => ([], spot)
  | fuel + 1, spot =>
    match nextText (spot.rest.length + 1) spot 0 with
    | none => ([], spot)
    | some (blankLines, next) =>
      if next.isOver ∨ (!flow ∧ (next.column : Int) ≤ parent) ∨ next.rest.head? = some '#' then
        ([], spot)
      else
        match wordLine flow next.rest 0 with
        | [] => ([], spot)
        | word =>
          let (more, spot) := moreWords flow parent fuel (next.skip word.length)
          (fold blankLines ++ word ++ more, spot)

/-- A plain word, on one line or more. -/
def plainWord (flow : Bool) (parent : Int) (spot : Spot) : List Char × Spot :=
  let word := wordLine flow spot.rest 0
  let (more, spot) := moreWords flow parent spot.rest.length (spot.skip word.length)
  (word ++ more, spot)

/-- The character that an escape of one letter stands for. -/
def escapes : List (Char × Char) :=
  [('0', '\x00'), ('a', '\x07'), ('b', '\x08'), ('t', '\t'), ('\t', '\t'), ('n', '\n'),
   ('v', '\x0b'), ('f', '\x0c'), ('r', '\r'), ('e', '\x1b'), (' ', ' '), ('"', '"'),
   ('\\', '\\'), ('/', '/'), ('N', '\u0085'), ('_', '\u00a0'), ('L', '\u2028'), ('P', '\u2029')]

/-- A character given by a number of hexadecimal digits. -/
def hexEscape? (count : Nat) (cs : List Char) : Option (Char × List Char) := do
  let digits ← (cs.take count).mapM hexDigit?
  if digits.length = count then
    some (Char.ofNat (digits.foldl (fun n d => 16 * n + d) 0), cs.drop count)
  else none

/-- What an escape stands for, the backslash already taken off. -/
def yamlEscape? : List Char → Option (Char × List Char)
  | 'x' :: rest => hexEscape? 2 rest
  | 'u' :: rest => hexEscape? 4 rest
  | 'U' :: rest => hexEscape? 8 rest
  | c :: rest => (escapes.find? (·.1 == c)).map fun (_, stands) => (stands, rest)
  | [] => none

/-- A text in quotes, the opening one already taken off. Lines are folded. -/
def quotedText (double : Bool) : Nat → Spot → List Char → Outcome (String × Spot)
  | 0, _, _ => .error .notYaml
  | fuel + 1, spot, acc =>
    match spot.rest with
    | [] => .error .notYaml
    | '\'' :: '\'' :: _ =>
      if double then quotedText double fuel (spot.skip 2) ('\'' :: '\'' :: acc)
      else quotedText double fuel (spot.skip 2) ('\'' :: acc)
    | c :: rest =>
      if c = (if double then '"' else '\'') then .ok (String.ofList acc.reverse, spot.skip 1)
      else if c = '\\' ∧ double then
        match rest with
        | '\n' :: rest =>
          let next := (spot.nextLine rest).pastBlanks
          quotedText double fuel next acc
        | _ =>
          match yamlEscape? rest with
          | some (stands, more) =>
            quotedText double fuel (spot.skip (rest.length - more.length + 1)) (stands :: acc)
          | none => .error .notYaml
      else if c = '\n' ∨ c = '\r' then
        match nextText (rest.length + 2) spot 0 with
        | some (blankLines, next) =>
          if next.isMark then .error .notYaml
          else
            let kept := acc.dropWhile (· == ' ')
            quotedText double fuel next ((fold blankLines).reverse ++ kept)
        | none => .error .notYaml
      else quotedText double fuel (spot.skip 1) (c :: acc)

/-- A value that can be the name of a member: no list and no mapping. -/
def asKey (v : Value) : Outcome Value :=
  match v with
  | .list _ | .dict _ => .error .notYaml
  | v => .ok v

mutual

/-- A value in brackets or quotes, or a plain word. -/
def flowValue (flow : Bool) (parent : Int) : Nat → Spot → Outcome (Value × Spot)
  | 0, _ => .error .notYaml
  | fuel + 1, spot =>
    match spot.rest with
    | '[' :: _ => flowItems fuel [] ((spot.skip 1).settle)
    | '\x7b' :: _ => flowMembers fuel [] ((spot.skip 1).settle)
    | '"' :: rest => do
      let (s, spot) ← quotedText true (rest.length + 1) (spot.skip 1) []
      return (.str s, spot)
    | '\'' :: rest => do
      let (s, spot) ← quotedText false (rest.length + 1) (spot.skip 1) []
      return (.str s, spot)
    | cs =>
      if startsWord flow cs then do
        let (word, spot) := plainWord flow parent spot
        return (← yamlScalar (String.ofList word), spot)
      else .error .notYaml

/-- What follows a name inside brackets: a colon and a value, which may be missing. -/
def flowMember (name : Value) : Nat → Spot → Outcome (Option (Value × Value) × Spot)
  | 0, _ => .error .notYaml
  | fuel + 1, spot =>
    match spot.rest with
    | ':' :: _ => do
      let name ← asKey name
      let spot := (spot.skip 1).settle
      match spot.rest with
      | ',' :: _ | ']' :: _ | '\x7d' :: _ => return (some (name, .null), spot)
      | _ =>
        let (v, spot) ← flowValue true 0 fuel spot
        return (some (name, v), spot.settle)
    | _ => .ok (none, spot)

/-- The items of a sequence in brackets, the next of them in front. A lone member is a mapping
    of its own. -/
def flowItems : Nat → List Value → Spot → Outcome (Value × Spot)
  | 0, _, _ => .error .notYaml
  | fuel + 1, acc, spot =>
    match spot.rest with
    | ']' :: _ => .ok (.list acc.reverse, spot.skip 1)
    | _ => do
      let (v, spot) ← flowValue true 0 fuel spot
      let (member, spot) ← flowMember v fuel spot.settle
      let v := match member with
        | some (name, v) => .dict [(name, v)]
        | none => v
      match spot.rest with
      | ',' :: _ => flowItems fuel (v :: acc) ((spot.skip 1).settle)
      | ']' :: _ => .ok (.list (v :: acc).reverse, spot.skip 1)
      | _ => .error .notYaml

/-- The members of a mapping in braces, the next of them in front. -/
def flowMembers : Nat → Members → Spot → Outcome (Value × Spot)
  | 0, _, _ => .error .notYaml
  | fuel + 1, acc, spot =>
    match spot.rest with
    | '\x7d' :: _ => .ok (.dict acc, spot.skip 1)
    | _ => do
      let (name, spot) ← flowValue true 0 fuel spot
      let (member, spot) ← flowMember name fuel spot.settle
      let (name, v) ← match member with
        | some pair => .ok pair
        | none => (asKey name).map fun name => (name, .null)
      match spot.rest with
      | ',' :: _ => flowMembers fuel (acc.put name v) ((spot.skip 1).settle)
      | '\x7d' :: _ => .ok (.dict (acc.put name v), spot.skip 1)
      | _ => .error .notYaml

end

/-- The name of a member of a block mapping, if one starts here: on one line, and followed by a
    colon with a gap behind it. -/
def blockName? (parent : Int) (spot : Spot) : Option (Value × Spot) :=
  let name : Outcome (Value × Spot) :=
    match spot.rest with
    | c :: _ =>
      if c = '[' ∨ c = '\x7b' ∨ c = '"' ∨ c = '\'' then
        flowValue false parent (2 * spot.rest.length + 2) spot
      else if startsWord false spot.rest then do
        let word := wordLine false spot.rest 0
        return (← yamlScalar (String.ofList word), spot.skip word.length)
      else .error .notYaml
    | [] => .error .notYaml
  match name with
  | .error _ => none
  | .ok (name, next) =>
    let next := next.pastBlanks
    match next.rest with
    | ':' :: rest =>
      if startsGap rest ∧ next.line = spot.line then some (name, next.skip 1) else none
    | _ => none

mutual

/-- A value in front of a text. Blocks may start here if `block` says so, and stand to the right
    of `parent`. -/
def blockValue (block : Bool) (parent : Int) : Nat → Spot → Outcome (Value × Spot)
  | 0, _ => .error .notYaml
  | fuel + 1, spot =>
    if spot.isDash then
      if block then blockItems spot.column fuel [] spot else .error .notYaml
    else
      match blockName? parent spot with
      | some _ => if block then blockMembers spot.column fuel [] spot else .error .notYaml
      | none => flowValue false parent (2 * spot.rest.length + 2) spot

/-- What follows the colon of a member whose name stands in a column. -/
def memberValue (column : Nat) : Nat → Spot → Outcome (Value × Spot)
  | 0, _ => .error .notYaml
  | fuel + 1, spot =>
    let next := spot.settle
    if next.isOver then .ok (.null, next)
    else if !next.fresh then blockValue false column fuel next
    else if column < next.column then blockValue true column fuel next
    else if next.column = column ∧ next.isDash then blockItems column fuel [] next
    else .ok (.null, next)

/-- The members of a block mapping in a column, the next of them in front. -/
def blockMembers (column : Nat) : Nat → Members → Spot → Outcome (Value × Spot)
  | 0, _, _ => .error .notYaml
  | fuel + 1, acc, spot =>
    match blockName? column spot with
    | none => .error .notYaml
    | some (name, spot) => do
      let name ← asKey name
      let (v, spot) ← memberValue column fuel spot
      let acc := acc.put name v
      let next := spot.settle
      if next.isOver then .ok (.dict acc, next)
      else if !next.fresh ∨ column < next.column then .error .notYaml
      else if next.column = column then blockMembers column fuel acc next
      else .ok (.dict acc, next)

/-- The items of a block sequence whose dashes stand in a column, the next of them in front. -/
def blockItems (column : Nat) : Nat → List Value → Spot → Outcome (Value × Spot)
  | 0, _, _ => .error .notYaml
  | fuel + 1, acc, spot => do
    let next := (spot.skip 1).settle
    let (v, spot) ←
      if next.isOver ∨ (next.fresh ∧ next.column ≤ column) then .ok (.null, next)
      else blockValue true column fuel next
    let next := spot.settle
    if next.isOver then .ok (.list (v :: acc).reverse, next)
    else if !next.fresh ∨ column < next.column then .error .notYaml
    else if next.column = column ∧ next.isDash then blockItems column fuel (v :: acc) next
    else .ok (.list (v :: acc).reverse, next)

end

/-- Past the mark that begins a document, if there is one. -/
def Spot.pastMark (spot : Spot) : Spot :=
  if spot.column == 0 && startsMark ['-', '-', '-'] spot.rest then (spot.skip 3).settle else spot

/-- Whether a document ends here and nothing follows it. -/
def Spot.isLast (spot : Spot) : Bool :=
  if spot.column == 0 && startsMark ['.', '.', '.'] spot.rest then ((spot.skip 3).settle).isEnd
  else spot.isEnd

/-- Reads a whole YAML document. An empty one is null. -/
def readYaml (s : String) : Outcome Value := do
  let cs := s.toList
  let spot := ((Spot.start cs).settle).pastMark
  if spot.isLast then return .null
  let (v, spot) ← blockValue spot.fresh (-1) (2 * cs.length + 2) spot
  if spot.settle.isLast then return v else .error .notYaml

end CompletionStream.Document
