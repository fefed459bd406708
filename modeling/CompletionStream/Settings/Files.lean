import CompletionStream.Document.YamlReader

/-!
# Files — documents by their paths

The files that a program can see are a list of paths with what they hold: a text, or data that
has been read already. A path may name a file in more than one way: empty parts and single
points between slashes do not count.
-/

namespace CompletionStream.Settings

/-- What a file holds. -/
inductive Content where
  | text (s : String)
  | data (v : Value)

/-- Files by their paths. -/
abbrev Files := List (String × Content)

namespace Files

/-- The parts of a path that count. -/
def parts (path : String) : List String :=
  (path.splitOn "/").filter fun part => part ≠ "" ∧ part ≠ "."

/-- Whether two paths name one file. -/
def samePath (a b : String) : Bool :=
  a.startsWith "/" == b.startsWith "/" && parts a == parts b

/-- What stands under a path. -/
def content? (files : Files) (path : String) : Option Content :=
  (List.find? (fun file => samePath file.1 path) files).map (·.2)

/-- Whether a path names a folder. -/
def isFolder (files : Files) (path : String) : Bool :=
  let front := parts path
  front.isEmpty || files.any fun file => front.isPrefixOf (parts file.1) && parts file.1 != front

/-- Reads a YAML file. A file that is not there, or that holds nothing, is an empty mapping. -/
def loadYaml (files : Files) (path : String) : Outcome Value := do
  let v ←
    match files.content? path with
    | some (.text s) => Document.readYaml s
    | some (.data v) => .ok v
    | none => if files.isFolder path then .error (.ofName "IsADirectoryError") else .ok .null
  return if v.truthy then v else .dict []

/-- Reads a JSON file, which has to be there. -/
def loadJson (files : Files) (path : String) : Outcome Value :=
  match files.content? path with
  | some (.text s) =>
    match Document.readJson? s with
    | some v => .ok v
    | none => .error .notJson
  | some (.data _) => .error .notJson
  | none => .error (if files.isFolder path then .ofName "IsADirectoryError" else .noFile)

/-- The name of a file without what follows its last point, if that is not all there is. -/
def stem (path : String) : String :=
  let name := ((parts path).getLast?).getD ""
  let cs := name.toList.reverse
  let ending := cs.takeWhile (· ≠ '.')
  match cs.drop ending.length with
  | '.' :: front =>
    if front.isEmpty ∨ ending.isEmpty then name else String.ofList front.reverse
  | _ => name

end Files

end CompletionStream.Settings
