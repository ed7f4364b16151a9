import PenScript.Text.Blank

/-!
# Files

* `FileError` is why a file cannot be read;
* `FileView` is what a command line can see of the files: their texts and the lists of directories;
* `FileTree` is a directory of files held in memory, and `FileTree.view` the view from inside it.
-/

namespace PenScript.Console

/-- Why a file or directory cannot be read. -/
inductive FileError where
  | notFound
  | notADirectory
  | isADirectory
  | nameTooLong
  | notText
  | other (message : String)
deriving Repr, DecidableEq

/-- The words for the error. -/
def FileError.message : FileError → String
  | notFound => "No such file or directory (os error 2)"
  | notADirectory => "Not a directory (os error 20)"
  | isADirectory => "Is a directory (os error 21)"
  | nameTooLong => "File name too long (os error 36)"
  | notText => "stream did not contain valid UTF-8"
  | other message => message

/-- The text of a file, and the names of the files in a directory. -/
structure FileView where
  read : String → Except FileError String
  list : String → Except FileError (List String)

/-- The content of a file as text. -/
def textOf (bytes : ByteArray) : Except FileError String :=
  match String.fromUTF8? bytes with
  | some s => .ok s
  | none => .error .notText

/-- Files by the names on the way to them. Directories are there for the files in them. -/
structure FileTree where
  files : List (List String × ByteArray)

/-- A place among files. It lies in the tree or in the whole system, by the names on the way to it, or
it is some directory above the tree, of which nothing is known. -/
inductive Place where
  | inside (names : List String)
  | system (names : List String)
  | above
deriving Repr, DecidableEq

/-- What stands at a place. -/
inductive Entry where
  | file (content : ByteArray)
  | directory

/-- The names on a path. Doubled, leading and trailing slashes give empty ones. -/
def namesOf (path : String) : List String :=
  (Text.splitBy (· == '/') path.toList).map String.ofList

/-- The most bytes of a name on a path. -/
def nameLimit : Nat := 255

/-- The most bytes of a path. -/
def pathLimit : Nat := 4095

/-- Whether a name on a path stays where it is. -/
def staysAt (name : String) : Bool := name == "" || name == "."

namespace FileTree

/-- The tree of files given by their paths. -/
def ofFiles (files : List (String × ByteArray)) : FileTree :=
  ⟨files.map fun (path, content) => ((namesOf path).filter (!staysAt ·), content)⟩

/-- What every system has: its root, a place for temporary files and one for devices, in which the
null device reads as an empty file. -/
def systemEntry? : List String → Option Entry
  | [] | ["tmp"] | ["dev"] => some .directory
  | ["dev", "null"] => some (.file ByteArray.empty)
  | _ => none

/-- What stands at a place. -/
def entry? (t : FileTree) : Place → Option Entry
  | .inside names =>
    match t.files.find? (·.1 == names) with
    | some (_, content) => some (.file content)
    | none =>
      if names.isEmpty || t.files.any (names.isPrefixOf ·.1) then some .directory else none
  | .system names => systemEntry? names
  | .above => some .directory

/-- The place that a name leads to from a directory. -/
def next? : Place → String → Option Place
  | place, "" => some place
  | place, "." => some place
  | .inside [], ".." => some .above
  | .inside names, ".." => some (.inside names.dropLast)
  | .inside names, name => some (.inside (names ++ [name]))
  | .system names, ".." => some (.system names.dropLast)
  | .system names, name => some (.system (names ++ [name]))
  | .above, ".." => some .above
  | .above, _ => none

/-- Walks from a place along names. Only a directory can be walked through, and a name is looked at
only there. -/
def walk (t : FileTree) (place : Place) : List String → Except FileError (Place × Entry)
  | [] =>
    match t.entry? place with
    | some e => .ok (place, e)
    | none => .error .notFound
  | name :: rest =>
    match t.entry? place with
    | none => .error .notFound
    | some (.file _) => .error .notADirectory
    | some .directory =>
      if name.utf8ByteSize > nameLimit then .error .nameTooLong
      else
        match next? place name with
        | some place => t.walk place rest
        | none => .error .notFound

/-- What a path leads to, from the root of the system if it starts with a slash. -/
def find (t : FileTree) (path : String) : Except FileError (Place × Entry) :=
  if path.utf8ByteSize > pathLimit then .error .nameTooLong
  else
    match namesOf path with
    | [""] => .error .notFound
    | "" :: rest => t.walk (.system []) rest
    | names => t.walk (.inside []) names

/-- The text of a file. -/
def read (t : FileTree) (path : String) : Except FileError String := do
  match ← t.find path with
  | (_, .file content) => textOf content
  | (_, .directory) => throw .isADirectory

/-- The names of the files that stand right in a directory. -/
def filesIn (t : FileTree) (place : List String) : List String :=
  t.files.filterMap fun (names, _) =>
    if names.dropLast == place then names.getLast? else none

/-- The names of the files in a directory. -/
def list (t : FileTree) (path : String) : Except FileError (List String) := do
  match ← t.find path with
  | (_, .file _) => throw .notADirectory
  | (.inside place, .directory) => return t.filesIn place
  | (_, .directory) => return []

/-- The view of the tree. -/
def view (t : FileTree) : FileView := ⟨t.read, t.list⟩

end FileTree

end PenScript.Console
