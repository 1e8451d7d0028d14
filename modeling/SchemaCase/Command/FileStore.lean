import SchemaCase.Command.Path
import SchemaCase.Text.Utf8

namespace SchemaCase

inductive ReadError
  | missing (path : Path)
  | isDirectory (path : Path)
  | notDirectory (path : Path)
  | nameTooLong (path : Path)
  | undecodable (error : Utf8.DecodeError)
  /-- Any other failure, in the words of the system. -/
  | system (message : String)
  deriving DecidableEq, Repr

namespace ReadError

private def describe (what : String) (path : Path) : String :=
  let path := String.ofList (Text.quoted path.render)
  s!"{what}: {path}"

def message : ReadError → String
  | missing path => describe "[Errno 2] No such file or directory" path
  | isDirectory path => describe "[Errno 21] Is a directory" path
  | notDirectory path => describe "[Errno 20] Not a directory" path
  | nameTooLong path => describe "[Errno 36] File name too long" path
  | undecodable error => error.message
  | system message => message

end ReadError

inductive FileEntry
  | file (bytes : Bytes)
  | directory
  deriving DecidableEq, Repr

/-- The names on the way from the root. -/
abbrev Location := List Text

/-- What stands where. A directory that something stands in need not be listed. -/
abbrev FileStore := List (Location × FileEntry)

namespace FileStore

def entry? (store : FileStore) (location : Location) : Option FileEntry :=
  match store.lookup location with
  | some entry => some entry
  | none =>
      if location = [] || store.any fun entry => location.isPrefixOf entry.1 then some .directory
      else none

def maxNameLength : Nat :=
  255

def maxPathLength : Nat :=
  4095

/-- Follows the parts of a path from a directory. The parent of the root is the root. -/
def walk (store : FileStore) (path : Path) : Location → List Text → Except ReadError Location
  | location, [] => .ok location
  | location, part :: parts =>
      if part = ['.', '.'] then walk store path location.dropLast parts
      else if maxNameLength < (Utf8.encode part).length then .error (.nameTooLong path)
      else
        let location := location ++ [part]
        match store.entry? location, parts with
        | none, _ => .error (.missing path)
        | some (.file _), _ :: _ => .error (.notDirectory path)
        | some _, parts => walk store path location parts

/-- Where a path leads to from a working directory. With a slash in front it starts at the root. -/
def locate (store : FileStore) (directory : Location) (path : Path) :
    Except ReadError Location :=
  if maxPathLength < (Utf8.encode path.render).length then .error (.nameTooLong path)
  else walk store path (if path.slashes.isEmpty then directory else []) path.parts

def read (store : FileStore) (directory : Location) (path : Path) : Except ReadError Bytes := do
  let location ← store.locate directory path
  match store.entry? location with
  | some (.file bytes) => .ok bytes
  | some .directory => .error (.isDirectory path)
  | none => .error (.missing path)

def write (store : FileStore) (directory : Location) (path : Path) (bytes : Bytes) : FileStore :=
  match store.locate directory path with
  | .ok location =>
      store.map fun entry => if entry.1 = location then (location, .file bytes) else entry
  | .error _ => store

def filesBelow (store : FileStore) (directory : Location) : List (Text × Bytes) :=
  store.filterMap fun (location, entry) =>
    match entry with
    | .file bytes =>
        if directory.isPrefixOf location then
          some (Text.join ['/'] (location.drop directory.length), bytes)
        else none
    | .directory => none

end FileStore

end SchemaCase
