import Highlighter.Files.Path
import Highlighter.Text.Utf8

/-! A file store: a map from places to files and directories. Paths are followed name by name, so a
path leads somewhere only through directories that are there. -/
namespace Highlighter

/-- The names that lead from the working directory to a file or directory. A place outside of it
begins with a slash or with two dots. -/
abbrev Place := List String

/-- Why a path cannot be used. -/
inductive FileFault where
  | missing
  | notDirectory
  | isDirectory
  | invalidName
  | nameTooLong
  | invalidText
deriving DecidableEq, Repr

def FileFault.message : FileFault → String
  | missing => "no such file or directory"
  | notDirectory => "not a directory"
  | isDirectory => "is a directory"
  | invalidName => "the name holds a character that names cannot hold"
  | nameTooLong => "the name is too long"
  | invalidText => "the file is not valid UTF-8"

inductive FileNode where
  | file (contents : List UInt8)
  | directory
deriving DecidableEq

structure FileStore where
  nodes : List (Place × FileNode)

namespace FileStore

instance : EmptyCollection FileStore := ⟨⟨[]⟩⟩

/-- The directories that are always there: the working directory, those above it, and the root. -/
def isGiven (place : Place) : Bool := place = ["/"] || place.all (· = "..")

def nodeAt? (s : FileStore) (place : Place) : Option FileNode :=
  if isGiven place then some .directory else s.nodes.lookup place

def put (s : FileStore) (place : Place) (node : FileNode) : FileStore :=
  if (s.nodes.lookup place).isSome then
    ⟨s.nodes.map fun (p, n) => if p = place then (p, node) else (p, n)⟩
  else ⟨s.nodes ++ [(place, node)]⟩

def remove (s : FileStore) (place : Place) : FileStore := ⟨s.nodes.filter (·.1 != place)⟩

def above (place : Place) : Place :=
  if place = ["/"] then place
  else match place.getLast? with
    | none | some ".." => place ++ [".."]
    | some _ => place.dropLast

def maxNameLength : Nat := 255

/-- The place that `names` lead to from `place`; there need be nothing at it yet. -/
def walk (s : FileStore) (place : Place) : List String → Except FileFault Place
  | [] => .ok place
  | name :: rest =>
    match s.nodeAt? place with
    | none => .error .missing
    | some (.file _) => .error .notDirectory
    | some .directory =>
      if name.utf8ByteSize > maxNameLength then .error .nameTooLong
      else s.walk (if name = ".." then above place else place ++ [name]) rest

def origin (path : String) : Place := if Path.isAbsolute path then ["/"] else []

def maxPathLength : Nat := 4095

/-- What is wrong with a path as a text, whatever the store holds. -/
def textFault? (path : String) : Option FileFault :=
  if path.toList.contains '\x00' then some .invalidName
  else if path.utf8ByteSize > maxPathLength then some .nameTooLong
  else none

def locate (s : FileStore) (path : String) : Except FileFault Place :=
  if path = "" then .error .missing
  else match textFault? path with
    | some fault => .error fault
    | none => s.walk (origin path) (Path.names path)

def find (s : FileStore) (path : String) : Except FileFault FileNode := do
  match s.nodeAt? (← s.locate path) with
  | none => throw .missing
  | some (.file contents) =>
    if Path.wantsDirectory path then throw .notDirectory else return .file contents
  | some .directory => return .directory

def isFile (s : FileStore) (path : String) : Bool :=
  match s.find path with
  | .ok (.file _) => true
  | _ => false

def isDirectory (s : FileStore) (path : String) : Bool :=
  match s.find path with
  | .ok .directory => true
  | _ => false

def has (s : FileStore) (path : String) : Bool := (s.find path).isOk

def read (s : FileStore) (path : String) : Except FileFault (List UInt8) := do
  match ← s.find path with
  | .file contents => return contents
  | .directory => throw .isDirectory

def readText (s : FileStore) (path : String) : Except FileFault String := do
  match Text.Utf8.decode? (← s.read path) with
  | some text => return String.ofList text
  | none => throw .invalidText

/-- The store with a file of these contents; the directory of the file must be there. -/
def write (s : FileStore) (path : String) (contents : List UInt8) : Except FileFault FileStore := do
  let place ← s.locate path
  match s.nodeAt? place with
  | some .directory => throw .isDirectory
  | some (.file _) =>
    if Path.wantsDirectory path then throw .notDirectory
    else return s.put place (.file contents)
  | none =>
    if Path.wantsDirectory path then throw .isDirectory
    else match s.nodeAt? (above place) with
      | some .directory => return s.put place (.file contents)
      | some (.file _) => throw .notDirectory
      | none => throw .missing

def writeText (s : FileStore) (path text : String) : Except FileFault FileStore :=
  s.write path (Text.Utf8.encode text.toList)

/-- The store without the file that a path leads to, if it leads to one. -/
def removeFile? (s : FileStore) (path : String) : Option FileStore :=
  if s.isFile path then (s.locate path).toOption.map s.remove else none

/-- The store after making the directories on the way along `names`, each unless it is there. A
store that only some of them could be made in is returned with the fault. -/
def makeDirectories (s : FileStore) (place : Place) : List String → FileStore × Option FileFault
  | [] => (s, none)
  | name :: rest =>
    match s.walk place [name] with
    | .error fault => (s, some fault)
    | .ok next =>
      match s.nodeAt? next with
      | some (.file _) => (s, some .notDirectory)
      | some .directory => s.makeDirectories next rest
      | none => (s.put next .directory).makeDirectories next rest

/-- The store with all directories of a path. The empty path has none. What a path ends inside of
is not made, only what is above it. -/
def createDirectories (s : FileStore) (path : String) : FileStore × Option FileFault :=
  match textFault? path with
  | some fault => (s, some fault)
  | none =>
    if Path.endsInside path then
      match s.makeDirectories (origin path) (Path.names path).dropLast with
      | (made, some fault) => (made, some fault)
      | (made, none) =>
        match made.find path with
        | .ok _ => (made, none)
        | .error fault => (made, some fault)
    else s.makeDirectories (origin path) (Path.names path)

/-- The store with the directories that a file at this path needs. -/
def createParents (s : FileStore) (path : String) : FileStore × Option FileFault :=
  s.createDirectories (Path.parent path)

end FileStore
end Highlighter
