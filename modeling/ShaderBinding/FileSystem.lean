import ShaderBinding.IoFault
import ShaderBinding.Text.Utf8

/-! Files and directories as a value. A path is walked name by name from the root or the working
directory; every name but the last has to lead to a directory. -/

namespace ShaderBinding

/-- The names that lead from the root to a place, the last one first. -/
abbrev Location := List String

inductive Node where
  | file (content : List UInt8)
  | directory
  deriving DecidableEq, Repr

@[ext] structure FileSystem where
  workingDirectory : Location
  /-- What stands at a location below the root; the root itself is always a directory. -/
  node? : Location → Option Node

namespace FileSystem

def scratch : FileSystem where
  workingDirectory := ["scratch"]
  node? location := if location = ["scratch"] then some .directory else none

def greatestName : Nat := 255

def greatestPath : Nat := 4095

def set (files : FileSystem) (location : Location) (node : Option Node) : FileSystem :=
  { files with node? := fun l => if l = location then node else files.node? l }

@[simp] theorem node?_set_self (files : FileSystem) (location : Location) (node : Option Node) :
    (files.set location node).node? location = node := if_pos rfl

theorem node?_set_of_ne (files : FileSystem) {location other : Location} (node : Option Node)
    (h : other ≠ location) : (files.set location node).node? other = files.node? other :=
  if_neg h

@[simp] theorem workingDirectory_set (files : FileSystem) (location : Location)
    (node : Option Node) :
    (files.set location node).workingDirectory = files.workingDirectory := rfl

theorem set_set (files : FileSystem) (location : Location) (first second : Option Node) :
    (files.set location first).set location second = files.set location second := by
  simp only [set, mk.injEq, true_and]
  funext l
  by_cases h : l = location <;> simp [h]

def isDirectory (files : FileSystem) (location : Location) : Bool :=
  location.isEmpty || files.node? location == some .directory

/-- One name of a walk. The location it starts from exists, but may be a file. -/
def step (files : FileSystem) (location : Location) (name : String) :
    Except SystemError Location :=
  if !files.isDirectory location then .error .notDirectory
  else if name = "." then .ok location
  else if name = ".." then .ok location.tail
  else if greatestName < name.utf8ByteSize then .error .nameTooLong
  else if (files.node? (name :: location)).isNone then .error .noEntry
  else .ok (name :: location)

def walk (files : FileSystem) (start : Location) (names : List String) :
    Except SystemError Location :=
  names.foldlM files.step start

/-- A path taken apart. A path that ends in a slash can only mean a directory. -/
structure Path where
  absolute : Bool
  names : List String
  slashed : Bool

def Path.ofText (path : String) : Path where
  absolute := path.toList.head? == some '/'
  names := ((path.toList.splitOn '/').filter (!·.isEmpty)).map String.ofList
  slashed := path.toList.getLast? == some '/'

def start (files : FileSystem) (path : Path) : Location :=
  if path.absolute then [] else files.workingDirectory

def path (text : String) : Except IoFault Path :=
  if text.toList.contains '\x00' then .error .nulInPath
  else if text.isEmpty then .error (.system .noEntry)
  else if greatestPath < text.utf8ByteSize then .error (.system .nameTooLong)
  else .ok (.ofText text)

def readable (files : FileSystem) (path : Path) : Except SystemError (List UInt8) := do
  let location ← files.walk (files.start path) path.names
  if files.isDirectory location then .error .isDirectory
  else if path.slashed then .error .notDirectory
  else
    match files.node? location with
    | some (.file content) => .ok content
    | _ => .error .noEntry

def read (files : FileSystem) (path : String) : Except IoFault (List UInt8) := do
  (files.readable (← FileSystem.path path)).mapError .system

/-- The location that a path names for writing: a file, or a free place in a directory. -/
def writable (files : FileSystem) (path : Path) : Except SystemError Location :=
  match path.names.getLast? with
  | none => .error .isDirectory
  | some name => do
    let parent ← files.walk (files.start path) path.names.dropLast
    if !files.isDirectory parent then .error .notDirectory
    else if name = "." || name = ".." || path.slashed then .error .isDirectory
    else if greatestName < name.utf8ByteSize then .error .nameTooLong
    else if files.isDirectory (name :: parent) then .error .isDirectory
    else .ok (name :: parent)

/-- The file system with a file in the place that a path names, whether there was one or not. -/
def write (files : FileSystem) (path : String) (content : List UInt8) :
    Except IoFault FileSystem := do
  let location ← (files.writable (← FileSystem.path path)).mapError .system
  .ok (files.set location (some (.file content)))

def locate (files : FileSystem) (path : String) : Location :=
  (Path.ofText path).names.foldl
    (fun location name =>
      if name = "." then location else if name = ".." then location.tail else name :: location)
    (files.start (.ofText path))

def makeDirectory (files : FileSystem) : Location → FileSystem
  | [] => files
  | name :: parent => (files.makeDirectory parent).set (name :: parent) (some .directory)

def install (files : FileSystem) (path : String) (content : List UInt8) : FileSystem :=
  let location := files.locate path
  (files.makeDirectory location.tail).set location (some (.file content))

def remove (files : FileSystem) (path : String) : FileSystem :=
  files.set (files.locate path) none

end FileSystem

end ShaderBinding
