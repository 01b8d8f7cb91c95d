import LiveConfig.Error
import LiveConfig.Text.Cut
import LiveConfig.Text.Raw
import LiveConfig.TextMap

/-!
Files and directories below a working directory.

Reading follows a path part by part: all but the last part have to be directories.  What lies outside
the working directory is empty.  Names and paths that are too long are found out when they are met.
-/
namespace LiveConfig

inductive FileNode where
  | directory
  | file (content : Text.Raw)
  deriving DecidableEq

structure FileTree where
  nodes : TextMap FileNode
  deriving DecidableEq

namespace FileTree

def empty : FileTree := ⟨.empty⟩

def partsOf (path : String) : List String :=
  (Text.splitOn ['/'] path.toList).map String.ofList

abbrev Place := List String

def nodeAt? (t : FileTree) (place : Place) : Option FileNode :=
  -- Above the working directory there are directories only.
  if place.all (· = "..") then some .directory
  else t.nodes.get? (Text.joinWith "/" place.reverse)

def parentOf : Place → Place
  | [] => [".."]
  | name :: rest => if name = ".." then ".." :: name :: rest else rest

def nameLimit : Nat := 255

def pathLimit : Nat := 4095

def placeBelow (t : FileTree) (place : Place) (part : String) : Except FileFault Place :=
  if part.isEmpty || part = "." then .ok place
  else if part = ".." then .ok (parentOf place)
  else if part.utf8ByteSize > nameLimit then .error .nameTooLong
  else if (t.nodeAt? (part :: place)).isSome then .ok (part :: place)
  else .error .notFound

def step (t : FileTree) (place : Place) (part : String) : Except FileFault Place :=
  match t.nodeAt? place with
  | none => .error .notFound
  | some (.file _) => .error .notDirectory
  | some .directory => t.placeBelow place part

def isUpward (part : String) : Bool := part.isEmpty || part = "." || part = ".."

def uppermost (path : String) : Except FileFault FileNode :=
  match (partsOf path).find? fun part => !isUpward part with
  | none => .ok .directory
  | some name => .error (if name.utf8ByteSize > nameLimit then .nameTooLong else .notFound)

def node (t : FileTree) (path : String) : Except FileFault FileNode := do
  if path.contains '\x00' then throw .nullInName
  if path.isEmpty then throw .notFound
  if path.utf8ByteSize > pathLimit then throw .nameTooLong
  if path.startsWith "/" then uppermost path
  else
    let place ← (partsOf path).foldlM t.step []
    match t.nodeAt? place with
    | some node => return node
    | none => throw .notFound

def read (t : FileTree) (path : String) : Except FileFault String :=
  match t.node path with
  | .error fault => .error fault
  | .ok .directory => .error .isDirectory
  | .ok (.file content) =>
    match content.text? with
    | some text => .ok text
    | none => .error .notText

def isFile (t : FileTree) (path : String) : Bool :=
  match t.node path with
  | .ok (.file _) => true
  | _ => false

def namesOf (path : String) : List String :=
  (partsOf path).filter fun part => !part.isEmpty && part ≠ "."

def makeDirectories (t : FileTree) : Place → List String → FileTree
  | _, [] => t
  | place, name :: rest =>
    let below := name :: place
    let t : FileTree := ⟨t.nodes.insertIfNew (Text.joinWith "/" below.reverse) .directory⟩
    t.makeDirectories below rest

def write (t : FileTree) (path : String) (node : FileNode) : FileTree :=
  let names := namesOf path
  ⟨(t.makeDirectories [] names.dropLast).nodes.insert (Text.joinWith "/" names) node⟩

def delete (t : FileTree) (path : String) : FileTree :=
  if t.isFile path then ⟨t.nodes.erase (Text.joinWith "/" (namesOf path))⟩ else t

def join (directory path : String) : String :=
  if path.startsWith "/" || directory.isEmpty then path
  else if directory.endsWith "/" then directory ++ path
  else directory ++ "/" ++ path

end FileTree
end LiveConfig
