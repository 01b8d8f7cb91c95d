import LiveConfig.Number.Shortest
import LiveConfig.TextMap

/-!
Documents: the values that structured files hold, and their properties.

A document is flattened into one property per leaf.  The key of a leaf is the path to it: keys of
tables and indices of lists, joined by points.  A list of plain values is one leaf, its values joined
by commas.
-/
namespace LiveConfig

/-- A value of a structured file.  A double is given by its pattern; the entries of a table ascend by
key. -/
inductive Document where
  | null
  | bool (b : Bool)
  | integer (n : Int)
  | double (bits : Nat)
  | text (s : String)
  | list (items : List Document)
  | table (entries : List (String × Document))
  deriving Inhabited

namespace Document

def isScalar : Document → Bool
  | .list _ | .table _ => false
  | _ => true

def scalarText? : Document → Option String
  | .text s => some s
  | .bool b => some (if b then "true" else "false")
  | .integer n => some (toString n)
  | .double bits => some (Number.documentText bits)
  | _ => none

def pathBelow (path step : String) : String :=
  if path.isEmpty then step else path ++ "." ++ step

mutual
def leavesAt (path : String) : Document → List (String × String)
  | .list items =>
    if items.all isScalar then
      [(path, String.intercalate "," (items.filterMap scalarText?))]
    else leavesOfItems path 0 items
  | .table entries => leavesOfEntries path entries
  | .null => []
  | .bool b => [(path, if b then "true" else "false")]
  | .integer n => [(path, toString n)]
  | .double bits => [(path, Number.documentText bits)]
  | .text s => [(path, s)]

def leavesOfItems (path : String) (index : Nat) : List Document → List (String × String)
  | [] => []
  | item :: rest =>
    leavesAt (pathBelow path (toString index)) item ++ leavesOfItems path (index + 1) rest

def leavesOfEntries (path : String) : List (String × Document) → List (String × String)
  | [] => []
  | (key, value) :: rest => leavesAt (pathBelow path key) value ++ leavesOfEntries path rest
end

def flatten (d : Document) : PropertyMap := TextMap.ofList (leavesAt "" d)

def field? (key : String) : Document → Option Document
  | .table entries => entryOf? key entries
  | _ => none

end Document
end LiveConfig
