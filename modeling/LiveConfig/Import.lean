import LiveConfig.Document.Json
import LiveConfig.Error

/-!
Imports: property maps that are given directly and win over all sources.
-/
namespace LiveConfig.Import

def textOf (key : String) : Document → Except DefinitionFault String
  | .text s => .ok s
  | .null => .error (.importedNull key)
  | other => .error (.importedNoText key (Document.Json.write other))

def ofDocument (d : Document) : Except DefinitionFault PropertyMap := do
  match d with
  | .table entries =>
    let found ← entries.mapM fun (key, value) => do return (key, ← textOf key value)
    return TextMap.ofList found
  | _ => throw .importedNoTable

def combined (imports : List PropertyMap) : PropertyMap :=
  imports.foldl TextMap.completedBy .empty

end LiveConfig.Import
