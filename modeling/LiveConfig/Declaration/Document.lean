import LiveConfig.Declaration.Settings
import LiveConfig.Document.Json

/-!
Settings as documents.

Settings with fields are tables, or lists of the values in the order of the fields.  A field that has
a standard value may be left out; fields that are not known are passed over unread, and a known one may
not be written twice.  A choice is written by its name.
-/
namespace LiveConfig

namespace Document

def choice? : Document → Option String
  | .text name => some name
  | .table [(name, .null)] => some name
  | _ => none

def fields? (names : List String) : Document → Option (List (Option Document))
  | .table entries => some (names.map fun name => entryOf? name entries)
  | .list items =>
    if items.length ≤ names.length then
      some (items.map some ++ List.replicate (names.length - items.length) none)
    else none
  | _ => none

def optionalField? {α : Type} (standard : α) (read : Document → Option α) :
    Option Document → Option α
  | none => some standard
  | some d => read d

def word? : Document → Option Nat
  | .integer n => if 0 ≤ n && n < Nat.pow 2 64 then some n.toNat else none
  | _ => none

def texts? : Document → Option (List String)
  | .list items => items.mapM fun
    | .text s => some s
    | _ => none
  | _ => none

def flag? : Document → Option Bool
  | .bool b => some b
  | _ => none

end Document

namespace LoadPolicy

def ofDocument? (d : Document) : Option LoadPolicy := do
  match ← d.choice? with
  | "FIRST" => some .first
  | "MERGE" => some .merge
  | _ => none

def document (p : LoadPolicy) : Document := .text p.name

end LoadPolicy

namespace ReloadMode

def ofDocument? (d : Document) : Option ReloadMode := do
  match ← d.choice? with
  | "SYNC" => some .sync
  | "ASYNC" => some .async
  | _ => none

def document (m : ReloadMode) : Document := .text m.name

end ReloadMode

namespace HotReload

def fieldNames : List String := ["mode", "interval_ms"]

def ofDocument? (d : Document) : Option HotReload := do
  match ← d.fields? fieldNames with
  | [mode, interval] =>
    let mode ← Document.optionalField? standard.mode ReloadMode.ofDocument? mode
    let interval ← Document.optionalField? standard.intervalMillis Document.word? interval
    some ⟨mode, interval⟩
  | _ => none

def document (h : HotReload) : Document :=
  .table [("interval_ms", .integer h.intervalMillis), ("mode", h.mode.document)]

end HotReload

namespace SourceSpec

def fieldNames : List String := ["locators", "policy"]

def ofDocument? (d : Document) : Option SourceSpec := do
  match ← d.fields? fieldNames with
  | [locators, policy] =>
    let locators ← Document.optionalField? [] Document.texts? locators
    let policy ← Document.optionalField? .first LoadPolicy.ofDocument? policy
    some ⟨locators, policy⟩
  | _ => none

def document (s : SourceSpec) : Document :=
  .table [("locators", .list (s.locators.map .text)), ("policy", s.policy.document)]

end SourceSpec

namespace Features

def fieldNames : List String := ["expand_variables", "apply_prefix", "property_editors"]

def ofDocument? (d : Document) : Option Features := do
  match ← d.fields? fieldNames with
  | [some expand, some apply, some editors] =>
    some ⟨← expand.flag?, ← apply.flag?, ← editors.flag?⟩
  | _ => none

def document (f : Features) : Document :=
  .table [("apply_prefix", .bool f.applyPrefix), ("expand_variables", .bool f.expandVariables),
    ("property_editors", .bool f.propertyEditors)]

end Features

def Document.knownFields? (names : List String) :
    List (List Nat × Json.Written) → Option (List (String × Document))
  | [] => some []
  | (key, value) :: rest => do
    let key ← Json.textOf? key
    let fields ← Document.knownFields? names rest
    if names.contains key then
      if (fields.map (·.1)).contains key then none else some ((key, ← value.plain?) :: fields)
    else some fields

def Document.readChoice? {α : Type} (ofDocument? : Document → Option α) (text : String) : Option α := do
  let (w, _) ← Document.Json.written? text.toList
  ofDocument? (← w.plain?)

def Document.readSettings? {α : Type} (names : List String) (ofDocument? : Document → Option α)
    (text : String) : Option α := do
  let (w, _) ← Document.Json.written? text.toList
  match w with
  | .table entries =>
    ofDocument? (.table (Json.entriesOf (← Document.knownFields? names entries)))
  | _ => ofDocument? (← w.plain?)

end LiveConfig
