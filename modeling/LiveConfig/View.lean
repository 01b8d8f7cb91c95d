import LiveConfig.Pipeline
import LiveConfig.Snapshot

/-!
Views: reading a configuration at one snapshot.

All reads through a view see the same properties, however often the configuration is reloaded in
between.
-/
namespace LiveConfig

structure Reading (π α : Type) where
  value : α
  log : List LogLine
  plugins : π

structure View (π : Type) where
  declaration : Declaration π
  imports : PropertyMap
  snapshot : Snapshot

namespace View

variable {π : Type}

def expander (v : View π) : Expander π :=
  ⟨[v.imports, v.snapshot.properties], v.declaration.substitutors⟩

def raw? (v : View π) (key : String) : Option String := v.snapshot.get? key

def expandValue (v : View π) (value : String) (plugins : π) : Reading π String :=
  if v.declaration.features.expandVariables then
    let expanded := v.expander.expand value plugins
    ⟨expanded.text, expanded.log, expanded.plugins⟩
  else ⟨value, [], plugins⟩

def expanded? (v : View π) (key : String) (plugins : π) : Reading π (Option String) :=
  match v.raw? key with
  | none => ⟨none, [], plugins⟩
  | some value =>
    let r := v.expandValue value plugins
    ⟨some r.value, r.log, r.plugins⟩

def expandEntries (v : View π) : List (String × String) → π → Reading π (List (String × String))
  | [], plugins => ⟨[], [], plugins⟩
  | (key, value) :: rest, plugins =>
    let r := v.expandValue value plugins
    let more := expandEntries v rest r.plugins
    ⟨(key, r.value) :: more.value, r.log ++ more.log, more.plugins⟩

def toMap (v : View π) (plugins : π) : Reading π PropertyMap :=
  let r := v.expandEntries v.snapshot.properties.entries plugins
  ⟨TextMap.ofList r.value, r.log, r.plugins⟩

def contextOf (v : View π) (a : Accessor π) (key : String) : ConversionContext π :=
  let editors :=
    if v.declaration.features.propertyEditors then some v.declaration.editors else none
  ⟨key, a.separatorText, a.tokenizer, a.converter, editors⟩

def read (v : View π) (rules : Rules) (target : Target) (a : Accessor π) (arguments : PropertyMap)
    (plugins : π) : Reading π (Except Failure Value) :=
  -- Arguments count before all else in the expansion of the key, and nowhere else.
  let key := (v.declaration.keyOf a).resolve (v.expander.withArguments arguments) plugins
  let cx := v.contextOf a key.text
  match (v.raw? key.text).or a.fallback with
  | none =>
    let (result, plugins) := (target.ofAbsent cx).run key.plugins
    ⟨result, key.log, plugins⟩
  | some raw =>
    let text : Expanded π :=
      if a.expandsUnder v.declaration.features then v.expander.expand raw key.plugins
      else ⟨raw, [], key.plugins⟩
    let (result, plugins) := (target.convert rules cx text.text).run text.plugins
    ⟨result, key.log ++ text.log, plugins⟩

def get (v : View π) (rules : Rules) (target : Target) (name : String) (arguments : PropertyMap)
    (plugins : π) : Reading π (Except Failure Value) :=
  match v.declaration.accessor? name with
  | none => ⟨.error (.error (.unknownProperty name)), [], plugins⟩
  | some a => v.read rules target a arguments plugins

def resolve (v : View π) (rules : Rules) (target : Target) (key : String)
    (fallback : Option String) (plugins : π) : Reading π (Except Failure Value) :=
  v.read rules target { Accessor.ofName key with prefixes := some false, fallback } .empty plugins

def listing (v : View π) : String :=
  Text.listingOfStruct "ConfigView" [
    ("declaration", Text.quoted v.declaration.name),
    ("version", toString v.snapshot.version)]

end View
end LiveConfig
