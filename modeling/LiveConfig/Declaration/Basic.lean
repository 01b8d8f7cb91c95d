import LiveConfig.Conversion.Basic
import LiveConfig.Declaration.Settings
import LiveConfig.Expansion

/-!
Declarations: what a configuration is called, where it looks for properties and which accessors it has.

A draft collects the parts of a declaration.  `Draft.build` checks it, and the first fault in the order
of the checks is the error: the name, the interval, the accessors one by one, the substitutors.
-/
namespace LiveConfig

structure Accessor (σ : Type) where
  name : String
  key : String
  fallback : Option String
  separator : Option String
  tokenizer : Option (Plugin σ (Tokenizer σ))
  converter : Option (Plugin σ (Converter σ))
  expands : Option Bool
  prefixes : Option Bool

variable {σ : Type}

namespace Accessor

def ofName (name : String) : Accessor σ := ⟨name, name, none, none, none, none, none, none⟩

def separatorText (a : Accessor σ) : String := a.separator.getD defaultSeparator

def expandsUnder (a : Accessor σ) (f : Features) : Bool := a.expands.getD f.expandVariables

def prefixesUnder (a : Accessor σ) (f : Features) : Bool := a.prefixes.getD f.applyPrefix

def listing (a : Accessor σ) : String :=
  Text.listingOfStruct "PropertyDef" [
    ("name", Text.quoted a.name),
    ("key", Text.quoted a.key),
    ("default", Text.listingOfOption Text.quoted a.fallback),
    ("separator", Text.listingOfOption Text.quoted a.separator),
    ("has_tokenizer", Text.listingOfBool a.tokenizer.isSome),
    ("has_converter", Text.listingOfBool a.converter.isSome),
    ("expand_variables", Text.listingOfOption Text.listingOfBool a.expands),
    ("apply_prefix", Text.listingOfOption Text.listingOfBool a.prefixes)]

end Accessor

structure Declaration (σ : Type) where
  name : String
  sources : SourceSpec
  keyPrefix : Option String
  hotReload : Option HotReload
  features : Features
  accessors : List (Accessor σ)
  substitutors : SubstitutorRegistry σ
  editors : EditorRegistry σ

namespace Declaration

def accessor? (d : Declaration σ) (name : String) : Option (Accessor σ) :=
  d.accessors.find? fun a => a.name = name

def keyOf (d : Declaration σ) (a : Accessor σ) : KeyTemplate :=
  ⟨a.key, d.keyPrefix, a.expandsUnder d.features, a.prefixesUnder d.features⟩

def listing (d : Declaration σ) : String :=
  Text.listingOfStruct "Declaration" [
    ("name", Text.quoted d.name),
    ("sources", d.sources.listing),
    ("prefix", Text.listingOfOption Text.quoted d.keyPrefix),
    ("hot_reload", Text.listingOfOption HotReload.listing d.hotReload),
    ("features", d.features.listing),
    ("properties", toString d.accessors.length),
    ("substitutors", toString d.substitutors.entries.length)]

end Declaration

structure Draft (σ : Type) where
  name : String
  sources : SourceSpec
  keyPrefix : Option String
  hotReload : Option HotReload
  features : Features
  accessors : List (Accessor σ)
  substitutors : List (Substitutor σ)
  editors : EditorRegistry σ

namespace Draft

def ofName (name : String) : Draft σ :=
  ⟨name, .empty, none, none, .standard, [], [], .empty⟩

def withSpec (d : Draft σ) (spec : SourceSpec) : Draft σ := { d with sources := spec }

def addSources (d : Draft σ) (templates : List String) : Draft σ :=
  { d with sources := { d.sources with locators := d.sources.locators ++ templates } }

def withPolicy (d : Draft σ) (policy : LoadPolicy) : Draft σ :=
  { d with sources := { d.sources with policy } }

def withPrefix (d : Draft σ) (keyPrefix : String) : Draft σ := { d with keyPrefix := some keyPrefix }

def withHotReload (d : Draft σ) (settings : Option HotReload) : Draft σ :=
  { d with hotReload := settings }

def reloading (d : Draft σ) (mode : ReloadMode) (interval : Time.Duration) : Draft σ :=
  d.withHotReload (some (.ofDuration mode interval))

def expandVariables (d : Draft σ) (enabled : Bool) : Draft σ :=
  { d with features := { d.features with expandVariables := enabled } }

def applyPrefix (d : Draft σ) (enabled : Bool) : Draft σ :=
  { d with features := { d.features with applyPrefix := enabled } }

def propertyEditors (d : Draft σ) (enabled : Bool) : Draft σ :=
  { d with features := { d.features with propertyEditors := enabled } }

def addAccessor (d : Draft σ) (a : Accessor σ) : Draft σ := { d with accessors := d.accessors ++ [a] }

def addSubstitutor (d : Draft σ) (s : Substitutor σ) : Draft σ :=
  { d with substitutors := d.substitutors ++ [s] }

def addEditor (d : Draft σ) (t : Target) (edit : String → σ → Except Refusal Value × σ) : Draft σ :=
  { d with editors := d.editors.register t edit }

def accessorFault? (earlier : List String) (a : Accessor σ) : Option DefinitionFault :=
  if Text.isBlankText a.name then some .emptyAccessorName
  else if Text.isBlankText a.key then some (.emptyKey a.name)
  else if a.separator = some "" then some (.emptySeparator a.name)
  else if earlier.contains a.name then some (.declaredTwice a.name)
  else none

def accessorsFault? (earlier : List String) : List (Accessor σ) → Option DefinitionFault
  | [] => none
  | a :: rest =>
    match accessorFault? earlier a with
    | some fault => some fault
    | none => accessorsFault? (a.name :: earlier) rest

def fault? (d : Draft σ) : Option DefinitionFault :=
  if Text.isBlankText d.name then some .emptyDeclarationName
  else if d.hotReload.any fun h => h.intervalMillis = 0 then some .zeroInterval
  else accessorsFault? [] d.accessors

def build (d : Draft σ) : Except ConfigError (Declaration σ) :=
  match d.fault? with
  | some fault => .error (.definition fault)
  | none =>
    match SubstitutorRegistry.ofList d.substitutors with
    | .error fault =>
      .error ((ConfigError.definition fault).within ("declaration '" ++ d.name ++ "'"))
    | .ok substitutors =>
      .ok ⟨d.name, d.sources, d.keyPrefix, d.hotReload, d.features, d.accessors, substitutors,
        d.editors⟩

def listing (d : Draft σ) : String :=
  Text.listingOfStruct "DeclarationBuilder" [
    ("name", Text.quoted d.name),
    ("sources", toString d.sources.locators.length),
    ("policy", d.sources.policy.listing),
    ("has_prefix", Text.listingOfBool d.keyPrefix.isSome),
    ("hot_reload", Text.listingOfOption HotReload.listing d.hotReload),
    ("properties", toString d.accessors.length),
    ("substitutors", toString d.substitutors.length)]

end Draft
end LiveConfig
