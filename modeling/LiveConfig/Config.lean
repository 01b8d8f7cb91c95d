import LiveConfig.Import
import LiveConfig.Loader.Standard
import LiveConfig.Reload.Timer
import LiveConfig.View

/-!
Configurations: a declaration brought to life.

A plan says what a configuration is made of; `Plan.build` runs the first pass and publishes its result
as version one.  From then on the configuration can be read, reloaded and listened to.
-/
namespace LiveConfig

/-- What a configuration is to be made of.  Own loaders come before the standard ones; the first fault
of an import is kept until the configuration is built. -/
structure Plan (π : Type) where
  declaration : Declaration π
  loaders : List (Loader π)
  standardLoaders : Bool
  imports : List PropertyMap
  importFault : Option DefinitionFault
  roots : List String
  environment : Option Environment

structure Config (L π : Type) where
  setup : ReloadSetup L π
  state : ReloadState L π
  cancelled : Bool
  dropped : Bool
  timer : Option Timer

namespace Plan

variable {L π : Type}

def ofDeclaration (d : Declaration π) : Plan π := ⟨d, [], true, [], none, [], none⟩

def addLoader (p : Plan π) (loader : Loader π) : Plan π := { p with loaders := p.loaders ++ [loader] }

def withoutStandardLoaders (p : Plan π) : Plan π := { p with standardLoaders := false }

def addImport (p : Plan π) (m : PropertyMap) : Plan π := { p with imports := p.imports ++ [m] }

def importDocument (p : Plan π) (d : Document) : Plan π :=
  match Import.ofDocument d with
  | .ok m => p.addImport m
  | .error fault => { p with importFault := p.importFault.or (some fault) }

def addRoot (p : Plan π) (root : String) : Plan π := { p with roots := p.roots ++ [root] }

def withEnvironment (p : Plan π) (e : Environment) : Plan π := { p with environment := some e }

def chain (p : Plan π) : LoaderChain π :=
  p.loaders.reverse.foldl LoaderChain.prepend (if p.standardLoaders then .standard else .empty)

def pipeline (p : Plan π) : Pipeline π :=
  ⟨p.declaration, p.chain, Import.combined p.imports, p.roots, p.environment⟩

def loadedLine (p : Plan π) (c : Candidate) : LogLine :=
  ⟨.info, "configuration loaded", [
    ("action", .text "loaded"),
    ("declaration", .text p.declaration.name),
    ("properties", .number c.properties.size),
    ("reload", .text (Text.listingOfOption (fun h => h.mode.listing) p.declaration.hotReload))]⟩

def timer? (d : Declaration π) (now : Nat) : Option Timer :=
  match d.hotReload with
  | some ⟨.async, interval⟩ => some (.startingAt now interval)
  | _ => none

def build (p : Plan π) (hooks : Listeners L π) (w : World π) :
    Except ConfigError (Config L π) × World π :=
  match p.importFault with
  | some fault => (.error (.definition fault), w)
  | none =>
    match p.pipeline.run w with
    | (.error e, w) => (.error e, w)
    | (.ok c, w) =>
      let w := w.note (p.loadedLine c)
      (.ok ⟨⟨p.pipeline, hooks⟩, .initial c w, false, false, timer? p.declaration w.now⟩, w)

def listing (p : Plan π) : String :=
  Text.listingOfStruct "ConfigBuilder" [
    ("declaration", Text.quoted p.declaration.name),
    ("loaders", toString p.loaders.length),
    ("default_loaders", Text.listingOfBool p.standardLoaders),
    ("imports", toString p.imports.length),
    ("resource_roots", Text.listingOfList (p.roots.map Text.quoted))]

end Plan

namespace Config

variable {L π : Type}

def declaration (c : Config L π) : Declaration π := c.setup.pipeline.declaration

def snapshot (c : Config L π) : Snapshot := c.state.current

def world (c : Config L π) : World π := c.state.scene.world

def setWorld (c : Config L π) (w : World π) : Config L π := { c with state := c.state.setWorld w }

def note (c : Config L π) (line : LogLine) : Config L π := { c with state := c.state.note line }

def view (c : Config L π) : View π := ⟨c.declaration, c.setup.pipeline.imports, c.snapshot⟩

def reloadMode? (c : Config L π) : Option ReloadMode := c.declaration.hotReload.map (·.mode)

def isReloading (c : Config L π) : Bool := c.reloadMode? = some .async && !c.cancelled

def registeredLine (id : Nat) : LogLine :=
  ⟨.debug, "listener registered", [("listener", .number id)]⟩

def addListener (c : Config L π) (listener : L) : Nat × Config L π :=
  let (id, registry) := c.state.scene.registry.add listener
  let scene : Scene L π := { c.state.scene with registry }
  (id, { c with state := { c.state with scene := scene.note (registeredLine id) } })

def removeListener (c : Config L π) (id : Nat) : Bool × Config L π :=
  let (found, registry) := c.state.scene.registry.remove id
  (found, { c with state := { c.state with scene := { c.state.scene with registry } } })

def stoppingLine (name : String) : LogLine :=
  ⟨.debug, "stopping reload timer", [("declaration", .text name)]⟩

def stopReloading (c : Config L π) : Config L π :=
  if c.cancelled then c else { c.note (stoppingLine c.declaration.name) with cancelled := true }

def drop (c : Config L π) : Config L π := { c with cancelled := true, dropped := true }

def stepTimer? (order : List Timer.Signal) (c : Config L π) : Option (Config L π) :=
  match c.timer, c.declaration.hotReload with
  | some t, some h =>
    (t.step? h.intervalMillis c.cancelled c.dropped order c.state).map fun (t, state) =>
      { c with state, timer := some t }
  | _, _ => none

def stepRequest? (id : Nat) (c : Config L π) : Option (Config L π) :=
  (c.state.step? c.setup id).map fun state => { c with state }

def failedAccessLine (e : ConfigError) : LogLine :=
  ⟨.warn, "reload on access failed, keeping current snapshot", [("error", .text e.message)]⟩

def listing (c : Config L π) : String :=
  let scheduler := Text.listingOfStruct "ReloadScheduler" [
    ("declaration", Text.quoted c.declaration.name),
    ("version", toString c.snapshot.version),
    ("settings", Text.listingOfOption HotReload.listing c.declaration.hotReload),
    ("listeners", toString c.state.scene.registry.size)]
  Text.listingOfStruct "Config" [
    ("scheduler", scheduler),
    ("reloading", Text.listingOfBool c.isReloading)]

end Config
end LiveConfig
