import LiveConfig.Session.Step

/-!
The answers of steps that need not wait.
-/
namespace LiveConfig

open Stock (StockListener Journal)

structure Session where
  config : Config StockListener Journal
  views : List Snapshot

namespace Session

def world (s : Session) : World Journal := s.config.world

def now (s : Session) : Nat := s.world.now

def setWorld (s : Session) (w : World Journal) : Session := { s with config := s.config.setWorld w }

def viewAt (s : Session) (index : Option Nat) : View Journal :=
  let view := s.config.view
  match index.bind fun i => s.views[i]? with
  | some snapshot => { view with snapshot }
  | none => view

def take {α : Type} (s : Session) (r : Reading Journal α) : α × Session :=
  (r.value, s.setWorld ({ s.world with plugins := r.plugins }.noteAll r.log))

def readThrough (s : Session) (view : View Journal) (target : Target) (read : Read) :
    Except Failure Value × Session :=
  let plugins := s.world.plugins
  match read with
  | .get name arguments => s.take (view.get .builtIn target name arguments plugins)
  | .resolve key fallback => s.take (view.resolve .builtIn target key fallback plugins)

def answerRead (s : Session) (view : View Journal) (target : Target) (read : Read) :
    Answer × Session :=
  let (result, s) := s.readThrough view target read
  (result.map (.value target), s)

def answerCurrent (s : Session) (target : Target) (read : Read) (fallback : Option Value) :
    Answer × Session :=
  let (answer, s) := s.answerRead s.config.view target read
  match answer, fallback with
  | .error (.error _), some v => (.ok (.value target v), s)
  | answer, _ => (answer, s)

def plainValue (target : Target) (key text : String) (j : Journal) :
    Except Failure Value × Journal :=
  (target.convert .builtIn (.plain key) text).run j

def updateStore (s : Session) (store : String) (f : MemoryStore → MemoryStore) : Session :=
  let w := s.world
  let stores := w.outside.stores.insert store (f ((w.outside.stores.get? store).getD .empty))
  s.setWorld { w with outside := { w.outside with stores } }

def storeOf (s : Session) (store : String) : MemoryStore :=
  (s.world.outside.stores.get? store).getD .empty

def updateFiles (s : Session) (f : FileTree → FileTree) : Session :=
  let w := s.world
  s.setWorld { w with outside := { w.outside with files := f w.outside.files } }

def setVars (s : Session) (vars : TextMap Text.Raw) : Session :=
  let w := s.world
  s.setWorld { w with outside := { w.outside with process := { w.outside.process with vars } } }

def addListener (s : Session) (l : StockListener) : Nat × Session :=
  let (id, config) := s.config.addListener l
  let s := { s with config }
  let w := s.world
  (id, s.setWorld { w with plugins := w.plugins.addLabel l.label id })

def removeListener (s : Session) (label : String) : Bool × Session :=
  match s.world.plugins.firstWith? label with
  | none => (false, s)
  | some id =>
    let (found, config) := s.config.removeListener id
    (found, { s with config })

def passTime (s : Session) (millis : Nat) : Session := s.setWorld (s.world.waitUntil (s.now + millis))

def answer (s : Session) : Step → Answer × Session
  | .read target read view => s.answerRead (s.viewAt view) target read
  | .openView =>
    (.ok (.number s.views.length), { s with views := s.views ++ [s.config.snapshot] })
  | .raw key view => (.ok (.optionalText ((s.viewAt view).raw? key)), s)
  | .expanded key view =>
    let (text, s) := s.take ((s.viewAt view).expanded? key s.world.plugins)
    (.ok (.expanded text), s)
  | .toMap view =>
    let (m, s) := s.take ((s.viewAt view).toMap s.world.plugins)
    (.ok (.expandedMap m), s)
  | .snapshot key view => (.ok (.snapshot (s.viewAt view).snapshot key), s)
  | .property key => (.ok (.optionalText (s.config.snapshot.get? key)), s)
  | .propertyNames => (.ok (.texts s.config.snapshot.properties.keys), s)
  | .sources => (.ok (.texts (s.config.snapshot.sources.map Locator.text)), s)
  | .version => (.ok (.number s.config.snapshot.version), s)
  | .reloadMode => (.ok (.mode s.config.reloadMode?), s)
  | .isReloading => (.ok (.flag s.config.isReloading), s)
  | .stopReloading => (.ok .nothing, { s with config := s.config.stopReloading })
  | .declaration => (.ok (.declaration s.config.declaration), s)
  | .listings => (.ok (.listings s.config.listing s.config.view.listing), s)
  | .made => (.ok (.number (s.world.plugins.count .made)), s)
  | .listen l =>
    let (id, s) := s.addListener l
    (.ok (.registered id), s)
  | .unlisten label =>
    let (found, s) := s.removeListener label
    (.ok (.flag found), s)
  | .storeSet store map key value =>
    (.ok .nothing, s.updateStore store fun m => MemoryStore.set m map key value)
  | .storeUnset store map key =>
    (.ok .nothing, s.updateStore store fun m => MemoryStore.unset m map key)
  | .storeInsert store map properties =>
    (.ok .nothing, s.updateStore store fun m => m.insert map properties)
  | .storeRemove store map =>
    (.ok (.optionalMap ((s.storeOf store).get? map)), s.updateStore store fun m => m.erase map)
  | .storeContains store map => (.ok (.flag ((s.storeOf store).contains map)), s)
  | .writeFile path node => (.ok .nothing, s.updateFiles fun t => t.write path node)
  | .deleteFile path => (.ok .nothing, s.updateFiles fun t => t.delete path)
  | .setProcess vars => (.ok .nothing, s.setVars vars)
  | .getOr _ _ _ | .reload | .sleep _ | .leap _ => (.ok .nothing, s)

end Session
end LiveConfig
