import LiveConfig.Loader.Basic

/-!
Memory stores: maps that are kept, changed and loaded by name.
-/
namespace LiveConfig.MemoryStore

def set (s : MemoryStore) (name key value : String) : MemoryStore :=
  s.insert name (((s.get? name).getD .empty).insert key value)

def unset (s : MemoryStore) (name key : String) : MemoryStore :=
  match s.get? name with
  | some m => s.insert name (m.erase key)
  | none => s

def accepts (l : Locator) : Bool := l.scheme = .memory

def load (s : MemoryStore) (l : Locator) : Except ConfigError PropertyMap :=
  match s.get? l.path with
  | some m => .ok m
  | none => .error (.sourceUnavailable l.text .noSuchMap)

def loader {π : Type} (store : String) : Loader π where
  accepts := accepts
  load _ l := .ofResult fun outside => load ((outside.stores.get? store).getD .empty) l

end LiveConfig.MemoryStore
