import LiveConfig.Change
import LiveConfig.Locator

/-!
Snapshots: the property maps that a configuration publishes, numbered from one on.
-/
namespace LiveConfig

structure Snapshot where
  properties : PropertyMap
  version : Nat
  sources : List Locator
  deriving DecidableEq

namespace Snapshot

def get? (s : Snapshot) (key : String) : Option String := s.properties.get? key

def apply (s : Snapshot) (changes : ChangeSet) (version : Nat) (sources : List Locator) : Snapshot :=
  ⟨changes.applyTo s.properties, version, sources⟩

end Snapshot
end LiveConfig
