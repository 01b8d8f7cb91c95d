import LiveConfig.Environment
import LiveConfig.FileTree
import LiveConfig.Log

/-!
What surrounds a configuration: the clock, the files, the process, maps kept in memory, a log, and the
state of all plugins.
-/
namespace LiveConfig

abbrev MemoryStore := TextMap PropertyMap

/-- What sources are loaded from.  The clock counts milliseconds; memory stores have names. -/
structure Outside where
  now : Nat
  files : FileTree
  process : Environment.Process
  stores : TextMap MemoryStore

structure World (π : Type) where
  outside : Outside
  log : List LogLine
  plugins : π

namespace World

variable {π : Type}

def now (w : World π) : Nat := w.outside.now

def note (w : World π) (line : LogLine) : World π := { w with log := line :: w.log }

def noteAll (w : World π) (lines : List LogLine) : World π := lines.foldl note w

def waitUntil (w : World π) (time : Nat) : World π :=
  { w with outside := { w.outside with now := max w.now time } }

end World
end LiveConfig
