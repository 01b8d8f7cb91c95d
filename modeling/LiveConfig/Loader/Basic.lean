import LiveConfig.Locator
import LiveConfig.World

/-!
Loaders: they turn a locator into a property map.

A load may pause several times before it finishes.  What it does at a pause and at its end can change
no more than the state of the plugins and the log.  A chain of loaders uses the first one that accepts
a locator; `LoaderChain.loader` makes a loader of a chain.
-/
namespace LiveConfig

structure LoadContext where
  environment : Environment
  roots : List String

structure Loaded (π : Type) where
  result : Except ConfigError PropertyMap
  log : List LogLine
  plugins : π

/-- Something that is done on the way, and the wait after it: none at all, or some milliseconds.  A
wait of no milliseconds lets others go first. -/
structure Pause (π : Type) where
  effect : π → π
  delay : Option Nat

structure Load (π : Type) where
  pauses : List (Pause π)
  finish : Outside → π → Loaded π

structure Loader (π : Type) where
  accepts : Locator → Bool
  load : LoadContext → Locator → Load π

variable {π : Type}

def Load.ofResult (result : Outside → Except ConfigError PropertyMap) : Load π :=
  ⟨[], fun outside plugins => ⟨result outside, [], plugins⟩⟩

def Loader.delayed (loader : Loader π) (effect : Locator → π → π) (delay : Option Nat) : Loader π where
  accepts := loader.accepts
  load cx l :=
    let load := loader.load cx l
    { load with pauses := ⟨effect l, delay⟩ :: load.pauses }

structure LoaderChain (π : Type) where
  loaders : List (Loader π)

namespace LoaderChain

def empty : LoaderChain π := ⟨[]⟩

def append (c : LoaderChain π) (loader : Loader π) : LoaderChain π := ⟨c.loaders ++ [loader]⟩

def prepend (c : LoaderChain π) (loader : Loader π) : LoaderChain π := ⟨loader :: c.loaders⟩

def find? (c : LoaderChain π) (l : Locator) : Option (Loader π) :=
  c.loaders.find? fun loader => loader.accepts l

def size (c : LoaderChain π) : Nat := c.loaders.length

def loader (c : LoaderChain π) : Loader π where
  accepts l := (c.find? l).isSome
  load cx l :=
    match c.find? l with
    | some loader => loader.load cx l
    | none => .ofResult fun _ => .error (.sourceUnavailable l.text (.unsupportedScheme l.scheme.name))

instance : Inhabited (Loader π) := ⟨empty.loader⟩

instance : Inhabited (LoaderChain π) := ⟨empty⟩

def listing (c : LoaderChain π) : String :=
  Text.listingOfStruct "LoaderChain" [("loaders", Text.quoted (toString c.size ++ " loaders"))]

end LoaderChain
end LiveConfig
