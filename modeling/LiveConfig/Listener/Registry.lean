/-!
Registries of listeners: who is told of changes, in the order of registration.

Every registration gets a number of its own.  Numbers are words of 64 bits, so they begin anew once all of
them were given.
-/
namespace LiveConfig

inductive ListenerKind where
  | change
  | transactional
  | reload
  deriving DecidableEq, Repr

def ListenerKind.listing : ListenerKind → String
  | .change => "Change"
  | .transactional => "Transactional"
  | .reload => "Reload"

structure ListenerRegistry (L : Type) where
  nextId : Nat
  entries : List (Nat × L)

namespace ListenerRegistry

variable {L : Type}

def empty : ListenerRegistry L := ⟨0, []⟩

def add (r : ListenerRegistry L) (listener : L) : Nat × ListenerRegistry L :=
  (r.nextId, ⟨(r.nextId + 1) % Nat.pow 2 64, r.entries ++ [(r.nextId, listener)]⟩)

def remove (r : ListenerRegistry L) (id : Nat) : Bool × ListenerRegistry L :=
  let rest := r.entries.filter fun e => e.1 ≠ id
  (rest.length ≠ r.entries.length, { r with entries := rest })

def registrations (r : ListenerRegistry L) : List L := r.entries.map (·.2)

def size (r : ListenerRegistry L) : Nat := r.entries.length

def isEmpty (r : ListenerRegistry L) : Bool := r.entries.isEmpty

end ListenerRegistry
end LiveConfig
