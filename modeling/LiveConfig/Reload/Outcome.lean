import LiveConfig.Listener.Transaction
import LiveConfig.Pipeline

/-!
Outcomes: what a reload makes of a candidate.

The candidate is compared with the published snapshot, the listeners are asked about the changes, and
what they leave is published before they are told.  The listeners see the snapshot that is published at
the time, and cannot change it.
-/
namespace LiveConfig

inductive Trigger where
  | explicit
  | access
  | timer
  deriving DecidableEq, Repr

def Trigger.name : Trigger → String
  | .explicit => "explicit"
  | .access => "access"
  | .timer => "timer"

inductive ReloadOutcome where
  | unchanged
  | applied (version : Nat) (changes : ChangeSet)
  | vetoed
  | coalesced
  deriving DecidableEq

inductive ReloadEnd where
  | outcome (outcome : ReloadOutcome)
  | failed (error : ConfigError)
  | panicked (panic : Panic)

structure Scene (L π : Type) where
  registry : ListenerRegistry L
  world : World π

namespace Scene

variable {L π : Type}

def note (s : Scene L π) (line : LogLine) : Scene L π := { s with world := s.world.note line }

end Scene

abbrev Listeners (L π : Type) := Snapshot → Hooks L (Scene L π)

namespace Reload

variable {L π : Type}

def unchangedLine (trigger : Trigger) (version : Nat) : LogLine :=
  ⟨.debug, "no property changes", [("trigger", .text trigger.name), ("version", .number version)]⟩

def nothingLeftLine (trigger : Trigger) : LogLine :=
  ⟨.debug, "every change vetoed, nothing to publish", [("trigger", .text trigger.name)]⟩

def reloadedLine (trigger : Trigger) (version : Nat) (changes : ChangeSet) : LogLine :=
  ⟨.info, "configuration reloaded", [
    ("action", .text "reloaded"),
    ("trigger", .text trigger.name),
    ("version", .number version),
    ("changes", .number changes.size)]⟩

def publish (hooks : Listeners L π) (listeners : List L) (trigger : Trigger) (changes : ChangeSet)
    (sources : List Locator) (current : Snapshot) (s : Scene L π) :
    ReloadEnd × Snapshot × Scene L π :=
  let version := current.version + 1
  let next := current.apply changes version sources
  let s := s.note (reloadedLine trigger version changes)
  match (Transaction.notify (hooks next) listeners changes next).run s with
  | (.error p, s) => (.panicked p, next, s)
  | (.ok (), s) => (.outcome (.applied version changes), next, s)

def conclude (hooks : Listeners L π) (trigger : Trigger) (c : Candidate) (current : Snapshot)
    (s : Scene L π) : ReloadEnd × Snapshot × Scene L π :=
  let changes := ChangeSet.between current.properties c.properties
  if changes.isEmpty then
    (.outcome .unchanged, current, s.note (unchangedLine trigger current.version))
  else
    let listeners := s.registry.registrations
    match (Transaction.decide (hooks current) listeners changes).run s with
    | (.error p, s) => (.panicked p, current, s)
    | (.ok .vetoed, s) => (.outcome .vetoed, current, s)
    | (.ok .empty, s) => (.outcome .unchanged, current, s.note (nothingLeftLine trigger))
    | (.ok (.commit changes), s) => publish hooks listeners trigger changes c.sources current s

end Reload
end LiveConfig
