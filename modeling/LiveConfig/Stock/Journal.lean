import LiveConfig.Change
import LiveConfig.Snapshot

/-!
The journal of the stock plugins: what they record, and what they count.
-/
namespace LiveConfig.Stock

inductive HookCall where
  | before (c : Change)
  | batch (keys : List String)
  | changed (c : Change)
  | reload (changes : List Change) (s : Snapshot)
  deriving DecidableEq

inductive HookName where
  | before
  | batch
  | changed
  | reload
  deriving DecidableEq

def HookName.text : HookName → String
  | .before => "before"
  | .batch => "batch"
  | .changed => "changed"
  | .reload => "reload"

def HookCall.name : HookCall → HookName
  | .before _ => .before
  | .batch _ => .batch
  | .changed _ => .changed
  | .reload _ _ => .reload

structure Sight where
  value : Option String
  version : Nat
  deriving DecidableEq

inductive Event where
  | load (source loader : String)
  | call (listener : String) (call : HookCall) (sight : Option Sight)
  | removal (listener removed : String) (found : Bool)
  deriving DecidableEq

inductive Counter where
  | made
  | calls (substitutor : Nat)
  | panics (listener : Nat)
  deriving DecidableEq

structure Journal where
  events : List Event
  counts : List (Counter × Nat)
  labels : List (String × Nat)

namespace Journal

def empty : Journal := ⟨[], [], []⟩

def record (j : Journal) (e : Event) : Journal := { j with events := e :: j.events }

def count (j : Journal) (c : Counter) : Nat := (j.counts.lookup c).getD 0

def increment (j : Journal) (c : Counter) : Journal :=
  { j with counts := (c, j.count c + 1) :: j.counts.filter fun e => e.1 ≠ c }

def addLabel (j : Journal) (label : String) (id : Nat) : Journal :=
  { j with labels := j.labels ++ [(label, id)] }

def firstWith? (j : Journal) (label : String) : Option Nat := j.labels.lookup label

def lastWith? (j : Journal) (label : String) : Option Nat := j.labels.reverse.lookup label

end Journal
end LiveConfig.Stock
