import LiveConfig.Error
import LiveConfig.Listener.Registry
import LiveConfig.Log
import LiveConfig.Snapshot

/-!
Transactions: how listeners take part in a reload.

Before anything changes, the transactional listeners are asked one after another about each change and
then about the batch.  A change may be refused alone, or the batch as a whole.  After the changes are
published, the listeners are told of them.
-/
namespace LiveConfig

inductive Verdict where
  | accept
  | vetoKey
  | vetoBatch
  deriving DecidableEq, Repr

abbrev Hook (σ : Type) : Type → Type := ExceptT Panic (StateM σ)

structure Hooks (L σ : Type) where
  kind : L → ListenerKind
  beforeChange : L → Change → Hook σ Verdict
  beforeBatch : L → ChangeSet → Hook σ Verdict
  changed : L → Change → Hook σ Unit
  reloaded : L → ChangeSet → Snapshot → Hook σ Unit
  note : LogLine → σ → σ

inductive Decision where
  | commit (changes : ChangeSet)
  | vetoed
  | empty
  deriving DecidableEq

namespace Transaction

variable {L σ : Type}

def changeVetoedLine (key : String) : LogLine :=
  ⟨.debug, "property change vetoed", [("key", .text key)]⟩

def reloadVetoedLine (key : String) : LogLine :=
  ⟨.info, "reload vetoed by listener", [("key", .text key)]⟩

def batchVetoedLine (changes : ChangeSet) : LogLine :=
  ⟨.info, "reload batch vetoed by listener", [("changes", .number changes.size)]⟩

def note (h : Hooks L σ) (line : LogLine) : Hook σ Unit := modify (h.note line)

def askChanges (h : Hooks L σ) (listener : L) :
    List Change → ChangeSet → Hook σ (Option ChangeSet)
  | [], set => return some set
  | c :: rest, set => do
    match ← h.beforeChange listener c with
    | .accept => askChanges h listener rest set
    | .vetoKey =>
      note h (changeVetoedLine c.key)
      askChanges h listener rest (set.without c.key)
    | .vetoBatch =>
      note h (reloadVetoedLine c.key)
      return none

def ask (h : Hooks L σ) (listener : L) (set : ChangeSet) : Hook σ (Option ChangeSet) := do
  match ← askChanges h listener set.changes set with
  | none => return none
  | some set =>
    if (← h.beforeBatch listener set) = .accept then return some set
    note h (batchVetoedLine set)
    return none

def decide (h : Hooks L σ) : List L → ChangeSet → Hook σ Decision
  | [], set => return if set.isEmpty then .empty else .commit set
  | listener :: rest, set => do
    if h.kind listener = .transactional then
      match ← ask h listener set with
      | none => return .vetoed
      | some set => decide h rest set
    else decide h rest set

def tellChanges (h : Hooks L σ) (listener : L) : List Change → Hook σ Unit
  | [] => return
  | c :: rest => do
    h.changed listener c
    tellChanges h listener rest

def tellAllChanges (h : Hooks L σ) (set : ChangeSet) : List L → Hook σ Unit
  | [] => return
  | listener :: rest => do
    if h.kind listener ≠ .reload then tellChanges h listener set.changes
    tellAllChanges h set rest

def tellReload (h : Hooks L σ) (set : ChangeSet) (s : Snapshot) : List L → Hook σ Unit
  | [] => return
  | listener :: rest => do
    if h.kind listener = .reload then h.reloaded listener set s
    tellReload h set s rest

def notify (h : Hooks L σ) (listeners : List L) (set : ChangeSet) (s : Snapshot) : Hook σ Unit := do
  tellAllChanges h set listeners
  tellReload h set s listeners

end Transaction
end LiveConfig
