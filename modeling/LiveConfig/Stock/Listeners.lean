import LiveConfig.Reload.Outcome
import LiveConfig.Stock.Journal

/-!
Stock listeners: they record what they are called for, answer with fixed verdicts, and may read the
configuration, remove a listener or break off.
-/
namespace LiveConfig.Stock

inductive Payload where
  | text
  | static
  | number

structure StockListener where
  number : Nat
  kind : ListenerKind
  passive : Bool
  label : String
  verdicts : List (String × Verdict)
  batchVerdict : Verdict
  reads : Option String
  removes : Option (String × HookName)
  panicOn : Option HookName
  panics : Option Nat
  payload : Payload

namespace StockListener

abbrev Stage := Scene StockListener Journal

def panicText (l : StockListener) (hook : HookName) : Option String :=
  match l.payload with
  | .text => some ("listener " ++ l.label ++ " failed in " ++ hook.text)
  | .static => some "static failure"
  | .number => none

def updateJournal (f : Journal → Journal) (s : Stage) : Stage :=
  { s with world := { s.world with plugins := f s.world.plugins } }

def removeLabelled (l : StockListener) (label : String) (s : Stage) : Stage :=
  match s.world.plugins.firstWith? label with
  | none => s
  | some id =>
    let (found, registry) := s.registry.remove id
    updateJournal (·.record (.removal l.label label found)) { s with registry }

def react (l : StockListener) (published : Snapshot) (call : HookCall) : Hook Stage Unit := do
  let sight := l.reads.map fun key => (⟨published.get? key, published.version⟩ : Sight)
  modify (updateJournal (·.record (.call l.label call sight)))
  match l.removes with
  | some (label, hook) => if hook = call.name then modify (l.removeLabelled label)
  | none => pure ()
  if l.panicOn = some call.name then
    let counter := Counter.panics l.number
    let done := (← get).world.plugins.count counter
    if l.panics.all fun most => done < most then
      modify (updateJournal (·.increment counter))
      throw ⟨l.panicText call.name⟩

def hooks : Listeners StockListener Journal := fun published => {
  kind := fun l => l.kind
  beforeChange := fun l c => do
    if l.passive then return .accept
    l.react published (.before c)
    return (l.verdicts.lookup c.key).getD .accept
  beforeBatch := fun l set => do
    if l.passive then return .accept
    l.react published (.batch (set.changes.map (·.key)))
    return l.batchVerdict
  changed := fun l c => l.react published (.changed c)
  reloaded := fun l set s => l.react published (.reload set.changes s)
  note := fun line s => s.note line }

end StockListener
end LiveConfig.Stock
