import LiveConfig.Reload.State

/-!
The reload timer: it asks for a reload at regular times until it is cancelled.

Ticks that are missed by more than a moment, because a reload takes long or the clock jumps, are
skipped: one late tick comes at once, and the next one at a multiple of the interval.  Where a tick is
due and the timer is cancelled at the same time, either may be seen first.
-/
namespace LiveConfig

inductive TimerPhase where
  | waiting
  | reloading (request : Nat)
  | stopped
  deriving DecidableEq

structure Timer where
  due : Nat
  phase : TimerPhase
  deriving DecidableEq

namespace Timer

-- Milliseconds by which a tick may be late without any being skipped.
def tolerance : Nat := 5

def startingAt (now interval : Nat) : Timer := ⟨now + interval, .waiting⟩

def nextDue (due now interval : Nat) : Nat :=
  if now > due + tolerance then now + interval - (now - due) % interval else due + interval

def stoppedLine : LogLine := ⟨.debug, "reload timer stopped", []⟩

def panicLine (p : Panic) : LogLine :=
  ⟨.error, "reload panicked, keeping current snapshot",
    [("panic", .text (p.text?.getD "non-string panic payload"))]⟩

def endLine? : ReloadEnd → Option LogLine
  | .outcome _ => none
  | .failed e => some e.logLine
  | .panicked p => some (panicLine p)

inductive Signal where
  | tick
  | cancelled
  deriving DecidableEq

def sees (t : Timer) (cancelled : Bool) (now : Nat) : Signal → Bool
  | .tick => t.due ≤ now
  | .cancelled => cancelled

variable {L π : Type}

def react (interval : Nat) (dropped : Bool) (t : Timer) (signal : Signal) (s : ReloadState L π) :
    Timer × ReloadState L π :=
  match signal with
  | .cancelled => ({ t with phase := .stopped }, s.note stoppedLine)
  | .tick =>
    if dropped then ({ t with phase := .stopped }, s)
    else
      let (id, s) := s.tryRequest .timer
      (⟨nextDue t.due s.now interval, .reloading id⟩, s)

def afterReload (t : Timer) (result : ReloadEnd) (s : ReloadState L π) : Timer × ReloadState L π :=
  ({ t with phase := .waiting },
    match endLine? result with
    | some line => s.note line
    | none => s)

def step? (interval : Nat) (cancelled dropped : Bool) (order : List Signal) (t : Timer)
    (s : ReloadState L π) : Option (Timer × ReloadState L π) :=
  match t.phase with
  | .stopped => none
  | .waiting =>
    (order.find? (t.sees cancelled s.now)).map fun signal => react interval dropped t signal s
  | .reloading id => (s.end? id).map fun result => afterReload t result s

end Timer
end LiveConfig
