import LiveConfig.Session.Answer
import LiveConfig.Session.Turn

/-!
Strands: steps of a session that run side by side.

Each strand runs until it has to wait: for a load, for the gate of reloads or for a time.  The clock
moves only while all strands wait, and then to the next time that one of them or the timer waits for.
Whenever several can go on, the timer goes first and then the strands in their order.
-/
namespace LiveConfig.Session

open Stock (StockListener Journal)

inductive Strand where
  | reloading (request : Nat)
  | reading (request : Nat) (target : Target) (read : Read) (fallback : Option Value)
  | sleeping (time : Nat)
  | answered (answer : Answer)

def advance (s : Session) (request : Nat) : Session :=
  { s with config := { s.config with state := s.config.state.advance s.config.setup request } }

def end? (s : Session) (request : Nat) : Option ReloadEnd := s.config.state.end? request

namespace Strand

def isAnswered : Strand → Bool
  | .answered _ => true
  | _ => false

def ofEnd : ReloadEnd → Answer
  | .outcome o => .ok (.outcome o)
  | .failed e => .error (.error e)
  | .panicked p => .error (.panic p)

def readAfter (s : Session) (target : Target) (read : Read) (fallback : Option Value) :
    ReloadEnd → Answer × Session
  | .outcome _ => s.answerCurrent target read fallback
  | .failed e =>
    { s with config := s.config.note (Config.failedAccessLine e) }.answerCurrent target read fallback
  | .panicked p => (.error (.panic p), s)

def run (strand : Strand) (s : Session) : Strand × Session :=
  match strand with
  | .reloading request =>
    let s := s.advance request
    match s.end? request with
    | some result => (.answered (ofEnd result), s)
    | none => (strand, s)
  | .reading request target read fallback =>
    let s := s.advance request
    match s.end? request with
    | some result =>
      let (answer, s) := readAfter s target read fallback result
      (.answered answer, s)
    | none => (strand, s)
  | .sleeping time => (if time ≤ s.now then .answered (.ok .nothing) else strand, s)
  | .answered _ => (strand, s)

def beginRead (s : Session) (target : Target) (read : Read) (fallback : Option Value) :
    Strand × Session :=
  let (request, state) := s.config.state.access s.config.setup
  let s := { s with config := { s.config with state } }
  match request with
  | some request => run (.reading request target read fallback) s
  | none =>
    let (answer, s) := s.answerCurrent target read fallback
    (.answered answer, s)

def begin (s : Session) : Step → Strand × Session
  | .read target read none => beginRead s target read none
  | .getOr target name fallback =>
    let w := s.world
    let (value, plugins) := plainValue target name fallback w.plugins
    let s := s.setWorld { w with plugins }
    match value with
    | .error failure => (.answered (.error failure), s)
    | .ok v => beginRead s target (.get name .empty) (some v)
  | .reload =>
    let (request, state) := s.config.state.request
    run (.reloading request) { s with config := { s.config with state } }
  | .sleep millis => (.sleeping (s.now + millis), s)
  | .leap millis =>
    let s := s.passTime millis
    (.sleeping s.now, s)
  | step =>
    let (answer, s) := s.answer step
    (.answered answer, s)

def beginAll (turn : Turn Step) : StateM Session (Turn Strand) :=
  turn.traverse fun step s => begin s step

def runAll (strands : Turn Strand) : StateM Session (Turn Strand) := strands.traverse run

def ready? (s : Session) : Strand → Option Nat
  | .reloading request | .reading request _ _ _ => s.config.state.ready? request
  | .sleeping time => some time
  | .answered _ => none

end Strand

def signalOrder (reloaded : Bool) : List Timer.Signal :=
  -- A tick that fell due during the timer's own reload is seen before the cancellation.
  if reloaded then [.tick, .cancelled] else [.cancelled, .tick]

-- How often a timer can tick at one time: late ticks within the tolerance are not skipped.
def mostTicks : Nat := Timer.tolerance + 3

def timerRequest? (s : Session) : Option Nat :=
  match s.config.timer with
  | some ⟨_, .reloading request⟩ => some request
  | _ => none

def advanceTimer (s : Session) : Session :=
  match s.timerRequest? with
  | some request => s.advance request
  | none => s

def runTimer : Nat → Bool → Session → Session
  | 0, _, s => s
  | ticks + 1, reloaded, s =>
    let s := s.advanceTimer
    match s.config.stepTimer? (signalOrder reloaded) with
    | some config => runTimer ticks s.timerRequest?.isSome { s with config }
    | none => s

def timerReady? (s : Session) : Option Nat :=
  match s.config.timer with
  | some ⟨due, .waiting⟩ => some due
  | some ⟨_, .reloading request⟩ => s.config.state.ready? request
  | _ => none

def areAnswered (strands : Turn Strand) : Bool := strands.toList.all Strand.isAnswered

def runRound : Nat → Turn Strand → Session → Turn Strand × Session
  | 0, strands, s => (strands, s)
  | rounds + 1, strands, s =>
    if areAnswered strands then (strands, s) else
    let s := runTimer (2 * mostTicks) false s
    let (strands, s) := (Strand.runAll strands).run s
    runRound rounds strands s

def nextTime? (strands : Turn Strand) (s : Session) : Option Nat :=
  (s.timerReady?.toList ++ strands.toList.filterMap (Strand.ready? s)).min?

def mostMoves : Nat := Nat.pow 2 40

def settle : Nat → Turn Strand → Session → Turn Strand × Session
  | 0, strands, s => (strands, s)
  | moves + 1, strands, s =>
    if areAnswered strands then (strands, s)
    else
      let (strands, s) := runRound (strands.toList.length + 1) strands s
      if areAnswered strands then (strands, s)
      else
        match nextTime? strands s with
        | none => (strands, s)
        | some time => settle moves strands (s.setWorld (s.world.waitUntil time))

end LiveConfig.Session
