import LiveConfig.Config
import LiveConfig.Proofs.Reload.Conclusion
import Mathlib.Data.List.Induction

/-!
Runs of a configuration: any number of moves, in any order.

Whoever uses a configuration makes requests, reads it, adds and takes away listeners and stops the timer;
its requests and its timer take their steps; and the world around it changes by itself.  A state is
reachable if a run leads to it from a configuration that was just built.
-/
namespace LiveConfig

/-- What can happen next.  `surround` stands for all that happens around a configuration: the clock jumps,
files are written, loaders and substitutors are used by others. -/
inductive Move (L π : Type) where
  | request
  | access
  | step (id : Nat)
  | tick (order : List Timer.Signal)
  | register (listener : L)
  | unregister (id : Nat)
  | stop
  | drop
  | wait (time : Nat)
  | surround (w : World π)

def Move.stepper? {L π : Type} : Move L π → Option Nat
  | .step id => some id
  | _ => none

namespace Config

variable {L π : Type}

def move? (c : Config L π) : Move L π → Option (Config L π)
  | .request => some { c with state := c.state.request.2 }
  | .access => some { c with state := (c.state.access c.setup).2 }
  | .step id => c.stepRequest? id
  | .tick order => c.stepTimer? order
  | .register listener => some (c.addListener listener).2
  | .unregister id => some (c.removeListener id).2
  | .stop => some c.stopReloading
  | .drop => some c.drop
  | .wait time => some (c.setWorld (c.world.waitUntil time))
  | .surround w => some (c.setWorld w)

def run? : List (Move L π) → Config L π → Option (Config L π)
  | [], c => some c
  | m :: rest, c =>
    match c.move? m with
    | some d => run? rest d
    | none => none

def runOf? (p : Plan π) (hooks : Listeners L π) (w : World π) (moves : List (Move L π)) :
    Option (Config L π) :=
  match (p.build hooks w).1 with
  | .ok first => run? moves first
  | .error _ => none

/-- A run leads here from a configuration that was built. -/
def Reachable (c : Config L π) : Prop :=
  ∃ (p : Plan π) (hooks : Listeners L π) (w : World π) (moves : List (Move L π)),
    runOf? p hooks w moves = some c

def phase? (c : Config L π) (id : Nat) : Option (Phase π) := c.state.requests[id]?

def finished? (c : Config L π) (id : Nat) : Option (Candidate × World π) :=
  match c.phase? id with
  | some (.loading _ pass) =>
    match pass.ready? with
    | none => some (c.setup.pipeline.finish pass.outcome c.world)
    | some _ => none
  | _ => none

def candidate? (c : Config L π) (id : Nat) : Option Candidate := (c.finished? id).map (·.1)

def callsBy (c : Config L π) (id : Nat) : List (ListenerCall L) :=
  match c.phase? id, c.finished? id with
  | some (.loading trigger _), some (candidate, w) =>
    let scene : Scene L π := { c.state.scene with world := w }
    (Reload.conclude c.setup.hooks.recording trigger candidate c.snapshot (scene.keeping [])).2.2.calls
  | _, _ => []

def callsOf (id : Nat) : List (Move L π) → Config L π → List (ListenerCall L)
  | [], _ => []
  | m :: rest, c =>
    (if m.stepper? = some id then c.callsBy id else []) ++
      match c.move? m with
      | some d => callsOf id rest d
      | none => []

def callsIn (c : Config L π) (m : Move L π) : List (ListenerCall L) :=
  match m.stepper? with
  | some id => c.callsBy id
  | none => []

def throughout (p : Config L π → Bool) : List (Move L π) → Config L π → Bool
  | [], _ => true
  | m :: rest, c =>
    p c && match c.move? m with
      | some next => throughout p rest next
      | none => true

/-- A request has got the gate and goes on until its reload is concluded. -/
structure Attempt (c : Config L π) (id : Nat) (moves : List (Move L π)) (d : Config L π)
    (result : ReloadEnd) : Prop where
  holds : c.state.holder = some id
  fresh : (∃ ticket, c.phase? id = some (.queued ticket)) ∨
    ∃ trigger ticket, c.phase? id = some (.admitted trigger ticket)
  runs : run? moves c = some d
  concluded : d.phase? id = some (.concluded result)

theorem run?_cons_eq_some {m : Move L π} {rest : List (Move L π)} {c d : Config L π}
    (ran : run? (m :: rest) c = some d) : ∃ next, c.move? m = some next ∧ run? rest next = some d := by
  unfold run? at ran
  split at ran
  · next next moved => exact ⟨next, moved, ran⟩
  · exact nomatch ran

theorem callsIn_of_outer {c : Config L π} {m : Move L π} (outer : m.stepper? = none) :
    c.callsIn m = [] := by
  unfold callsIn
  rw [outer]

theorem throughout_cons {p : Config L π → Bool} {m : Move L π} {rest : List (Move L π)}
    {c next : Config L π} (moved : c.move? m = some next) :
    throughout p (m :: rest) c = (p c && throughout p rest next) := by
  simp only [throughout, moved]

theorem run?_append {first second : List (Move L π)} {c middle d : Config L π}
    (ran : run? first c = some middle) (more : run? second middle = some d) :
    run? (first ++ second) c = some d := by
  induction first generalizing c with
  | nil =>
    obtain rfl := Option.some.inj ran
    exact more
  | cons m rest ih =>
    obtain ⟨next, moved, later⟩ := run?_cons_eq_some ran
    simp only [List.cons_append, run?, moved]
    exact ih later

theorem run?_append_eq_some {first second : List (Move L π)} {c d : Config L π}
    (ran : run? (first ++ second) c = some d) :
    ∃ middle, run? first c = some middle ∧ run? second middle = some d := by
  induction first generalizing c with
  | nil => exact ⟨c, rfl, ran⟩
  | cons m rest ih =>
    obtain ⟨next, moved, later⟩ := run?_cons_eq_some ran
    obtain ⟨middle, led, more⟩ := ih later
    refine ⟨middle, ?_, more⟩
    simp only [run?, moved]
    exact led

/-- What holds at the beginning of a run, and is kept by each move after those before it, holds of all of
the run. -/
theorem run?_induction {P : List (Move L π) → Config L π → Prop} {c d : Config L π}
    {moves : List (Move L π)} (here : P [] c)
    (kept : ∀ before e m next, run? before c = some e → P before e → e.move? m = some next →
      P (before ++ [m]) next)
    (ran : run? moves c = some d) : P moves d := by
  induction moves using List.reverseRecOn generalizing d with
  | nil =>
    obtain rfl := Option.some.inj ran
    exact here
  | append_singleton before m ih =>
    obtain ⟨e, led, last⟩ := run?_append_eq_some ran
    obtain ⟨next, moved, stays⟩ := run?_cons_eq_some last
    obtain rfl := Option.some.inj stays
    exact kept before e m next led (ih led) moved

theorem throughout_append {p : Config L π → Bool} {first second : List (Move L π)}
    {c middle : Config L π} (ran : run? first c = some middle) :
    throughout p (first ++ second) c = (throughout p first c && throughout p second middle) := by
  induction first generalizing c with
  | nil =>
    obtain rfl := Option.some.inj ran
    rfl
  | cons m rest ih =>
    obtain ⟨next, moved, later⟩ := run?_cons_eq_some ran
    rw [List.cons_append, throughout_cons moved, throughout_cons moved, ih later, Bool.and_assoc]

theorem build_of_runOf? {p : Plan π} {hooks : Listeners L π} {w : World π} {moves : List (Move L π)}
    {c : Config L π} (ran : runOf? p hooks w moves = some c) :
    ∃ first, (p.build hooks w).1 = .ok first ∧ run? moves first = some c := by
  unfold runOf? at ran
  split at ran
  · next first built => exact ⟨first, built, ran⟩
  · exact nomatch ran

theorem runOf?_append {p : Plan π} {hooks : Listeners L π} {w : World π} {first second : List (Move L π)}
    {c d : Config L π} (ran : runOf? p hooks w first = some c) (more : run? second c = some d) :
    runOf? p hooks w (first ++ second) = some d := by
  obtain ⟨start, built, led⟩ := build_of_runOf? ran
  unfold runOf?
  rw [built]
  exact run?_append led more

theorem Reachable.run {c d : Config L π} {moves : List (Move L π)} (reached : c.Reachable)
    (ran : run? moves c = some d) : d.Reachable := by
  obtain ⟨p, hooks, w, before, led⟩ := reached
  exact ⟨p, hooks, w, before ++ moves, runOf?_append led ran⟩

/-- What holds of every built configuration and is kept by every move holds wherever a run leads. -/
theorem Reachable.induction {Inv : Config L π → Prop} {c : Config L π} (reached : c.Reachable)
    (built : ∀ (p : Plan π) (hooks : Listeners L π) (w : World π) (first : Config L π),
      (p.build hooks w).1 = .ok first → Inv first)
    (kept : ∀ c m d, Inv c → c.move? m = some d → Inv d) : Inv c := by
  obtain ⟨p, hooks, w, moves, led⟩ := reached
  obtain ⟨first, ok, ran⟩ := build_of_runOf? led
  clear led
  have inv := built p hooks w first ok
  clear ok
  induction moves generalizing first with
  | nil =>
    obtain rfl := Option.some.inj ran
    exact inv
  | cons m rest ih =>
    obtain ⟨next, moved, later⟩ := run?_cons_eq_some ran
    exact ih next later (kept first m next inv moved)

end Config
end LiveConfig
