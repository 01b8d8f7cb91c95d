import LiveConfig.Session.Strand

/-!
Sessions: a configuration is built, steps are taken with it, and it is dropped.
-/
namespace LiveConfig.Session

open Stock (StockListener Journal Event)

structure Report (α : Type) where
  answer : α
  events : List Event
  log : List LogLine

def drain {α : Type} (answer : α) (w : World Journal) : Report α × World Journal :=
  (⟨answer, w.plugins.events.reverse, w.log.reverse⟩,
    { w with log := [], plugins := { w.plugins with events := [] } })

def answerOf : Strand → Answer
  | .answered answer => answer
  | _ => .ok .nothing

def takeTurn (turn : Turn Step) (s : Session) : Turn Answer × Session :=
  let (strands, s) := (Strand.beginAll turn).run s
  let (strands, s) := settle mostMoves strands s
  (strands.map answerOf, s)

def takeTurns (s : Session) : List (Turn Step) → List (Report (Turn Answer)) × Session
  | [] => ([], s)
  | turn :: rest =>
    let (answer, s) := takeTurn turn s
    let (report, w) := drain answer s.world
    let (reports, s) := takeTurns (s.setWorld w) rest
    (report :: reports, s)

structure Reports where
  build : Report (Except ConfigError Unit)
  steps : List (Report (Turn Answer))
  afterDrop : List (Report (Turn Answer))

def drop (s : Session) : Session := runTimer 2 false { s with config := s.config.drop }

def run (plan : Plan Journal) (turns afterDrop : List (Turn Step)) (w : World Journal) : Reports :=
  match plan.build StockListener.hooks w with
  | (.error e, w) => ⟨(drain (.error e) w).1, [], []⟩
  | (.ok config, w) =>
    let (built, w) := drain (.ok ()) w
    let s : Session := ⟨config.setWorld w, []⟩
    let (steps, s) := takeTurns s turns
    let (after, _) := takeTurns s.drop afterDrop
    ⟨built, steps, after⟩

end LiveConfig.Session
