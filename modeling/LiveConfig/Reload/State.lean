import LiveConfig.Reload.Outcome

/-!
The state of a configuration, and the steps of its reloads.

One reload runs at a time: it holds the gate.  An explicit request takes a ticket, which is the number
of reloads begun so far, and queues for the gate; if a reload has begun since, when it is let in, that
reload serves it.  Other requests never wait: they get the gate at once or are dropped.  Each step of
a request is atomic, and steps of different requests may follow in any order.
-/
namespace LiveConfig

/-- How far a request has come.  From `admitted` to `concluded` it holds the gate. -/
inductive Phase (π : Type) where
  | ticketed (ticket : Nat)
  | queued (ticket : Nat)
  -- Let in; an explicit request still has its ticket.
  | admitted (trigger : Trigger) (ticket : Option Nat)
  | begun (trigger : Trigger)
  | loading (trigger : Trigger) (pass : LoadPass π)
  | concluded (result : ReloadEnd)
  | ended (result : ReloadEnd)

structure ReloadSetup (L π : Type) where
  pipeline : Pipeline π
  hooks : Listeners L π

/-- The published snapshot, listeners and world; how many reloads have begun; who holds the gate and
who queues for it; all requests by their numbers; and the time of the last look on access. -/
structure ReloadState (L π : Type) where
  current : Snapshot
  scene : Scene L π
  started : Nat
  holder : Option Nat
  queue : List Nat
  requests : List (Phase π)
  lastCheck : Nat

namespace ReloadState

variable {L π : Type}

def initial (c : Candidate) (w : World π) : ReloadState L π :=
  ⟨⟨c.properties, 1, c.sources⟩, ⟨.empty, w⟩, 0, none, [], [], w.now⟩

def now (s : ReloadState L π) : Nat := s.scene.world.now

def note (s : ReloadState L π) (line : LogLine) : ReloadState L π :=
  { s with scene := s.scene.note line }

def setWorld (s : ReloadState L π) (w : World π) : ReloadState L π :=
  { s with scene := { s.scene with world := w } }

def setPhase (s : ReloadState L π) (id : Nat) (phase : Phase π) : ReloadState L π :=
  { s with requests := s.requests.set id phase }

def end? (s : ReloadState L π) (id : Nat) : Option ReloadEnd :=
  match s.requests[id]? with
  | some (.ended result) => some result
  | _ => none

def isFree (s : ReloadState L π) : Bool := s.holder.isNone

def skippedLine (trigger : Trigger) : LogLine :=
  ⟨.trace, "reload already running, skipping", [("trigger", .text trigger.name)]⟩

def coalescedLine : LogLine :=
  ⟨.debug, "request coalesced into a later reload", [("action", .text "reload")]⟩

def request (s : ReloadState L π) : Nat × ReloadState L π :=
  (s.requests.length, { s with requests := s.requests ++ [.ticketed s.started] })

def tryRequest (s : ReloadState L π) (trigger : Trigger) : Nat × ReloadState L π :=
  let id := s.requests.length
  if s.isFree then
    (id, { s with holder := some id, requests := s.requests ++ [.admitted trigger none] })
  else
    let dropped : Phase π := .ended (.outcome .coalesced)
    (id, { s with requests := s.requests ++ [dropped] }.note (skippedLine trigger))

def enter (s : ReloadState L π) (id ticket : Nat) : ReloadState L π :=
  if s.isFree then { s with holder := some id }.setPhase id (.admitted .explicit (some ticket))
  else { s with queue := s.queue ++ [id] }.setPhase id (.queued ticket)

def release (s : ReloadState L π) : ReloadState L π :=
  match s.queue with
  | [] => { s with holder := none }
  | next :: rest => { s with holder := some next, queue := rest }

def startReload (s : ReloadState L π) (id : Nat) (trigger : Trigger) (ticket : Option Nat) :
    ReloadState L π :=
  if ticket.any (· ≠ s.started) then
    (s.note coalescedLine).setPhase id (.concluded (.outcome .coalesced))
  else { s with started := s.started + 1 }.setPhase id (.begun trigger)

def beginPass (r : ReloadSetup L π) (s : ReloadState L π) (id : Nat) (trigger : Trigger) :
    ReloadState L π :=
  match r.pipeline.start s.scene.world with
  | (.error e, w) => (s.setWorld w).setPhase id (.concluded (.failed e))
  | (.ok pass, w) => (s.setWorld w).setPhase id (.loading trigger pass)

def endPass (r : ReloadSetup L π) (s : ReloadState L π) (id : Nat) (trigger : Trigger)
    (pass : LoadPass π) : ReloadState L π :=
  let (candidate, w) := r.pipeline.finish pass.outcome s.scene.world
  let (result, current, scene) :=
    Reload.conclude r.hooks trigger candidate s.current { s.scene with world := w }
  { s with current, scene }.setPhase id (.concluded result)

def continuePass? (r : ReloadSetup L π) (s : ReloadState L π) (id : Nat) (trigger : Trigger)
    (pass : LoadPass π) : Option (ReloadState L π) :=
  match pass.ready? with
  | none => some (endPass r s id trigger pass)
  | some ready =>
    if ready ≤ s.now then
      let (pass, w) := pass.resume s.now s.scene.world
      some ((s.setWorld w).setPhase id (.loading trigger pass))
    else none

def step? (r : ReloadSetup L π) (s : ReloadState L π) (id : Nat) : Option (ReloadState L π) :=
  match s.requests[id]? with
  | none => none
  | some phase =>
    match phase with
    | .ticketed ticket => some (s.enter id ticket)
    | .queued ticket =>
      if s.holder = some id then some (s.setPhase id (.admitted .explicit (some ticket))) else none
    | .admitted trigger ticket => some (s.startReload id trigger ticket)
    | .begun trigger => some (beginPass r s id trigger)
    | .loading trigger pass => continuePass? r s id trigger pass
    | .concluded result => some (s.release.setPhase id (.ended result))
    | .ended _ => none

def rank : Phase π → Nat × Nat
  | .ticketed _ => (6, 0)
  | .queued _ => (5, 0)
  | .admitted _ _ => (4, 0)
  | .begun _ => (3, 0)
  | .loading _ pass => (2, pass.weight)
  | .concluded _ => (1, 0)
  | .ended _ => (0, 0)

def rankOf (s : ReloadState L π) (id : Nat) : Nat × Nat :=
  match s.requests[id]? with
  | some phase => rank phase
  | none => (0, 0)

abbrev Nearer : Nat × Nat → Nat × Nat → Prop := Prod.Lex (· < ·) (· < ·)

private theorem rankOf_setPhase {s : ReloadState L π} {id : Nat} (phase : Phase π)
    (h : id < s.requests.length) : (s.setPhase id phase).rankOf id = rank phase := by
  simp [rankOf, setPhase, h]

private theorem nearer_setPhase {s : ReloadState L π} {id : Nat} {phase : Phase π} {p : Nat × Nat}
    (h : id < s.requests.length) (lt : Nearer (rank phase) p) :
    Nearer ((s.setPhase id phase).rankOf id) p := by
  rw [rankOf_setPhase phase h]
  exact lt

private theorem length_release (s : ReloadState L π) : s.release.requests.length = s.requests.length := by
  unfold release
  split <;> rfl

/-- Every step brings a request nearer to its end. -/
theorem rankOf_step? {r : ReloadSetup L π} {s t : ReloadState L π} {id : Nat}
    (h : s.step? r id = some t) : Nearer (t.rankOf id) (s.rankOf id) := by
  unfold step? at h
  split at h
  · simp at h
  · next phase found =>
    have lt : id < s.requests.length := (List.getElem?_eq_some_iff.mp found).1
    have rank_s : s.rankOf id = rank phase := by simp [rankOf, found]
    rw [rank_s]
    split at h
    · obtain rfl := Option.some.inj h
      unfold enter
      split <;> exact nearer_setPhase lt (.left _ _ (by decide))
    · split at h
      · obtain rfl := Option.some.inj h
        exact nearer_setPhase lt (.left _ _ (by decide))
      · simp at h
    · obtain rfl := Option.some.inj h
      unfold startReload
      split <;> exact nearer_setPhase lt (.left _ _ (by decide))
    · obtain rfl := Option.some.inj h
      unfold beginPass
      split <;> exact nearer_setPhase lt (.left _ _ (by decide))
    · unfold continuePass? at h
      split at h
      · obtain rfl := Option.some.inj h
        exact nearer_setPhase lt (.left _ _ (by decide))
      · next ready =>
        split at h
        · next le =>
          obtain rfl := Option.some.inj h
          exact nearer_setPhase lt (.right _ (LoadPass.weight_resume_lt _ ready le))
        · simp at h
    · obtain rfl := Option.some.inj h
      exact nearer_setPhase (length_release s ▸ lt) (.left _ _ (by decide))
    · simp at h

def isWaiting (s : ReloadState L π) (id : Nat) : Bool :=
  match s.requests[id]? with
  | some (.loading _ pass) => pass.ready?.isSome
  | _ => false

def advance (r : ReloadSetup L π) (id : Nat) (s : ReloadState L π) : ReloadState L π :=
  match _h : s.step? r id with
  | none => s
  | some t => if t.isWaiting id then t else advance r id t
termination_by s.rankOf id
decreasing_by exact rankOf_step? (by assumption)

def ready? (s : ReloadState L π) (id : Nat) : Option Nat :=
  match s.requests[id]? with
  | some (.loading _ pass) => pass.ready?
  | _ => none

def isCheckDue (r : ReloadSetup L π) (s : ReloadState L π) : Bool :=
  match r.pipeline.declaration.hotReload with
  | some ⟨.sync, interval⟩ => interval ≤ s.now - s.lastCheck
  | _ => false

def access (r : ReloadSetup L π) (s : ReloadState L π) : Option Nat × ReloadState L π :=
  if s.isCheckDue r then
    let (id, s) := { s with lastCheck := s.now }.tryRequest .access
    (some id, s)
  else (none, s)

end ReloadState
end LiveConfig
