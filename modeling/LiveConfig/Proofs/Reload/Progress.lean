import LiveConfig.Proofs.Reload.Attempt

/-!
The gate comes free again.

Who holds the gate can always take a step, at the latest when some time has passed, and every step
brings it nearer to its end, when it leaves the gate to the next in the line.  So if only time passes
and requests take their steps, nobody is left in the line, and a new request begins its reload.
-/
namespace LiveConfig

namespace Move

variable {L π : Type}

def isProgress : Move L π → Bool
  | .step _ | .wait _ => true
  | _ => false

end Move

namespace Config

variable {L π : Type} {c d next : Config L π} {id : Nat}

/-- The end of a conclusion: the request ends with its result, publishes nothing more and leaves the gate
to the first that queues for it, if any does. -/
theorem leaves_of_concluded {result : ReloadEnd} (found : c.phase? id = some (.concluded result)) :
    ∃ next, c.move? (.step id) = some next ∧ next.phase? id = some (.ended result) ∧
      next.snapshot = c.snapshot ∧ next.state.holder = c.state.queue.head? ∧
      next.state.queue = c.state.queue.tail := by
  have here : c.state.requests[id]? = some (.concluded result) := found
  have stepped : c.state.step? c.setup id = some (c.state.release.setPhase id (.ended result)) := by
    unfold ReloadState.step?
    rw [here]
  have moved := move?_of_step? stepped
  obtain ⟨phase, found', passage⟩ := ReloadState.step?_passage stepped
  obtain rfl := Option.some.inj (found'.symm.trans here)
  cases passage with
  | goesOn underway => exact nomatch underway
  | leaves current holder queue requests =>
    refine ⟨_, moved, ?_, current, holder, queue⟩
    have kept : c.state.release.requests[id]? = some (.concluded result) := by
      unfold ReloadState.release
      split
      · exact here
      · exact here
    exact ReloadState.getElem?_setPhase kept

/-- A request that is in the line and has the gate takes a step when enough time has passed. -/
theorem exists_step {phase : Phase π} (found : c.phase? id = some phase)
    (live : phase.stance ≠ .apart) (holds : c.state.holder = some id) :
    ∃ time next, (c.setWorld (c.world.waitUntil time)).move? (.step id) = some next := by
  have steps : ∀ (time : Nat) (state : ReloadState L π),
      (c.setWorld (c.world.waitUntil time)).state.step? c.setup id = some state →
      ∃ time next, (c.setWorld (c.world.waitUntil time)).move? (.step id) = some next := by
    intro time state stepped
    exact ⟨time, _, move?_of_step? stepped⟩
  have here : ∀ time, (c.setWorld (c.world.waitUntil time)).state.requests[id]? = some phase :=
    fun _ => found
  cases phase with
  | ticketed | ended => exact absurd rfl live
  | queued ticket =>
    apply steps 0
    unfold ReloadState.step?
    rw [here 0]
    exact if_pos holds
  | admitted trigger ticket =>
    apply steps 0
    unfold ReloadState.step?
    rw [here 0]
  | begun trigger =>
    apply steps 0
    unfold ReloadState.step?
    rw [here 0]
  | concluded result =>
    apply steps 0
    unfold ReloadState.step?
    rw [here 0]
  | loading trigger pass =>
    cases waits : pass.ready? with
    | none =>
      apply steps 0
      unfold ReloadState.step? ReloadState.continuePass?
      rw [here 0]
      dsimp only
      rw [waits]
    | some ready =>
      have passed : ready ≤ (c.setWorld (c.world.waitUntil ready)).state.now := Nat.le_max_right ..
      apply steps ready
      unfold ReloadState.step? ReloadState.continuePass?
      rw [here ready]
      dsimp only
      rw [waits]
      exact if_pos passed

private theorem phase?_of_mem_line (kept : c.state.GateKept) (mem : id ∈ c.state.line) :
    ∃ phase, c.phase? id = some phase ∧ phase.stance ≠ .apart := by
  have stance := (kept.members id).mp mem
  unfold ReloadState.stance? at stance
  cases found : c.state.requests[id]? with
  | none =>
    rw [found] at stance
    simp at stance
  | some phase =>
    rw [found] at stance
    refine ⟨phase, found, ?_⟩
    intro apart
    simp [apart] at stance

/-- Who holds the gate comes to its end and leaves it to the next. -/
theorem exists_leaving (c : Config L π) {id : Nat} (kept : c.state.GateKept)
    (holds : c.state.holder = some id) :
    ∃ moves d, run? moves c = some d ∧ (∀ m ∈ moves, m.isProgress = true) ∧
      d.state.GateKept ∧ d.state.line = c.state.queue := by
  have line := ReloadState.line_of_holder holds
  obtain ⟨phase, found, live⟩ := phase?_of_mem_line kept (line ▸ List.mem_cons_self)
  obtain ⟨time, next, moved⟩ := exists_step found live holds
  have ran : run? [.wait time, .step id] c = some next := run?_cons rfl (run?_cons moved rfl)
  have own : ∀ m ∈ ([.wait time, .step id] : List (Move L π)), m.isProgress = true := by
    simp [Move.isProgress]
  have waited := gateKept_move? kept (rfl : c.move? (.wait time) = some _)
  have kept' := gateKept_move? waited moved
  have stepped := (step_of_move? moved).2
  obtain ⟨phase', found', passage⟩ := ReloadState.step?_passage stepped
  obtain rfl := Option.some.inj (found'.symm.trans found)
  have nearer := ReloadState.rankOf_step? stepped
  cases passage with
  | enters | queues => exact absurd rfl live
  | goesOn _ _ _ holder queue =>
    -- Still inside, but its rank has fallen.
    obtain ⟨moves, d, later, progress, gate, left⟩ := exists_leaving next kept' (holder.trans holds)
    refine ⟨_ ++ moves, d, run?_append ran later, ?_, gate, left.trans queue⟩
    intro m mem
    rcases List.mem_append.mp mem with mem | mem
    · exact own m mem
    · exact progress m mem
  | leaves _ holder queue =>
    refine ⟨_, next, ran, own, kept', ?_⟩
    unfold ReloadState.line
    rw [holder, queue]
    change c.state.queue.head?.toList ++ c.state.queue.tail = c.state.queue
    cases c.state.queue with
    | nil => rfl
    | cons => rfl
termination_by c.state.rankOf id
decreasing_by exact nearer

/-- If only time passes and requests take their steps, the gate comes free. -/
theorem exists_free (c : Config L π) (kept : c.state.GateKept) :
    ∃ moves d, run? moves c = some d ∧ (∀ m ∈ moves, m.isProgress = true) ∧ d.state.holder = none := by
  cases holder : c.state.holder with
  | none => exact ⟨[], c, rfl, by simp, holder⟩
  | some id =>
    obtain ⟨moves, d, ran, progress, kept', line⟩ := exists_leaving c kept holder
    have shorter : d.state.line.length < c.state.line.length := by
      rw [line, ReloadState.line_of_holder holder, List.length_cons]
      exact Nat.lt_succ_self _
    obtain ⟨more, e, later, progress', free⟩ := exists_free d kept'
    refine ⟨moves ++ more, e, run?_append ran later, ?_, free⟩
    intro m mem
    rcases List.mem_append.mp mem with mem | mem
    · exact progress m mem
    · exact progress' m mem
termination_by c.state.line.length

/-- A new request begins its reload if the gate is free. -/
theorem begins_of_free (free : c.state.holder = none) :
    ∃ d, run? [.request, .step c.state.requests.length, .step c.state.requests.length] c = some d ∧
      d.phase? c.state.requests.length = some (.begun .explicit) := by
  let id := c.state.requests.length
  let asked : Config L π := { c with state := c.state.request.2 }
  let admitted : ReloadState L π :=
    { asked.state with holder := some id }.setPhase id (.admitted .explicit (some c.state.started))
  let begun : ReloadState L π :=
    { admitted with started := c.state.started + 1 }.setPhase id (.begun .explicit)
  have found : asked.state.requests[id]? = some (.ticketed c.state.started) := List.getElem?_concat_length
  have found' : admitted.requests[id]? = some (.admitted .explicit (some c.state.started)) :=
    ReloadState.getElem?_setPhase found
  have enters : asked.state.step? asked.setup id = some admitted := by
    unfold ReloadState.step? ReloadState.enter ReloadState.isFree
    rw [found, show asked.state.holder = none from free]
    rfl
  have begins : admitted.step? c.setup id = some begun := by
    unfold ReloadState.step? ReloadState.startReload
    rw [found']
    simp only [Option.any_some]
    -- No reload has begun since the ticket was taken, so the request is not coalesced.
    rw [if_neg (by simp [admitted, asked, ReloadState.setPhase, ReloadState.request])]
    rfl
  have first : asked.move? (.step id) = some { c with state := admitted } := move?_of_step? enters
  have second : ({ c with state := admitted } : Config L π).move? (.step id) =
      some { c with state := begun } := move?_of_step? begins
  exact ⟨{ c with state := begun }, run?_cons rfl (run?_cons first (run?_cons second rfl)),
    ReloadState.getElem?_setPhase found'⟩

end Config
end LiveConfig
