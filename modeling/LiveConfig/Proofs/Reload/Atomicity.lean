import LiveConfig.Proofs.Reload.Progress
import LiveConfig.Proofs.Reload.Publication

/-!
A reload publishes all of its candidate or nothing, however it ends, and then leaves the gate.
-/
namespace LiveConfig

open ListenerCall (BreaksOff vetoedKeys)

namespace Config

variable {L π : Type} {c d next : Config L π} {id : Nat} {m : Move L π} {result : ReloadEnd}

/-- An attempt that neither applies changes nor panics leaves the snapshot as it is, and its listeners
were at most asked. -/
private theorem Concluding.quiet {published : Snapshot} (concluding : c.Concluding id published result)
    (unapplied : result.isApplied = false) (calm : result.isPanic = false) :
    published = c.snapshot ∧ ∀ call ∈ c.callsBy id, call.isQuestion = true := by
  cases concluding with
  | coalesced same silent =>
    rw [silent]
    exact ⟨same, by simp⟩
  | failed same silent =>
    rw [silent]
    exact ⟨same, by simp⟩
  | finished _ conclusion =>
    cases conclusion with
    | refused _ asked => exact ⟨rfl, asked⟩
    | brokenAsking | brokenTelling => exact nomatch calm
    | applied => exact nomatch unapplied

/-- A new request that has ended at once was dropped, without a call of a listener. -/
private theorem dropped_of_ended (moved : c.move? m = some next)
    (ended : next.phase? c.state.requests.length = some (.ended result)) :
    result = .outcome .coalesced ∧ next.snapshot = c.snapshot ∧ next.state.holder = c.state.holder ∧
      ∀ hooks, (c.withHooks hooks).move? m = some (next.withHooks hooks) := by
  obtain ⟨-, ⟨id, -, stepped⟩ | ⟨outer, arrival⟩⟩ := move?_cases moved
  · obtain ⟨phase, found, passage⟩ := ReloadState.step?_passage stepped
    unfold phase? at ended
    rw [List.getElem?_eq_none (Nat.le_of_eq passage.length)] at ended
    exact nomatch ended
  · have unheard := move?_withHooks moved fun id eq => nomatch (eq ▸ outer : (Move.step id).stepper? = none)
    unfold phase? at ended
    cases arrival with
    | aside _ _ _ requests =>
      rw [requests, List.getElem?_eq_none (Nat.le_refl _)] at ended
      exact nomatch ended
    | apart which current _ holder requests =>
      rw [requests, List.getElem?_concat_length] at ended
      obtain rfl := Option.some.inj ended
      rcases which with which | which
      · exact nomatch which
      · exact ⟨Phase.ended.inj which, current, holder, unheard⟩
    | admitted _ _ _ _ requests =>
      rw [requests, List.getElem?_concat_length] at ended
      exact nomatch Option.some.inj ended

/-- However an attempt ends, it has published a whole candidate or nothing.  If it fails, is refused,
finds nothing to change or is served by another reload, and also if a listener breaks off when it is
asked, the snapshot is that of the time when the request got the gate, and no listener was told of
changes.  If a listener breaks off when it is told, the next snapshot is there as a whole.  An attempt
that fails does so for its locators, and calls no loader: it takes the same course with any others.  In
every case the gate is left to the first request that queues, or free; it comes free if only time passes
and requests take their steps; and then a new request begins its reload.  A request that does not get the
gate at once and does not queue has no effect at all. -/
theorem Reachable.all_or_nothing (reached : c.Reachable) :
    (∀ id moves d result, c.Attempt id moves d result →
      (result.isApplied = false → result.isPanic = false →
        d.snapshot = c.snapshot ∧ ∀ call ∈ callsOf id moves c, call.isQuestion = true) ∧
      (∀ p, result = .panicked p → ∃ last, BreaksOff (callsOf id moves c) last p ∧
        (last.isQuestion = true →
          d.snapshot = c.snapshot ∧ ∀ call ∈ callsOf id moves c, call.isQuestion = true) ∧
        (last.isQuestion = false → ∃ before after m candidate,
          moves = before ++ .step id :: after ∧ run? before c = some m ∧
          m.candidate? id = some candidate ∧
          d.snapshot.Succeeds c.snapshot candidate (vetoedKeys (callsOf id moves c)))) ∧
      (∀ e, result = .failed e →
        (∃ before after m, moves = before ++ .step id :: after ∧ run? before c = some m ∧
          (m.setup.pipeline.resolution m.world).result = .error e) ∧
        ∀ chain, run? moves (c.withChain chain) = some (d.withChain chain)) ∧
      ∃ left, d.move? (.step id) = some left ∧ left.phase? id = some (.ended result) ∧
        left.snapshot = d.snapshot ∧ left.state.holder = d.state.queue.head? ∧
        ∃ more free begun, run? more left = some free ∧ (∀ m ∈ more, m.isProgress = true) ∧
          free.state.holder = none ∧
          run? [.request, .step free.state.requests.length, .step free.state.requests.length] free =
            some begun ∧
          begun.phase? free.state.requests.length = some (.begun .explicit)) ∧
    ∀ m next result, c.move? m = some next →
      next.phase? c.state.requests.length = some (.ended result) →
      result = .outcome .coalesced ∧ next.snapshot = c.snapshot ∧ next.state.holder = c.state.holder ∧
        ∀ hooks, (c.withHooks hooks).move? m = some (next.withHooks hooks) := by
  refine ⟨?_, fun m next result => dropped_of_ended⟩
  intro id moves d result attempt
  have toward := attempt.toward reached
  obtain ⟨before, after, m, next, split, ran, setup, snapshot, here, last, calls⟩ :=
    toward.concluding_step
  have concluding := here.concluding
  rw [← last] at concluding
  rw [calls, ← snapshot]
  refine ⟨concluding.quiet, ?_, ?_, ?_⟩
  · rintro p rfl
    cases concluding with
    | finished found conclusion =>
      obtain ⟨last, broke, asking, telling⟩ := conclusion.of_panicked
      refine ⟨last, broke, asking, ?_⟩
      intro told
      exact ⟨before, after, m, _, split, ran, found, telling told⟩
  · rintro e rfl
    refine ⟨?_, toward.unloaded.2⟩
    cases concluding with
    | failed _ _ unresolved => exact ⟨before, after, m, split, ran, unresolved⟩
    | finished _ conclusion => exact absurd rfl (conclusion.ne_failed e)
  · obtain ⟨left, moved, ended, same, holder, -⟩ := leaves_of_concluded attempt.concluded
    have kept := gateKept_move? (reached.run attempt.runs).gateKept moved
    obtain ⟨more, free, drained, progress, empty⟩ := exists_free left kept
    obtain ⟨begun, ran', begins⟩ := begins_of_free empty
    exact ⟨left, moved, ended, same, holder, more, free, begun, drained, progress, empty, ran', begins⟩

theorem clock_all_or_nothing :
    ∃ (c d left : Config (String × Bool) Unit) (last : ListenerCall (String × Bool))
      (candidate : Candidate),
      c.Reachable ∧ c.Attempt 0 [.step 0, .step 0, .step 0] d (.panicked ⟨some "told"⟩) ∧
      BreaksOff (callsOf 0 [.step 0, .step 0, .step 0] c) last ⟨some "told"⟩ ∧
      last.isQuestion = false ∧ d.snapshot.Succeeds c.snapshot candidate ["a"] ∧
      d.move? (.step 0) = some left ∧ left.phase? 0 = some (.ended (.panicked ⟨some "told"⟩)) ∧
      left.state.holder = none := by
  obtain ⟨c, d, ran, moved, reached, attempt⟩ :=
    exists_clockAttempt true (.inr ⟨some "told"⟩) (by decide +kernel)
  have calls : (clockRequest? true).map (fun c =>
      let calls := callsOf 0 [.step 0, .step 0, .step 0] c
      (vetoedKeys calls, (calls.getLast?).map ListenerCall.isQuestion)) = some (["a"], some false) := by
    decide +kernel
  have queue : ((clockRequest? true).bind fun c => (run? [.step 0, .step 0, .step 0] c).map
      fun d => d.state.queue) = some [] := by decide +kernel
  rw [ran] at calls
  rw [ran, Option.bind_some, moved] at queue
  obtain ⟨refused, told⟩ := Prod.mk.inj (Option.some.inj calls)
  obtain ⟨attempts, -⟩ := reached.all_or_nothing
  obtain ⟨-, panics, -, left, leaves, ended, -, holder, -⟩ := attempts 0 _ d _ attempt
  obtain ⟨last, broke, -, telling⟩ := panics ⟨some "told"⟩ rfl
  have untold : last.isQuestion = false := by
    obtain ⟨-, before, split, -⟩ := broke
    rw [split, List.getLast?_concat] at told
    exact Option.some.inj told
  obtain ⟨before, after, m, candidate, -, -, -, succeeds⟩ := telling untold
  rw [refused] at succeeds
  have nobody : d.state.queue = [] := Option.some.inj queue
  rw [nobody] at holder
  exact ⟨c, d, left, last, candidate, reached, attempt, broke, untold, succeeds, leaves, ended, holder⟩

end Config
end LiveConfig
