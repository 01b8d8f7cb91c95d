import LiveConfig.Proofs.Reload.Asking

/-!
The gate: at most one request is inside, and what waits for the gate waits in the queue.

A step matters for the gate only by where it takes its request: apart, waiting or inside.  So the
invariant speaks of that alone, and steps that stay inside are one case.
-/
namespace LiveConfig

inductive Stance where
  | apart
  | waiting
  | inside
  deriving DecidableEq

def Phase.stance {π : Type} : Phase π → Stance
  | .ticketed _ | .ended _ => .apart
  | .queued _ => .waiting
  | .admitted _ _ | .begun _ | .loading _ _ | .concluded _ => .inside

def Phase.isUnderway {π : Type} : Phase π → Bool
  | .queued _ | .admitted _ _ | .begun _ | .loading _ _ => true
  | .ticketed _ | .concluded _ | .ended _ => false

namespace ReloadState

variable {L π : Type} {r : ReloadSetup L π} {s t : ReloadState L π} {id : Nat}

def stance? (s : ReloadState L π) (id : Nat) : Option Stance := (s.requests[id]?).map Phase.stance

def line (s : ReloadState L π) : List Nat := s.holder.toList ++ s.queue

/-- The line consists of the requests that wait or are inside, once each; none but the first of them is
inside, and nobody queues for a free gate. -/
structure GateKept (s : ReloadState L π) : Prop where
  members : ∀ id, id ∈ s.line ↔ s.stance? id = some .waiting ∨ s.stance? id = some .inside
  nodup : s.line.Nodup
  inside : ∀ id, s.stance? id = some .inside → s.holder = some id
  free : s.holder = none → s.queue = []

inductive Passage (s : ReloadState L π) (id : Nat) : Phase π → ReloadState L π → Prop where
  | enters {ticket : Nat} {t : ReloadState L π} (free : s.holder = none)
      (current : t.current = s.current) (holder : t.holder = some id) (queue : t.queue = s.queue)
      (requests : t.requests = s.requests.set id (.admitted .explicit (some ticket))) :
      Passage s id (.ticketed ticket) t
  | queues {ticket : Nat} {t : ReloadState L π} (taken : s.holder ≠ none)
      (current : t.current = s.current) (holder : t.holder = s.holder) (queue : t.queue = s.queue ++ [id])
      (requests : t.requests = s.requests.set id (.queued ticket)) :
      Passage s id (.ticketed ticket) t
  | goesOn {phase next : Phase π} {t : ReloadState L π}
      (underway : phase.isUnderway = true) (holds : phase.stance = .inside ∨ s.holder = some id)
      (inside : next.stance = .inside) (holder : t.holder = s.holder) (queue : t.queue = s.queue)
      (requests : t.requests = s.requests.set id next) : Passage s id phase t
  | leaves {result : ReloadEnd} {t : ReloadState L π} (current : t.current = s.current)
      (holder : t.holder = s.queue.head?) (queue : t.queue = s.queue.tail)
      (requests : t.requests = s.requests.set id (.ended result)) :
      Passage s id (.concluded result) t

theorem Passage.others {phase : Phase π} (passage : s.Passage id phase t) {other : Nat}
    (ne : other ≠ id) : t.requests[other]? = s.requests[other]? := by
  cases passage with
  | enters _ _ _ _ requests | queues _ _ _ _ requests | goesOn _ _ _ _ _ requests
  | leaves _ _ _ requests =>
    rw [requests, List.getElem?_set_ne (Ne.symm ne)]

theorem Passage.length {phase : Phase π} (passage : s.Passage id phase t) :
    t.requests.length = s.requests.length := by
  cases passage with
  | enters _ _ _ _ requests | queues _ _ _ _ requests | goesOn _ _ _ _ _ requests
  | leaves _ _ _ requests =>
    rw [requests, List.length_set]

theorem step?_passage (stepped : s.step? r id = some t) :
    ∃ phase, s.requests[id]? = some phase ∧ s.Passage id phase t := by
  unfold step? at stepped
  split at stepped
  · simp at stepped
  · next phase found =>
    refine ⟨phase, found, ?_⟩
    cases phase with
    | ticketed ticket =>
      obtain rfl := Option.some.inj stepped
      unfold enter isFree
      cases holder : s.holder with
      | none => exact .enters holder rfl rfl rfl rfl
      | some other => exact .queues (by simp [holder]) rfl holder.symm rfl rfl
    | queued ticket =>
      dsimp only at stepped
      split at stepped
      · next holds =>
        obtain rfl := Option.some.inj stepped
        exact .goesOn rfl (Or.inr holds) rfl rfl rfl rfl
      · simp at stepped
    | admitted trigger ticket =>
      obtain rfl := Option.some.inj stepped
      unfold startReload
      split
      · exact .goesOn rfl (Or.inl rfl) rfl rfl rfl rfl
      · exact .goesOn rfl (Or.inl rfl) rfl rfl rfl rfl
    | begun trigger =>
      obtain rfl := Option.some.inj stepped
      unfold beginPass
      split
      · exact .goesOn rfl (Or.inl rfl) rfl rfl rfl rfl
      · exact .goesOn rfl (Or.inl rfl) rfl rfl rfl rfl
    | loading trigger pass =>
      dsimp only at stepped
      unfold continuePass? at stepped
      split at stepped
      · obtain rfl := Option.some.inj stepped
        exact .goesOn rfl (Or.inl rfl) rfl rfl rfl rfl
      · split at stepped
        · obtain rfl := Option.some.inj stepped
          exact .goesOn rfl (Or.inl rfl) rfl rfl rfl rfl
        · simp at stepped
    | concluded result =>
      obtain rfl := Option.some.inj stepped
      unfold release
      split
      · next empty => exact .leaves rfl (by simp [setPhase, empty]) (by simp [setPhase, empty]) rfl
      · next next rest queued => exact .leaves rfl (by simp [setPhase, queued]) (by simp [setPhase, queued]) rfl
    | ended result => simp at stepped

theorem stance?_eq_some {phase : Phase π} (found : s.requests[id]? = some phase) :
    s.stance? id = some phase.stance := by
  unfold stance?
  rw [found]
  rfl

private theorem stance?_of_set {old phase : Phase π} (found : s.requests[id]? = some old)
    (requests : t.requests = s.requests.set id phase) (other : Nat) :
    t.stance? other = if other = id then some phase.stance else s.stance? other := by
  have lt : id < s.requests.length := (List.getElem?_eq_some_iff.mp found).1
  unfold stance?
  rw [requests, List.getElem?_set]
  by_cases same : id = other
  · simp [same, same ▸ lt]
  · simp [same, Ne.symm same]

/-- The requests of `t` are those of `s`, and at most one that is new and stands apart. -/
private theorem stance?_of_append {phase : Phase π} (requests : t.requests = s.requests ++ [phase])
    (other : Nat) :
    t.stance? other = if other = s.requests.length then some phase.stance else s.stance? other := by
  unfold stance?
  rw [requests]
  by_cases same : other = s.requests.length
  · simp [same]
  · rw [if_neg same, List.getElem?_append]
    split
    · rfl
    · next beyond =>
      have gt : s.requests.length < other := by omega
      rw [List.getElem?_eq_none (by simp; omega), List.getElem?_eq_none (by omega)]

theorem line_of_holder {id : Nat} (holds : s.holder = some id) : s.line = id :: s.queue := by
  unfold line
  rw [holds]
  rfl

namespace GateKept

/-- Where one request changes its stance, the others are in the line as before. -/
private theorem members_of {phase : Phase π} (kept : s.GateKept)
    (stance : ∀ other, t.stance? other = if other = id then some phase.stance else s.stance? other)
    (others : ∀ other, other ≠ id → (other ∈ t.line ↔ other ∈ s.line))
    (here : id ∈ t.line ↔ phase.stance = .waiting ∨ phase.stance = .inside) (other : Nat) :
    other ∈ t.line ↔ t.stance? other = some .waiting ∨ t.stance? other = some .inside := by
  rw [stance other]
  by_cases same : other = id
  · subst same
    simpa using here
  · rw [if_neg same, others other same]
    exact kept.members other

private theorem of_taking {phase : Phase π} (kept : s.GateKept)
    (stance : ∀ other, t.stance? other = if other = id then some phase.stance else s.stance? other)
    (inside : phase.stance = .inside) (free : s.holder = none) (holder : t.holder = some id)
    (queue : t.queue = s.queue) : t.GateKept := by
  have empty : s.line = [] := by
    unfold line
    rw [free, kept.free free]
    rfl
  have alone : t.line = [id] := by
    rw [line_of_holder holder, queue, kept.free free]
  refine ⟨?_, ?_, ?_, ?_⟩
  · apply kept.members_of stance
    · intro other ne
      simp [alone, empty, ne]
    · simp [alone, inside]
  · rw [alone]
    exact List.nodup_singleton id
  · intro other inside'
    rw [stance other] at inside'
    split at inside'
    · next same => rw [same, holder]
    · exact absurd (kept.inside other inside') (by simp [free])
  · intro none_holds
    exact absurd (holder.symm.trans none_holds) (by simp)

private theorem of_queueing {phase : Phase π} (kept : s.GateKept)
    (stance : ∀ other, t.stance? other = if other = id then some phase.stance else s.stance? other)
    (waiting : phase.stance = .waiting) (absent : id ∉ s.line) (taken : s.holder ≠ none)
    (holder : t.holder = s.holder) (queue : t.queue = s.queue ++ [id]) : t.GateKept := by
  have longer : t.line = s.line ++ [id] := by
    unfold line
    rw [holder, queue, List.append_assoc]
  refine ⟨?_, ?_, ?_, ?_⟩
  · apply kept.members_of stance
    · intro other ne
      simp [longer, ne]
    · simp [longer, waiting]
  · rw [longer]
    apply List.nodup_append.mpr
    refine ⟨kept.nodup, List.nodup_singleton id, ?_⟩
    rintro other mem _ at_end rfl
    exact absent (List.mem_singleton.mp at_end ▸ mem)
  · intro other inside
    rw [stance other] at inside
    split at inside
    · rw [waiting] at inside
      exact nomatch Option.some.inj inside
    · rw [holder]
      exact kept.inside other inside
  · intro none_holds
    exact absurd (holder.symm.trans none_holds) taken

/-- The line stays, and so does the place of a request in it or beside it. -/
private theorem of_staying {phase : Phase π} (kept : s.GateKept)
    (stance : ∀ other, t.stance? other = if other = id then some phase.stance else s.stance? other)
    (here : id ∈ s.line ↔ phase.stance = .waiting ∨ phase.stance = .inside)
    (holds : phase.stance = .inside → s.holder = some id) (holder : t.holder = s.holder)
    (queue : t.queue = s.queue) : t.GateKept := by
  have same_line : t.line = s.line := by
    unfold line
    rw [holder, queue]
  refine ⟨?_, ?_, ?_, ?_⟩
  · apply kept.members_of stance
    · intro other _
      rw [same_line]
    · rw [same_line, here]
  · rw [same_line]
    exact kept.nodup
  · intro other inside
    rw [stance other] at inside
    rw [holder]
    split at inside
    · next same => rw [same, holds (Option.some.inj inside)]
    · exact kept.inside other inside
  · intro none_holds
    rw [queue]
    exact kept.free (holder.symm.trans none_holds)

private theorem of_leaving {phase : Phase π} (kept : s.GateKept)
    (stance : ∀ other, t.stance? other = if other = id then some phase.stance else s.stance? other)
    (apart : phase.stance = .apart) (holds : s.holder = some id) (holder : t.holder = s.queue.head?)
    (queue : t.queue = s.queue.tail) : t.GateKept := by
  have line := line_of_holder holds
  have shorter : t.line = s.queue := by
    unfold ReloadState.line
    rw [holder, queue]
    cases s.queue with
    | nil => rfl
    | cons => rfl
  have nodup := kept.nodup
  rw [line] at nodup
  obtain ⟨gone, nodup⟩ := List.nodup_cons.mp nodup
  refine ⟨?_, ?_, ?_, ?_⟩
  · apply kept.members_of stance
    · intro other ne
      simp [shorter, line, ne]
    · simp [shorter, gone, apart]
  · rw [shorter]
    exact nodup
  · intro other inside
    rw [stance other] at inside
    split at inside
    · rw [apart] at inside
      exact nomatch Option.some.inj inside
    · next ne => exact absurd (Option.some.inj ((kept.inside other inside).symm.trans holds)) ne
  · intro none_holds
    rw [queue, List.head?_eq_none_iff.mp (holder.symm.trans none_holds)]
    rfl

private theorem passage {phase : Phase π} (kept : s.GateKept) (found : s.requests[id]? = some phase)
    (passage : s.Passage id phase t) : t.GateKept := by
  have at_id := stance?_eq_some found
  cases passage with
  | enters free _ holder queue requests =>
    exact kept.of_taking (stance?_of_set found requests) rfl free holder queue
  | queues taken _ holder queue requests =>
    have absent : id ∉ s.line := by
      rw [kept.members id, at_id]
      simp [Phase.stance]
    exact kept.of_queueing (stance?_of_set found requests) rfl absent taken holder queue
  | goesOn _ holds inside holder queue requests =>
    have holds : s.holder = some id := by
      rcases holds with inside | holds
      · exact kept.inside id (inside ▸ at_id)
      · exact holds
    apply kept.of_staying (stance?_of_set found requests) _ (fun _ => holds) holder queue
    simp [line_of_holder holds, inside]
  | leaves _ holder queue requests =>
    exact kept.of_leaving (stance?_of_set found requests) rfl (kept.inside id at_id) holder queue

end GateKept

inductive Arrival (s t : ReloadState L π) : Prop where
  | aside (current : t.current = s.current) (queue : t.queue = s.queue) (holder : t.holder = s.holder)
      (requests : t.requests = s.requests)
  | apart {phase : Phase π} (which : phase = .ticketed s.started ∨ phase = .ended (.outcome .coalesced))
      (current : t.current = s.current) (queue : t.queue = s.queue) (holder : t.holder = s.holder)
      (requests : t.requests = s.requests ++ [phase])
  | admitted {trigger : Trigger} (free : s.holder = none) (current : t.current = s.current)
      (queue : t.queue = s.queue) (holder : t.holder = some s.requests.length)
      (requests : t.requests = s.requests ++ [.admitted trigger none])

namespace Arrival

theorem current (arrival : s.Arrival t) : t.current = s.current := by
  cases arrival with
  | aside current | apart _ current | admitted _ current => exact current

theorem requests (arrival : s.Arrival t) {id : Nat} {phase : Phase π}
    (found : s.requests[id]? = some phase) : t.requests[id]? = some phase := by
  have lt : id < s.requests.length := (List.getElem?_eq_some_iff.mp found).1
  cases arrival with
  | aside _ _ _ requests => rw [requests, found]
  | apart _ _ _ _ requests => rw [requests, List.getElem?_append_left lt, found]
  | admitted _ _ _ _ requests => rw [requests, List.getElem?_append_left lt, found]

theorem holder (arrival : s.Arrival t) {id : Nat} (holds : s.holder = some id) :
    t.holder = some id := by
  cases arrival with
  | aside _ _ holder => rw [holder, holds]
  | apart _ _ _ holder => rw [holder, holds]
  | admitted free => exact absurd (free.symm.trans holds) (by simp)

theorem tryRequest (s : ReloadState L π) (trigger : Trigger) (lastCheck : Nat) :
    s.Arrival ({ s with lastCheck }.tryRequest trigger).2 := by
  unfold ReloadState.tryRequest isFree
  cases holder : s.holder with
  | none => exact .admitted holder rfl rfl rfl rfl
  | some id => exact .apart (Or.inr rfl) rfl rfl holder.symm rfl

end Arrival

private theorem GateKept.arrival (kept : s.GateKept) (arrival : s.Arrival t) : t.GateKept := by
  have absent : s.requests.length ∉ s.line := by
    rw [kept.members]
    simp [stance?]
  cases arrival with
  | aside _ queue holder requests =>
    have same_line : t.line = s.line := by
      unfold line
      rw [holder, queue]
    have stance : ∀ other, t.stance? other = s.stance? other := by
      intro other
      unfold stance?
      rw [requests]
    refine ⟨?_, ?_, ?_, ?_⟩
    · intro other
      rw [same_line, stance other]
      exact kept.members other
    · rw [same_line]
      exact kept.nodup
    · intro other inside
      rw [holder]
      exact kept.inside other (stance other ▸ inside)
    · intro none_holds
      rw [queue]
      exact kept.free (holder.symm.trans none_holds)
  | @apart phase which _ queue holder requests =>
    have at_new : phase.stance = .apart := by
      rcases which with rfl | rfl
      · rfl
      · rfl
    apply kept.of_staying (stance?_of_append requests) _ _ holder queue
    · simp [absent, at_new]
    · intro inside
      rw [at_new] at inside
      exact nomatch inside
  | admitted free _ queue holder requests =>
    exact kept.of_taking (stance?_of_append requests) rfl free holder queue

end ReloadState

theorem Plan.state_of_build {L π : Type} {p : Plan π} {hooks : Listeners L π} {w : World π}
    {first : Config L π} (built : (p.build hooks w).1 = .ok first) :
    ∃ candidate after, first.state = .initial candidate after := by
  unfold build at built
  split at built
  · exact nomatch built
  · split at built
    · exact nomatch built
    · next candidate after _ =>
      obtain rfl := Except.ok.inj built
      exact ⟨candidate, _, rfl⟩

namespace Config

open ReloadState (Arrival)

variable {L π : Type} {c d : Config L π} {m : Move L π}

private theorem Outer.arrival {s : ReloadState L π} (change : c.Outer m s) : c.state.Arrival s := by
  cases change with
  | called => exact .apart (Or.inl rfl) rfl rfl rfl rfl
  | looked => exact Arrival.tryRequest c.state .access c.state.now
  | ticked => exact Arrival.tryRequest c.state .timer c.state.lastCheck
  | early | aside => exact .aside rfl rfl rfl rfl

/-- Every move is a step of a request, or leaves the requests that are there alone. -/
theorem move?_cases (moved : c.move? m = some d) :
    d.setup = c.setup ∧
      ((∃ id, m = .step id ∧ c.state.step? c.setup id = some d.state) ∨
        m.stepper? = none ∧ c.state.Arrival d.state) := by
  obtain ⟨setup, stepped | ⟨outer, change⟩⟩ := step_or_outer moved
  · exact ⟨setup, Or.inl stepped⟩
  · exact ⟨setup, Or.inr ⟨outer, change.arrival⟩⟩

theorem gateKept_move? (kept : c.state.GateKept) (moved : c.move? m = some d) : d.state.GateKept := by
  obtain ⟨-, ⟨id, -, stepped⟩ | ⟨-, arrival⟩⟩ := move?_cases moved
  · obtain ⟨phase, found, passage⟩ := ReloadState.step?_passage stepped
    exact kept.passage found passage
  · exact kept.arrival arrival

theorem Reachable.gateKept (reached : c.Reachable) : c.state.GateKept := by
  apply reached.induction
  · intro p hooks w first built
    obtain ⟨candidate, after, state⟩ := Plan.state_of_build built
    rw [state]
    refine ⟨?_, List.nodup_nil, ?_, fun _ => rfl⟩
    · intro id
      simp [ReloadState.line, ReloadState.initial, ReloadState.stance?]
    · intro id inside
      simp [ReloadState.initial, ReloadState.stance?] at inside
  · intro c m d kept moved
    exact gateKept_move? kept moved

end Config
end LiveConfig
