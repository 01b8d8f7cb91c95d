import LiveConfig.Proofs.Change.Difference
import LiveConfig.Reload.Outcome

/-!
Calls of listeners, in the order in which they are made.

Listeners that record their calls do what they do without that, and keep the calls beside the state of
the plugins.  So the calls of a reload are read off a run of the reload itself.
-/
namespace LiveConfig

inductive ListenerCall (L : Type) where
  | beforeChange (listener : L) (change : Change) (answer : Except Panic Verdict)
  | beforeBatch (listener : L) (changes : ChangeSet) (answer : Except Panic Verdict)
  | changed (listener : L) (change : Change) (answer : Except Panic Unit)
  | reloaded (listener : L) (changes : ChangeSet) (snapshot : Snapshot) (answer : Except Panic Unit)

namespace ListenerCall

variable {L : Type}

def listener : ListenerCall L → L
  | .beforeChange l _ _ | .beforeBatch l _ _ | .changed l _ _ | .reloaded l _ _ _ => l

def isQuestion : ListenerCall L → Bool
  | .beforeChange _ _ _ | .beforeBatch _ _ _ => true
  | .changed _ _ _ | .reloaded _ _ _ _ => false

def shown : ListenerCall L → List Change
  | .beforeChange _ c _ | .changed _ c _ => [c]
  | .beforeBatch _ set _ | .reloaded _ set _ _ => set.changes

private def errorOf? {α : Type} : Except Panic α → Option Panic
  | .ok _ => none
  | .error p => some p

def panic? : ListenerCall L → Option Panic
  | .beforeChange _ _ answer | .beforeBatch _ _ answer => errorOf? answer
  | .changed _ _ answer | .reloaded _ _ _ answer => errorOf? answer

def vetoedKey? : ListenerCall L → Option String
  | .beforeChange _ c (.ok .vetoKey) => some c.key
  | _ => none

def vetoedKeys (calls : List (ListenerCall L)) : List String := calls.filterMap vetoedKey?

theorem vetoedKeys_append (first second : List (ListenerCall L)) :
    vetoedKeys (first ++ second) = vetoedKeys first ++ vetoedKeys second :=
  List.filterMap_append

theorem vetoedKeys_eq_nil {calls : List (ListenerCall L)} (h : ∀ call ∈ calls, ¬ call.isQuestion) :
    vetoedKeys calls = [] := by
  apply List.filterMap_eq_nil_iff.mpr
  intro call mem
  cases call with
  | changed | reloaded => rfl
  | beforeChange | beforeBatch => exact absurd rfl (h _ mem)

def BreaksOff (calls : List (ListenerCall L)) (last : ListenerCall L) (p : Panic) : Prop :=
  last.panic? = some p ∧ ∃ before, calls = before ++ [last] ∧ ∀ call ∈ before, call.panic? = none

theorem BreaksOff.append {made more : List (ListenerCall L)} {last : ListenerCall L} {p : Panic}
    (broke : BreaksOff more last p) (quiet : ∀ call ∈ made, call.panic? = none) :
    BreaksOff (made ++ more) last p := by
  obtain ⟨fell, before, rfl, quiet'⟩ := broke
  refine ⟨fell, made ++ before, (List.append_assoc ..).symm, ?_⟩
  intro call mem
  rcases List.mem_append.mp mem with mem | mem
  · exact quiet call mem
  · exact quiet' call mem

theorem BreaksOff.mem {calls : List (ListenerCall L)} {last : ListenerCall L} {p : Panic}
    (broke : BreaksOff calls last p) : last ∈ calls := by
  obtain ⟨-, before, rfl, -⟩ := broke
  exact List.mem_append_right _ (List.mem_singleton_self last)

def Fit {α : Type} (post : List (ListenerCall L) → α → Prop) (calls : List (ListenerCall L)) :
    Except Panic α → Prop
  | .ok a => (∀ call ∈ calls, call.panic? = none) ∧ post calls a
  | .error p => ∃ last, BreaksOff calls last p

private theorem Fit.mono {α : Type} {post post' : List (ListenerCall L) → α → Prop}
    {calls : List (ListenerCall L)} {answer : Except Panic α} (fits : Fit post calls answer)
    (suits : ∀ a, post calls a → post' calls a) : Fit post' calls answer := by
  cases answer with
  | ok a => exact ⟨fits.1, suits a fits.2⟩
  | error p => exact fits

private theorem Fit.append {α : Type} {post : List (ListenerCall L) → α → Prop}
    {made more : List (ListenerCall L)} {answer : Except Panic α}
    (fits : Fit (fun more a => post (made ++ more) a) more answer)
    (quiet : ∀ call ∈ made, call.panic? = none) : Fit post (made ++ more) answer := by
  cases answer with
  | ok a =>
    refine ⟨?_, fits.2⟩
    intro call mem
    rcases List.mem_append.mp mem with mem | mem
    · exact quiet call mem
    · exact fits.1 call mem
  | error p =>
    obtain ⟨last, broke⟩ := fits
    exact ⟨last, broke.append quiet⟩

end ListenerCall

namespace Scene

variable {L π : Type}

def keeping (s : Scene L π) (calls : List (ListenerCall L)) :
    Scene L (π × List (ListenerCall L)) :=
  ⟨s.registry, ⟨s.world.outside, s.world.log, s.world.plugins, calls⟩⟩

def plain (s : Scene L (π × List (ListenerCall L))) : Scene L π :=
  ⟨s.registry, ⟨s.world.outside, s.world.log, s.world.plugins.1⟩⟩

def calls (s : Scene L (π × List (ListenerCall L))) : List (ListenerCall L) := s.world.plugins.2

theorem note_keeping (s : Scene L π) (calls : List (ListenerCall L)) (line : LogLine) :
    (s.keeping calls).note line = (s.note line).keeping calls := rfl

end Scene

section

variable {L π α β : Type}

def Hook.recorded (run : Hook (Scene L π) α) (call : Except Panic α → ListenerCall L) :
    Hook (Scene L (π × List (ListenerCall L))) α :=
  fun s =>
    let (answer, after) := run.run s.plain
    (answer, after.keeping (s.calls ++ [call answer]))

theorem Hook.run_bind {σ : Type} (m : Hook σ α) (f : α → Hook σ β) (s : σ) :
    (m >>= f).run s = match m.run s with
      | (.ok a, after) => (f a).run after
      | (.error p, after) => (.error p, after) := by
  change (m.run >>= ExceptT.bindCont f) s = _
  rcases ran : m.run s with ⟨p | a, after⟩
  · change (let (answer, after) := m.run s; ExceptT.bindCont f answer after) = _
    rw [ran]
    rfl
  · change (let (answer, after) := m.run s; ExceptT.bindCont f answer after) = _
    rw [ran]
    rfl

def Listeners.recording (hooks : Listeners L π) : Listeners L (π × List (ListenerCall L)) :=
  fun published => {
    kind := (hooks published).kind
    beforeChange := fun l c => ((hooks published).beforeChange l c).recorded (.beforeChange l c)
    beforeBatch := fun l set => ((hooks published).beforeBatch l set).recorded (.beforeBatch l set)
    changed := fun l c => ((hooks published).changed l c).recorded (.changed l c)
    reloaded := fun l set s => ((hooks published).reloaded l set s).recorded (.reloaded l set s)
    note := fun line s => ((hooks published).note line s.plain).keeping s.calls }

/-- A recorded run ends as the plain one does, and adds calls to the record: all of them are among those
that are meant, they fit how the run ends, and they suit a result. -/
def Traced (meant : ListenerCall L → Prop) (plain : Hook (Scene L π) α)
    (recorded : Hook (Scene L (π × List (ListenerCall L))) α)
    (post : List (ListenerCall L) → α → Prop) : Prop :=
  ∀ s calls, ∃ made,
    recorded.run (s.keeping calls) = ((plain.run s).1, (plain.run s).2.keeping (calls ++ made)) ∧
    (∀ call ∈ made, meant call) ∧ ListenerCall.Fit post made (plain.run s).1

namespace Traced

variable {meant : ListenerCall L → Prop} {m : Hook (Scene L π) α}
  {m' : Hook (Scene L (π × List (ListenerCall L))) α} {post : List (ListenerCall L) → α → Prop}

theorem pure {a : α} (h : post [] a) :
    Traced meant (Pure.pure a : Hook (Scene L π) α) (Pure.pure a) post := by
  intro s calls
  refine ⟨[], ?_, ?_, ?_, h⟩
  · rw [List.append_nil]
    rfl
  · intro call mem
    exact nomatch mem
  · intro call mem
    exact nomatch mem

theorem bind {f : α → Hook (Scene L π) β} {f' : α → Hook (Scene L (π × List (ListenerCall L))) β}
    {result : List (ListenerCall L) → β → Prop} (first : Traced meant m m' post)
    (next : ∀ a made, post made a → Traced meant (f a) (f' a) fun more b => result (made ++ more) b) :
    Traced meant (m >>= f) (m' >>= f') result := by
  intro s calls
  obtain ⟨made, ran, means, fits⟩ := first s calls
  rw [Hook.run_bind, Hook.run_bind, ran]
  generalize m.run s = outcome at fits ⊢
  obtain ⟨answer, after⟩ := outcome
  cases answer with
  | error p => exact ⟨made, rfl, means, fits⟩
  | ok a =>
    obtain ⟨quiet, suits⟩ := fits
    obtain ⟨more, later, means', fits⟩ := next a made suits after (calls ++ made)
    refine ⟨made ++ more, ?_, ?_, fits.append quiet⟩
    · rw [← List.append_assoc]
      exact later
    · intro call mem
      rcases List.mem_append.mp mem with mem | mem
      · exact means call mem
      · exact means' call mem

theorem mono {meant' : ListenerCall L → Prop} {post' : List (ListenerCall L) → α → Prop}
    (h : Traced meant m m' post) (means : ∀ call, meant call → meant' call)
    (suits : ∀ made a, post made a → post' made a) : Traced meant' m m' post' := by
  intro s calls
  obtain ⟨made, ran, means', fits⟩ := h s calls
  exact ⟨made, ran, fun call mem => means call (means' call mem), fits.mono (suits made)⟩

/-- A call of a hook is recorded with its answer. -/
theorem call {call : Except Panic α → ListenerCall L} (means : ∀ s, meant (call (m.run s).1))
    (quiet : ∀ a, (call (.ok a)).panic? = none) (breaks : ∀ p, (call (.error p)).panic? = some p) :
    Traced meant m (m.recorded call) fun made a => made = [call (.ok a)] := by
  intro s calls
  refine ⟨[call (m.run s).1], rfl, ?_, ?_⟩
  · intro c mem
    rw [List.mem_singleton.mp mem]
    exact means _
  · rcases m.run s with ⟨p | a, after⟩
    · exact ⟨call (.error p), breaks p, [], rfl, fun c mem => nomatch mem⟩
    · refine ⟨?_, rfl⟩
      intro c mem
      rw [List.mem_singleton.mp mem]
      exact quiet a

end Traced

namespace Transaction

variable (hooks : Listeners L π) (published : Snapshot)

def Asks (hooks : Hooks L (Scene L π)) (listeners : List L) (call : ListenerCall L) : Prop :=
  call.isQuestion = true ∧ call.listener ∈ listeners ∧ hooks.kind call.listener = .transactional

theorem note_traced {meant : ListenerCall L → Prop} (line : LogLine) :
    Traced meant (note (hooks published) line) (note (hooks.recording published) line)
      fun made _ => made = [] := by
  intro s calls
  refine ⟨[], ?_, ?_, ?_, rfl⟩
  · rw [List.append_nil]
    rfl
  · intro call mem
    exact nomatch mem
  · intro call mem
    exact nomatch mem

end Transaction
end
end LiveConfig
