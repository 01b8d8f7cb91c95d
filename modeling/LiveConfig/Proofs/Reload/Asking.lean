import LiveConfig.Proofs.Reload.Ticking

/-!
How requests come.

A move is a step of a request, or it makes at most one request: a call makes an explicit one, a read that looks for
changes and a tick of the timer make one that does not wait.  Whatever else a move does stays in the scene.
-/
namespace LiveConfig.Config

variable {L π : Type} {c d : Config L π} {m : Move L π}

inductive Outer (c : Config L π) : Move L π → ReloadState L π → Prop where
  | called : Outer c .request c.state.request.2
  | looked (due : c.state.isCheckDue c.setup = true) :
      Outer c .access ({ c.state with lastCheck := c.state.now }.tryRequest .access).2
  | early (early : ¬ c.state.isCheckDue c.setup = true) : Outer c .access c.state
  | ticked {order : List Timer.Signal} : Outer c (.tick order) (c.state.tryRequest .timer).2
  | aside {m : Move L π} (other : m ≠ .access) (scene : Scene L π) : Outer c m { c.state with scene }

private theorem outer_access (c : Config L π) : c.Outer .access (c.state.access c.setup).2 := by
  unfold ReloadState.access
  split
  · next due => exact .looked due
  · next early => exact .early early

private theorem TimerStep.outer {order : List Timer.Signal} {t : Timer} (step : c.TimerStep order t d) :
    d.setup = c.setup ∧ c.Outer (.tick order) d.state := by
  have other : (.tick order : Move L π) ≠ .access := nofun
  cases step with
  | asks => exact ⟨rfl, .ticked⟩
  | vanishes | stops => exact ⟨rfl, .aside other _⟩
  | @resumes id result =>
    obtain ⟨scene, state⟩ := Timer.exists_scene_afterReload t result c.state
    exact ⟨rfl, state ▸ .aside other scene⟩

theorem step_or_outer (moved : c.move? m = some d) :
    d.setup = c.setup ∧
      ((∃ id, m = .step id ∧ c.state.step? c.setup id = some d.state) ∨
        m.stepper? = none ∧ c.Outer m d.state) := by
  cases m with
  | step id =>
    obtain ⟨state, stepped, rfl⟩ := Option.map_eq_some_iff.mp moved
    exact ⟨rfl, Or.inl ⟨id, rfl, stepped⟩⟩
  | request =>
    obtain rfl := Option.some.inj moved
    exact ⟨rfl, Or.inr ⟨rfl, .called⟩⟩
  | access =>
    obtain rfl := Option.some.inj moved
    exact ⟨rfl, Or.inr ⟨rfl, outer_access c⟩⟩
  | tick order =>
    obtain ⟨t, -, step⟩ := stepTimer?_cases moved
    exact ⟨step.outer.1, Or.inr ⟨rfl, step.outer.2⟩⟩
  | stop =>
    obtain rfl := Option.some.inj moved
    unfold stopReloading
    split
    · exact ⟨rfl, Or.inr ⟨rfl, .aside (by simp) c.state.scene⟩⟩
    · exact ⟨rfl, Or.inr ⟨rfl, .aside (by simp) _⟩⟩
  | register | unregister | drop | wait | surround =>
    obtain rfl := Option.some.inj moved
    exact ⟨rfl, Or.inr ⟨rfl, .aside (by simp) _⟩⟩

end LiveConfig.Config
