import LiveConfig.Proofs.Reload.Run

/-!
What a step of the timer can do.

A waiting timer sees the first of its signals that is there.  A tick makes it ask for a reload, unless the
configuration is gone by then; its cancellation ends it.  A timer that has asked waits again as soon as
its reload has ended, whether it was cancelled in the meantime or not.
-/
namespace LiveConfig

variable {L π : Type}

theorem ReloadState.fst_tryRequest (s : ReloadState L π) (trigger : Trigger) :
    (s.tryRequest trigger).1 = s.requests.length := by
  unfold tryRequest
  split
  · rfl
  · rfl

namespace Timer

variable {t : Timer} {now : Nat} {order : List Signal}

/-- The end of its reload is at most logged. -/
theorem exists_scene_afterReload (t : Timer) (result : ReloadEnd) (s : ReloadState L π) :
    ∃ scene, (afterReload t result s).2 = { s with scene } := by
  unfold afterReload
  cases endLine? result with
  | none => exact ⟨s.scene, rfl⟩
  | some line => exact ⟨s.scene.note line, rfl⟩

end Timer

namespace Config

inductive TimerStep (c : Config L π) (order : List Timer.Signal) (t : Timer) : Config L π → Prop where
  | asks {h : HotReload} (reload : c.declaration.hotReload = some h) (waits : t.phase = .waiting)
      (first : order.find? (t.sees c.cancelled c.state.now) = some .tick) (there : c.dropped = false) :
      TimerStep c order t { c with
        state := (c.state.tryRequest .timer).2
        timer := some ⟨Timer.nextDue t.due (c.state.tryRequest .timer).2.now h.intervalMillis,
          .reloading c.state.requests.length⟩ }
  | vanishes (waits : t.phase = .waiting)
      (first : order.find? (t.sees c.cancelled c.state.now) = some .tick) (gone : c.dropped = true) :
      TimerStep c order t { c with timer := some { t with phase := .stopped } }
  | stops (waits : t.phase = .waiting)
      (first : order.find? (t.sees c.cancelled c.state.now) = some .cancelled) :
      TimerStep c order t { c with
        state := c.state.note Timer.stoppedLine, timer := some { t with phase := .stopped } }
  | resumes {id : Nat} {result : ReloadEnd} (reloads : t.phase = .reloading id)
      (ended : c.state.end? id = some result) :
      TimerStep c order t { c with
        state := (Timer.afterReload t result c.state).2, timer := some { t with phase := .waiting } }

variable {c next : Config L π} {order : List Timer.Signal}

theorem stepTimer?_eq_some_iff : c.stepTimer? order = some next ↔
    ∃ t h u state, c.timer = some t ∧ c.declaration.hotReload = some h ∧
      t.step? h.intervalMillis c.cancelled c.dropped order c.state = some (u, state) ∧
      next = { c with state, timer := some u } := by
  unfold stepTimer?
  constructor
  · intro moved
    split at moved
    · next t h timer reload =>
      obtain ⟨⟨u, state⟩, stepped, rfl⟩ := Option.map_eq_some_iff.mp moved
      exact ⟨t, h, u, state, timer, reload, stepped, rfl⟩
    · exact nomatch moved
  · rintro ⟨t, h, u, state, timer, reload, stepped, rfl⟩
    rw [timer, reload]
    dsimp only
    rw [stepped, Option.map_some]

theorem stepTimer?_cases (moved : c.stepTimer? order = some next) :
    ∃ t, c.timer = some t ∧ c.TimerStep order t next := by
  obtain ⟨t, h, u, state, timer, reload, stepped, rfl⟩ := stepTimer?_eq_some_iff.mp moved
  refine ⟨t, timer, ?_⟩
  unfold Timer.step? at stepped
  split at stepped
  · exact nomatch stepped
  · next waits =>
    obtain ⟨signal, first, reacted⟩ := Option.map_eq_some_iff.mp stepped
    cases signal with
    | cancelled =>
      obtain ⟨rfl, rfl⟩ := Prod.mk.inj reacted
      exact .stops waits first
    | tick =>
      unfold Timer.react at reacted
      dsimp only at reacted
      split at reacted
      · next gone =>
        obtain ⟨rfl, rfl⟩ := Prod.mk.inj reacted
        exact .vanishes waits first gone
      · next there =>
        obtain ⟨rfl, rfl⟩ := Prod.mk.inj reacted
        rw [ReloadState.fst_tryRequest]
        exact .asks reload waits first (Bool.eq_false_iff.mpr there)
  · next id reloads =>
    obtain ⟨result, ended, after⟩ := Option.map_eq_some_iff.mp stepped
    obtain ⟨rfl, rfl⟩ := Prod.mk.inj after
    exact .resumes reloads ended

end Config
end LiveConfig
