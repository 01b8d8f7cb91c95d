import LiveConfig.Proofs.Reload.OnAccess
import LiveConfig.Proofs.Reload.Publication
import LiveConfig.Session.Run

/-!
Sessions as runs.

Whatever a session does with its configuration is a run of moves, so what holds of all runs holds of sessions.  A
step that reads what is published begins with one look for changes, and no other step looks for any: reads through a
view go by without one, and so do requests, the timer and the clock.  So the reads of a session keep the interval.
-/
namespace LiveConfig.Session

open Config (Access accessesIn run?)
open Stock (StockListener Journal)

def Leads (s : Session) (reads : List Access) (t : Session) : Prop :=
  ∃ moves, run? moves s.config = some t.config ∧ accessesIn moves s.config = reads

variable {s t u : Session} {reads more : List Access}

namespace Leads

private theorem of_config_eq (same : s.config = t.config) : s.Leads [] t := ⟨[], congrArg some same, rfl⟩

private theorem trans (first : s.Leads reads t) (second : t.Leads more u) : s.Leads (reads ++ more) u := by
  obtain ⟨moves, ran, rfl⟩ := first
  obtain ⟨later, went_on, rfl⟩ := second
  exact ⟨moves ++ later, Config.run?_append ran went_on, Config.accessesIn_append ran⟩

private theorem of_move (m : Move StockListener Journal) (moved : s.config.move? m = some t.config) :
    s.Leads (s.config.accessBy? m).toList t := by
  refine ⟨[m], ?_, ?_⟩
  · simp only [run?, moved]
  · exact Config.accessesIn_singleton moved

private theorem setWorld (s : Session) (w : World Journal) : s.Leads [] (s.setWorld w) :=
  of_move (.surround w) rfl

end Leads

private theorem leads_advance (s : Session) (request : Nat) : s.Leads [] (s.advance request) := by
  -- The state is followed by itself, as it is what the recursion is on.
  have steps (r : ReloadSetup StockListener Journal) (state : ReloadState StockListener Journal) :
      ∀ c : Config StockListener Journal, c.setup = r → c.state = state →
        ∃ moves, run? moves c = some { c with state := state.advance r request } ∧ accessesIn moves c = [] := by
    fun_induction ReloadState.advance r request state with
    | case1 state stuck =>
      rintro c - rfl
      exact ⟨[], rfl, rfl⟩
    | case2 state next stepped waits =>
      rintro c rfl rfl
      have moved : c.move? (.step request) = some { c with state := next } := Config.move?_of_step? stepped
      exact ⟨[.step request], by simp only [run?, moved], Config.accessesIn_singleton moved⟩
    | case3 state next stepped ready ih =>
      rintro c rfl rfl
      have moved : c.move? (.step request) = some { c with state := next } := Config.move?_of_step? stepped
      obtain ⟨moves, ran, none⟩ := ih { c with state := next } rfl rfl
      refine ⟨.step request :: moves, ?_, ?_⟩
      · simp only [run?, moved]
        exact ran
      · rw [Config.accessesIn_cons moved, none]
        rfl
  exact steps s.config.setup s.config.state s.config rfl rfl

private theorem leads_readThrough (s : Session) (view : View Journal) (target : Target) (read : Read) :
    s.Leads [] (s.readThrough view target read).2 := by
  cases read with
  | get name arguments => exact .setWorld s _
  | resolve key fallback => exact .setWorld s _

private theorem leads_answerCurrent (s : Session) (target : Target) (read : Read) (fallback : Option Value) :
    s.Leads [] (s.answerCurrent target read fallback).2 := by
  have through := leads_readThrough s s.config.view target read
  unfold answerCurrent answerRead
  generalize s.readThrough s.config.view target read = result at through ⊢
  obtain ⟨value, after⟩ := result
  dsimp only
  split
  · exact through
  · exact through

private theorem leads_readAfter (s : Session) (target : Target) (read : Read) (fallback : Option Value)
    (result : ReloadEnd) :
    s.Leads [] (Strand.readAfter s target read fallback result).2 := by
  cases result with
  | outcome => exact leads_answerCurrent s target read fallback
  | failed e =>
    have noted : s.Leads [] { s with config := s.config.note (Config.failedAccessLine e) } := .setWorld s _
    exact noted.trans (leads_answerCurrent _ target read fallback)
  | panicked => exact .of_config_eq rfl

private theorem leads_run (strand : Strand) (s : Session) : s.Leads [] (strand.run s).2 := by
  cases strand with
  | reloading request =>
    have steps := leads_advance s request
    unfold Strand.run
    dsimp only
    split
    · exact steps
    · exact steps
  | reading request target read fallback =>
    have steps := leads_advance s request
    unfold Strand.run
    dsimp only
    split
    · next result _ => exact steps.trans (leads_readAfter _ target read fallback result)
    · exact steps
  | sleeping | answered => exact .of_config_eq rfl

/-- Whether a read looks for changes, and as which request, does not depend on the state of the plugins. -/
private theorem accessBy?_setPlugins (s : Session) (plugins : Journal) :
    (s.setWorld { s.world with plugins }).config.accessBy? .access = s.config.accessBy? .access := by
  rw [Config.accessBy?_access, Config.accessBy?_access]
  rfl

def readBy? (s : Session) : Step → Option Access
  | .read _ _ none => s.config.accessBy? .access
  | .getOr target name fallback =>
    match (plainValue target name fallback s.world.plugins).1 with
    | .ok _ => s.config.accessBy? .access
    | .error _ => none
  | _ => none

private theorem leads_beginRead (s : Session) (target : Target) (read : Read) (fallback : Option Value) :
    s.Leads (s.config.accessBy? .access).toList (Strand.beginRead s target read fallback).2 := by
  have looked : s.Leads (s.config.accessBy? .access).toList
      { s with config := { s.config with state := (s.config.state.access s.config.setup).2 } } := .of_move .access rfl
  unfold Strand.beginRead
  generalize s.config.state.access s.config.setup = result at looked ⊢
  obtain ⟨request, state⟩ := result
  have behind : ∀ t : Session, ({ s with config := { s.config with state } } : Session).Leads [] t →
      s.Leads (s.config.accessBy? .access).toList t := by
    intro t more
    simpa using looked.trans more
  cases request with
  | some request => exact behind _ (leads_run (.reading request target read fallback) _)
  | none => exact behind _ (leads_answerCurrent _ target read fallback)

private theorem leads_answer (s : Session) (step : Step) : s.Leads [] (s.answer step).2 := by
  cases step with
  | read target read view => exact leads_readThrough s _ target read
  | openView => exact .of_config_eq rfl
  | expanded | toMap => exact .setWorld s _
  | storeSet | storeUnset | storeInsert | storeRemove | writeFile | deleteFile | setProcess => exact .setWorld s _
  | stopReloading => exact .of_move .stop rfl
  | listen l =>
    have registered : s.Leads [] { s with config := (s.config.addListener l).2 } := .of_move (.register l) rfl
    exact registered.trans (.setWorld _ _)
  | unlisten label =>
    change s.Leads [] (s.removeListener label).2
    unfold removeListener
    split
    · exact .of_config_eq rfl
    · next id _ => exact .of_move (.unregister id) rfl
  | raw | snapshot | property | propertyNames | sources | version | reloadMode | isReloading | declaration | listings
  | made | storeContains | getOr | reload | sleep | leap => exact .of_config_eq rfl

/-- A step begins with its look for changes if it reads what is published, and goes on without any. -/
theorem leads_begin (s : Session) (step : Step) : s.Leads (s.readBy? step).toList (Strand.begin s step).2 := by
  have others (answered : Strand.begin s step = (.answered (s.answer step).1, (s.answer step).2)) :
      s.Leads [] (Strand.begin s step).2 := by
    rw [answered]
    exact leads_answer s step
  cases step with
  | read target read view =>
    cases view with
    | none => exact leads_beginRead s target read none
    | some index => exact others rfl
  | getOr target name fallback =>
    unfold Strand.begin readBy?
    dsimp only
    generalize plainValue target name fallback s.world.plugins = result
    obtain ⟨value, plugins⟩ := result
    cases value with
    | error failure => exact .setWorld s _
    | ok v =>
      have converted : s.Leads [] (s.setWorld { s.world with plugins }) := .setWorld s _
      rw [← accessBy?_setPlugins s plugins]
      exact converted.trans (leads_beginRead _ target (.get name .empty) (some v))
  | reload =>
    have requested : s.Leads [] { s with config := { s.config with state := s.config.state.request.2 } } :=
      .of_move .request rfl
    exact requested.trans (leads_run (.reloading s.config.state.request.1) _)
  | leap millis => exact .setWorld s _
  | sleep millis => exact .of_config_eq rfl
  | openView | raw | expanded | toMap | snapshot | property | propertyNames | sources | version | reloadMode
  | isReloading | stopReloading | declaration | listings | made | listen | unlisten | storeSet | storeUnset
  | storeInsert | storeRemove | storeContains | writeFile | deleteFile | setProcess => exact others rfl

mutual
/-- What relates the states before and after each part of a turn relates those before and after the turn. -/
theorem related_traverse {S α β : Type} {R : S → S → Prop} {f : α → StateM S β} (refl : ∀ s, R s s)
    (trans : ∀ s t u, R s t → R t u → R s u) (each : ∀ a s, R s ((f a).run s).2) :
    ∀ (turn : Turn α) (s : S), R s ((turn.traverse f).run s).2
  | .single a, s => each a s
  | .together turns, s => related_traverseAll refl trans each turns s

theorem related_traverseAll {S α β : Type} {R : S → S → Prop} {f : α → StateM S β} (refl : ∀ s, R s s)
    (trans : ∀ s t u, R s t → R t u → R s u) (each : ∀ a s, R s ((f a).run s).2) :
    ∀ (turns : List (Turn α)) (s : S), R s ((Turn.traverseAll f turns).run s).2
  | [], s => refl s
  | turn :: rest, s =>
    trans _ _ _ (related_traverse refl trans each turn s) (related_traverseAll refl trans each rest _)
end

private theorem leads_runAll (strands : Turn Strand) (s : Session) : s.Leads [] ((Strand.runAll strands).run s).2 :=
  related_traverse (fun _ => .of_config_eq rfl) (fun _ _ _ first second => first.trans second) leads_run strands s

private theorem leads_runTimer (ticks : Nat) (reloaded : Bool) (s : Session) :
    s.Leads [] (runTimer ticks reloaded s) := by
  induction ticks generalizing reloaded s with
  | zero => exact .of_config_eq rfl
  | succ ticks ih =>
    have advanced : s.Leads [] s.advanceTimer := by
      unfold advanceTimer
      split
      · next request _ => exact leads_advance s request
      · exact .of_config_eq rfl
    unfold runTimer
    dsimp only
    split
    · next config moved =>
      have ticked : s.advanceTimer.Leads [] { s.advanceTimer with config } := .of_move (.tick _) moved
      exact advanced.trans (ticked.trans (ih _ _))
    · exact advanced

private theorem leads_runRound (rounds : Nat) (strands : Turn Strand) (s : Session) :
    s.Leads [] (runRound rounds strands s).2 := by
  induction rounds generalizing strands s with
  | zero => exact .of_config_eq rfl
  | succ rounds ih =>
    unfold runRound
    split
    · exact .of_config_eq rfl
    · have timer := leads_runTimer (2 * mostTicks) false s
      exact timer.trans ((leads_runAll strands _).trans (ih _ _))

private theorem leads_settle (moves : Nat) (strands : Turn Strand) (s : Session) :
    s.Leads [] (settle moves strands s).2 := by
  induction moves generalizing strands s with
  | zero => exact .of_config_eq rfl
  | succ moves ih =>
    unfold settle
    split
    · exact .of_config_eq rfl
    · have round := leads_runRound (strands.toList.length + 1) strands s
      dsimp only
      split
      · exact round
      · split
        · exact round
        · exact round.trans ((Leads.setWorld _ _).trans (ih _ _))

/-- The steps of a turn begin one after another, and only then is there a look for changes. -/
theorem exists_leads_takeTurn (turn : Turn Step) (s : Session) : ∃ reads, s.Leads reads (takeTurn turn s).2 := by
  have begun : ∃ reads, s.Leads reads ((Strand.beginAll turn).run s).2 := by
    apply related_traverse (R := fun s t : Session => ∃ reads, s.Leads reads t)
    · intro s
      exact ⟨[], .of_config_eq rfl⟩
    · rintro s t u ⟨reads, first⟩ ⟨more, second⟩
      exact ⟨reads ++ more, first.trans second⟩
    · intro step s
      exact ⟨_, leads_begin s step⟩
  obtain ⟨reads, begun⟩ := begun
  exact ⟨reads ++ [], begun.trans (leads_settle mostMoves _ _)⟩

private theorem exists_leads_takeTurns (turns : List (Turn Step)) (s : Session) :
    ∃ reads, s.Leads reads (s.takeTurns turns).2 := by
  induction turns generalizing s with
  | nil => exact ⟨[], .of_config_eq rfl⟩
  | cons turn rest ih =>
    obtain ⟨reads, taken⟩ := exists_leads_takeTurn turn s
    obtain ⟨more, later⟩ := ih ((takeTurn turn s).2.setWorld (drain (takeTurn turn s).1 (takeTurn turn s).2.world).2)
    exact ⟨reads ++ ([] ++ more), taken.trans ((Leads.setWorld _ _).trans later)⟩

private theorem leads_drop (s : Session) : s.Leads [] s.drop := by
  have dropped : s.Leads [] { s with config := s.config.drop } := .of_move .drop rfl
  exact dropped.trans (leads_runTimer 2 false _)

/-- Whatever is done in a session, before and after the configuration is dropped, what holds of all reachable
configurations holds of it. -/
theorem reachable_takeTurns {plan : Plan Journal} {w : World Journal} {config : Config StockListener Journal}
    (built : (plan.build StockListener.hooks w).1 = .ok config) (cleared : World Journal)
    (turns afterDrop : List (Turn Step)) :
    let before := (takeTurns ⟨config.setWorld cleared, []⟩ turns).2
    before.config.Reachable ∧ (takeTurns before.drop afterDrop).2.config.Reachable := by
  intro before
  have first : config.Reachable := ⟨plan, StockListener.hooks, w, [], by simp only [Config.runOf?, built, run?]⟩
  have clears : run? [.surround cleared] config = some (config.setWorld cleared) := rfl
  obtain ⟨_, moves, ran, -⟩ := exists_leads_takeTurns turns ⟨config.setWorld cleared, []⟩
  have reached : before.config.Reachable := (first.run clears).run ran
  obtain ⟨_, dropped, -⟩ := leads_drop before
  obtain ⟨_, later, went_on, -⟩ := exists_leads_takeTurns afterDrop before.drop
  exact ⟨reached, (reached.run dropped).run went_on⟩

/-- Reads keep the interval, whatever happens between them.  Each of them makes at most one request, which takes the
gate or is dropped, and only that moves the time of the last look.  Where reads look for changes, one asks for a
reload if and only if the interval has passed since the last one that did, or since the build; so those that ask
are apart by the interval.  Where reads do not look for changes, none asks.

What is done in sessions is such a run.  A step of it that reads what is published is one of the reads, and no other
step is. -/
theorem reads_spaced {L π : Type} {p : Plan π} {hooks : Listeners L π} {w : World π} {first d : Config L π}
    {moves : List (Move L π)} (built : (p.build hooks w).1 = .ok first) (ran : run? moves first = some d)
    (since : ∀ a ∈ accessesIn moves first, first.state.now ≤ a.time)
    (forward : ((accessesIn moves first).map (·.time)).Pairwise (· ≤ ·)) :
    d.state.Look d.setup (d.state.access d.setup).1 (d.state.access d.setup).2 ∧
      d.state.lastCheck = Config.lastAsked first.state.now (accessesIn moves first) ∧
      (∀ m next, m ≠ .access → d.move? m = some next → next.state.lastCheck = d.state.lastCheck) ∧
      (∀ interval, p.declaration.hotReload = some ⟨.sync, interval⟩ →
        ∀ before a later, accessesIn moves first = before ++ a :: later →
          Config.Spaced first.state.now interval before a) ∧
      ((∀ interval, p.declaration.hotReload ≠ some ⟨.sync, interval⟩) →
        ∀ a ∈ accessesIn moves first, a.request? = none) ∧
      (∀ (s : Session) (step : Step), s.Leads (s.readBy? step).toList (Strand.begin s step).2) ∧
      ∀ (s : Session) (turns : List (Turn Step)), ∃ reads, s.Leads reads (s.takeTurns turns).2 :=
  ⟨ReloadState.look_access d.setup d.state, Config.lastCheck_eq_lastAsked built ran,
    fun _ _ => Config.lastCheck_of_ne_access,
    fun _ reload _ _ _ => Config.spaced_of_split built ran since forward reload,
    fun other _ => Config.request?_eq_none_of_mem built ran other, leads_begin,
    fun s turns => exists_leads_takeTurns turns s⟩

def glancingPlan : Plan Unit :=
  { Config.clockPlan with declaration := { Config.clockPlan.declaration with hotReload := some ⟨.sync, 10⟩ } }

def glancing : List (Move (String × Bool) Unit) :=
  [.wait 4, .access, .wait 12, .access, .step 0, .request, .step 1, .wait 21, .access, .wait 22, .access]

def glanceWorld : World Unit := ⟨⟨0, .empty, ⟨.empty, "/", "x86_64"⟩, .empty⟩, [], ()⟩

theorem glancing_reads_spaced :
    ∃ first d : Config (String × Bool) Unit,
      (glancingPlan.build Config.refusing glanceWorld).1 = .ok first ∧ run? glancing first = some d ∧
      (accessesIn glancing first).map (fun a => (a.time, a.asks)) =
        [(4, false), (12, true), (21, false), (22, true)] ∧
      Config.lastAsked 0 (accessesIn glancing first) = 22 ∧
      ∀ before a later, accessesIn glancing first = before ++ a :: later → Config.Spaced 0 10 before a := by
  have facts : ((Config.runOf? glancingPlan Config.refusing glanceWorld []).bind fun first =>
      (run? glancing first).map fun d => (first.state.now, d.state.lastCheck,
        (accessesIn glancing first).map fun a => (a.time, a.asks))) =
      some (0, 22, [(4, false), (12, true), (21, false), (22, true)]) := by decide +kernel
  obtain ⟨first, begins, facts⟩ := Option.bind_eq_some_iff.mp facts
  obtain ⟨d, ran, facts⟩ := Option.map_eq_some_iff.mp facts
  obtain ⟨now, facts⟩ := Prod.mk.inj facts
  obtain ⟨looked, reads⟩ := Prod.mk.inj facts
  obtain ⟨start, built, stays⟩ := Config.build_of_runOf? begins
  obtain rfl := Option.some.inj stays
  have times : (accessesIn glancing start).map (·.time) = [4, 12, 21, 22] := by
    have times := congrArg (List.map Prod.fst) reads
    rwa [List.map_map] at times
  have since : ∀ a ∈ accessesIn glancing start, start.state.now ≤ a.time := by
    intro a _
    rw [now]
    exact Nat.zero_le a.time
  have forward : ((accessesIn glancing start).map (·.time)).Pairwise (· ≤ ·) := by
    rw [times]
    decide
  obtain ⟨-, last, -, spaced, -⟩ := reads_spaced built ran since forward
  rw [now] at last spaced
  exact ⟨start, d, built, ran, reads, last.symm.trans looked, spaced 10 rfl⟩

end LiveConfig.Session
