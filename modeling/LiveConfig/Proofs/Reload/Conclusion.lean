import LiveConfig.Proofs.Listener.Delivery
import LiveConfig.Proofs.Listener.Hearing

/-!
How a reload concludes with its candidate: either it leaves the published snapshot as it is and has only
asked, or it has published a whole new one, also if a listener then breaks off.
-/
namespace LiveConfig

open ListenerCall (BreaksOff vetoedKeys)
open Transaction (ConsultsOn HeardInTurn pending)

/-- The snapshot after another one: it has everything of a candidate but for the keys that were refused,
which stay as they are. -/
structure Snapshot.Succeeds (next current : Snapshot) (c : Candidate) (refused : List String) : Prop where
  version : next.version = current.version + 1
  sources : next.sources = c.sources
  kept : ∀ key ∈ refused, next.get? key = current.get? key
  taken : ∀ key, key ∉ refused → next.get? key = c.properties.get? key

structure Snapshot.Changed (next current : Snapshot) (c : Candidate) (refused : List String)
    (changes : ChangeSet) : Prop where
  nonempty : changes.isEmpty = false
  made : changes = .between current.properties next.properties
  left : changes = (ChangeSet.between current.properties c.properties).dropping refused

theorem Snapshot.Succeeds.eq_of_refused_nil {next current : Snapshot} {c : Candidate}
    (h : next.Succeeds current c []) : next.properties = c.properties := by
  apply TextMap.ext_get?
  intro key
  exact h.taken key List.not_mem_nil

namespace Reload

variable {L π : Type}

inductive Conclusion (current : Snapshot) (c : Candidate) (calls : List (ListenerCall L)) :
    Snapshot → ReloadEnd → Prop where
  | refused {outcome : ReloadOutcome} (which : outcome = .unchanged ∨ outcome = .vetoed)
      (asked : ∀ call ∈ calls, call.isQuestion = true) :
      Conclusion current c calls current (.outcome outcome)
  | brokenAsking {last : ListenerCall L} {p : Panic} (broke : BreaksOff calls last p)
      (asked : ∀ call ∈ calls, call.isQuestion = true) :
      Conclusion current c calls current (.panicked p)
  | applied {next : Snapshot} {changes : ChangeSet}
      (succeeds : next.Succeeds current c (vetoedKeys calls))
      (changed : next.Changed current c (vetoedKeys calls) changes) :
      Conclusion current c calls next (.outcome (.applied next.version changes))
  | brokenTelling {last : ListenerCall L} {p : Panic} {next : Snapshot} (broke : BreaksOff calls last p)
      (told : last.isQuestion = false) (succeeds : next.Succeeds current c (vetoedKeys calls)) :
      Conclusion current c calls next (.panicked p)

theorem Conclusion.of_applied {current next : Snapshot} {c : Candidate} {calls : List (ListenerCall L)}
    {version : Nat} {changes : ChangeSet}
    (h : Conclusion current c calls next (.outcome (.applied version changes))) :
    version = next.version ∧ next.Succeeds current c (vetoedKeys calls) ∧
      next.Changed current c (vetoedKeys calls) changes := by
  cases h with
  | refused which =>
    rcases which with which | which
    · exact nomatch which
    · exact nomatch which
  | applied succeeds changed => exact ⟨rfl, succeeds, changed⟩

theorem Conclusion.of_unchanged {current next : Snapshot} {c : Candidate} {calls : List (ListenerCall L)}
    (h : Conclusion current c calls next (.outcome .unchanged)) :
    ∀ call ∈ calls, call.isQuestion = true := by
  cases h with
  | refused _ asked => exact asked

theorem Conclusion.ne_failed {current next : Snapshot} {c : Candidate} {calls : List (ListenerCall L)}
    {result : ReloadEnd} (h : Conclusion current c calls next result) (e : ConfigError) :
    result ≠ .failed e := by
  rintro rfl
  exact nomatch h

theorem Conclusion.of_panicked {current next : Snapshot} {c : Candidate} {calls : List (ListenerCall L)}
    {p : Panic} (h : Conclusion current c calls next (.panicked p)) :
    ∃ last, BreaksOff calls last p ∧
      (last.isQuestion = true → next = current ∧ ∀ call ∈ calls, call.isQuestion = true) ∧
      (last.isQuestion = false → next.Succeeds current c (vetoedKeys calls)) := by
  cases h with
  | @brokenAsking last _ broke asked =>
    refine ⟨last, broke, fun _ => ⟨rfl, asked⟩, ?_⟩
    intro told
    rw [asked last broke.mem] at told
    exact nomatch told
  | @brokenTelling last _ _ broke told succeeds =>
    refine ⟨last, broke, ?_, fun _ => succeeds⟩
    intro asked
    rw [told] at asked
    exact nomatch asked

private theorem apply_succeeds (current : Snapshot) (c : Candidate) (refused : List String) :
    (current.apply ((ChangeSet.between current.properties c.properties).dropping refused)
      (current.version + 1) c.sources).Succeeds current c refused := by
  have value := ChangeSet.get?_applyTo_dropping_between current.properties c.properties refused
  refine ⟨rfl, rfl, ?_, ?_⟩
  · intro key mem
    exact (value key).trans (if_pos mem)
  · intro key free
    exact (value key).trans (if_neg free)

private theorem apply_changed (current : Snapshot) (c : Candidate) (refused : List String)
    (nonempty : ((ChangeSet.between current.properties c.properties).dropping refused).isEmpty = false) :
    (current.apply ((ChangeSet.between current.properties c.properties).dropping refused)
      (current.version + 1) c.sources).Changed current c refused
      ((ChangeSet.between current.properties c.properties).dropping refused) :=
  ⟨nonempty, (ChangeSet.between_applyTo_dropping current.properties c.properties refused).symm, rfl⟩

/-- What is published once the listeners were asked, and the calls that tell them of it. -/
private theorem publish_recording (hooks : Listeners L π) (listeners : List L) (trigger : Trigger)
    (changes : ChangeSet) (sources : List Locator) (current : Snapshot) (s : Scene L π)
    (asked : List (ListenerCall L)) :
    ∃ told result after,
      publish hooks listeners trigger changes sources current s =
        (result, current.apply changes (current.version + 1) sources, after) ∧
      publish hooks.recording listeners trigger changes sources current (s.keeping asked) =
        (result, current.apply changes (current.version + 1) sources, after.keeping (asked ++ told)) ∧
      (∀ call ∈ told, Transaction.TellsOf changes.changes call) ∧
      (result = .outcome (.applied (current.version + 1) changes) ∧
          told = Transaction.tellings (hooks (current.apply changes (current.version + 1) sources)).kind
            listeners changes (current.apply changes (current.version + 1) sources) ∨
        ∃ p last, result = .panicked p ∧ BreaksOff told last p) := by
  let next := current.apply changes (current.version + 1) sources
  let noted := s.note (reloadedLine trigger (current.version + 1) changes)
  obtain ⟨told, ran, tells, fits⟩ :=
    Transaction.notify_traced hooks next listeners changes next noted asked
  rcases plain : (Transaction.notify (hooks next) listeners changes next).run noted with ⟨p | ⟨⟩, after⟩
  · rw [plain] at ran fits
    obtain ⟨last, broke⟩ := fits
    refine ⟨told, .panicked p, after, ?_, ?_, tells, Or.inr ⟨p, last, rfl, broke⟩⟩
    · unfold publish
      dsimp only
      rw [plain]
    · unfold publish
      dsimp only
      rw [Scene.note_keeping, ran]
  · rw [plain] at ran fits
    refine ⟨told, .outcome (.applied (current.version + 1) changes), after, ?_, ?_, tells,
      Or.inl ⟨rfl, fits.2⟩⟩
    · unfold publish
      dsimp only
      rw [plain]
    · unfold publish
      dsimp only
      rw [Scene.note_keeping, ran]

/-- How a reload goes through its listeners with a set of changes: the calls that it makes, how it ends, and
what is published then. -/
inductive Consultation (hooks : Listeners L π) (listeners : List L) (set : ChangeSet) (sources : List Locator)
    (current : Snapshot) : List (ListenerCall L) → ReloadEnd → Snapshot → Prop where
  | needless (same : set.isEmpty = true) :
      Consultation hooks listeners set sources current [] (.outcome .unchanged) current
  | brokenAsking {asked : List (ListenerCall L)} {last : ListenerCall L} {p : Panic}
      (consults : ∀ call ∈ asked, ConsultsOn (hooks current) listeners set call) (broke : BreaksOff asked last p) :
      Consultation hooks listeners set sources current asked (.panicked p) current
  | vetoed {asked : List (ListenerCall L)}
      (consults : ∀ call ∈ asked, ConsultsOn (hooks current) listeners set call) :
      Consultation hooks listeners set sources current asked (.outcome .vetoed) current
  | nothingLeft {hearings : List (List (ListenerCall L))}
      (consults : ∀ call ∈ hearings.flatten, ConsultsOn (hooks current) listeners set call)
      (inTurn : HeardInTurn (listeners.filter fun l => (hooks current).kind l = .transactional) set hearings)
      (none_left : (pending set hearings).isEmpty = true) :
      Consultation hooks listeners set sources current hearings.flatten (.outcome .unchanged) current
  | published {hearings : List (List (ListenerCall L))} {told : List (ListenerCall L)} {result : ReloadEnd}
      (consults : ∀ call ∈ hearings.flatten, ConsultsOn (hooks current) listeners set call)
      (quiet : ∀ call ∈ hearings.flatten, call.panic? = none)
      (inTurn : HeardInTurn (listeners.filter fun l => (hooks current).kind l = .transactional) set hearings)
      (nonempty : (pending set hearings).isEmpty = false)
      (tells : ∀ call ∈ told, Transaction.TellsOf (pending set hearings).changes call)
      (ended : result = .outcome (.applied (current.version + 1) (pending set hearings)) ∧
          told = Transaction.tellings (hooks (current.apply (pending set hearings) (current.version + 1) sources)).kind
            listeners (pending set hearings) (current.apply (pending set hearings) (current.version + 1) sources) ∨
        ∃ p last, result = .panicked p ∧ BreaksOff told last p) :
      Consultation hooks listeners set sources current (hearings.flatten ++ told) result
        (current.apply (pending set hearings) (current.version + 1) sources)

/-- With recording listeners a reload concludes in the same way, and has the calls that it made in the
order in which it made them. -/
theorem conclude_consults (hooks : Listeners L π) (trigger : Trigger) (c : Candidate) (current : Snapshot)
    (s : Scene L π) :
    ∃ calls result next after,
      conclude hooks trigger c current s = (result, next, after) ∧
      conclude hooks.recording trigger c current (s.keeping []) = (result, next, after.keeping calls) ∧
      Consultation hooks s.registry.registrations (.between current.properties c.properties) c.sources current
        calls result next := by
  unfold conclude
  dsimp only
  by_cases empty : (ChangeSet.between current.properties c.properties).isEmpty = true
  · rw [if_pos empty, if_pos empty]
    exact ⟨[], _, _, _, rfl, rfl, .needless empty⟩
  · rw [if_neg empty, if_neg empty]
    obtain ⟨asked, ran, consults, fits⟩ := Transaction.decide_traced hooks current s.registry.registrations
      (ChangeSet.between current.properties c.properties) s []
    rw [List.nil_append] at ran
    have same : (s.keeping ([] : List (ListenerCall L))).registry = s.registry := rfl
    rw [same, ran]
    generalize (Transaction.decide (hooks current) s.registry.registrations
      (ChangeSet.between current.properties c.properties)).run s = outcome at fits ⊢
    obtain ⟨answer, after⟩ := outcome
    cases answer with
    | error p =>
      obtain ⟨last, broke⟩ := fits
      exact ⟨asked, _, _, after, rfl, rfl, .brokenAsking consults broke⟩
    | ok decision =>
      obtain ⟨quiet, hearings, rfl, course⟩ := fits
      cases course with
      | vetoed => exact ⟨_, _, _, after, rfl, rfl, .vetoed consults⟩
      | empty inTurn none_left =>
        exact ⟨_, _, _, after.note (nothingLeftLine trigger), rfl, rfl, .nothingLeft consults inTurn none_left⟩
      | commit inTurn nonempty =>
        obtain ⟨told, result, final, published, recorded, tells, ended⟩ := publish_recording hooks
          s.registry.registrations trigger (pending _ hearings) c.sources current after hearings.flatten
        exact ⟨_, result, _, final, published, recorded,
          .published consults quiet inTurn nonempty tells ended⟩

namespace Consultation

variable {hooks : Listeners L π} {listeners : List L} {set : ChangeSet} {sources : List Locator}
  {current next : Snapshot} {calls : List (ListenerCall L)} {result : ReloadEnd}

private theorem asks (went : Consultation hooks listeners set sources current calls result next) :
    ∀ call ∈ calls, call.isQuestion = true → Transaction.Asks (hooks current) listeners call := by
  cases went with
  | needless => exact fun call mem => nomatch mem
  | brokenAsking consults | vetoed consults | nothingLeft consults =>
    exact fun call mem _ => (consults call mem).consults.1
  | published consults _ _ _ tells =>
    intro call mem question
    rcases List.mem_append.mp mem with mem | mem
    · exact (consults call mem).consults.1
    · exact nomatch (tells call mem).1.symm.trans question

private theorem shown (went : Consultation hooks listeners set sources current calls result next) :
    ∀ call ∈ calls, call.shown ⊆ set.changes := by
  cases went with
  | needless => exact fun call mem => nomatch mem
  | brokenAsking consults | vetoed consults | nothingLeft consults =>
    exact fun call mem => (consults call mem).shown
  | published consults _ _ _ tells =>
    intro call mem
    rcases List.mem_append.mp mem with mem | mem
    · exact (consults call mem).shown
    · exact List.Subset.trans (tells call mem).2 (ChangeSet.dropping_subset _ _)

private theorem delivers {version : Nat} {changes : ChangeSet}
    (went : Consultation hooks listeners set sources current calls (.outcome (.applied version changes)) next) :
    Transaction.Delivers (hooks next).kind listeners changes next calls := by
  cases went with
  | published consults _ _ _ _ ended =>
    rcases ended with ⟨applied, told_all⟩ | ⟨p, last, panicked, -⟩
    · obtain ⟨-, rfl⟩ := ReloadOutcome.applied.inj (ReloadEnd.outcome.inj applied)
      exact ⟨_, congrArg (_ ++ ·) told_all, fun call mem => (consults call mem).consults.1.1⟩
    · exact nomatch panicked

private theorem conclusion {c : Candidate}
    (went : Consultation hooks listeners (.between current.properties c.properties) c.sources current calls result
      next) : Conclusion current c calls next result := by
  cases went with
  | needless => exact .refused (Or.inl rfl) fun call mem => nomatch mem
  | brokenAsking consults broke => exact .brokenAsking broke fun call mem => (consults call mem).consults.1.1
  | vetoed consults => exact .refused (Or.inr rfl) fun call mem => (consults call mem).consults.1.1
  | nothingLeft consults => exact .refused (Or.inl rfl) fun call mem => (consults call mem).consults.1.1
  | @published hearings told _ _ quiet _ nonempty tells ended =>
    -- Whoever is told of changes refuses none, so the keys dropped are those of all calls.
    have refused : vetoedKeys (hearings.flatten ++ told) = vetoedKeys hearings.flatten := by
      have none_told : vetoedKeys told = [] :=
        ListenerCall.vetoedKeys_eq_nil fun call mem => by simp [(tells call mem).1]
      rw [ListenerCall.vetoedKeys_append, none_told, List.append_nil]
    have succeeds : (current.apply (pending (.between current.properties c.properties) hearings)
        (current.version + 1) c.sources).Succeeds current c (vetoedKeys (hearings.flatten ++ told)) := by
      rw [refused]
      exact apply_succeeds current c _
    rcases ended with ⟨rfl, -⟩ | ⟨p, last, rfl, broke⟩
    · refine .applied succeeds ?_
      rw [refused]
      exact apply_changed current c _ nonempty
    · exact .brokenTelling (broke.append quiet) (tells last broke.mem).1 succeeds

end Consultation

/-- What a conclusion comes to, whom it asks, and what it tells whom. -/
theorem conclude_recording (hooks : Listeners L π) (trigger : Trigger) (c : Candidate)
    (current : Snapshot) (s : Scene L π) :
    ∃ calls result next after,
      conclude hooks trigger c current s = (result, next, after) ∧
      conclude hooks.recording trigger c current (s.keeping []) = (result, next, after.keeping calls) ∧
      Conclusion current c calls next result ∧
      (∀ call ∈ calls, call.isQuestion = true →
        Transaction.Asks (hooks current) s.registry.registrations call) ∧
      (∀ version changes, result = .outcome (.applied version changes) →
        Transaction.Delivers (hooks next).kind s.registry.registrations changes next calls) ∧
      ∀ call ∈ calls, call.shown ⊆ (ChangeSet.between current.properties c.properties).changes := by
  obtain ⟨calls, result, next, after, plain, recorded, went⟩ := conclude_consults hooks trigger c current s
  refine ⟨calls, result, next, after, plain, recorded, went.conclusion, went.asks, ?_, went.shown⟩
  rintro version changes rfl
  exact went.delivers

theorem publish_snapshot (hooks : Listeners L π) (listeners : List L) (trigger : Trigger)
    (changes : ChangeSet) (sources : List Locator) (current : Snapshot) (s : Scene L π) :
    (publish hooks listeners trigger changes sources current s).2.1 =
      current.apply changes (current.version + 1) sources := by
  obtain ⟨_, _, _, published, _⟩ :=
    publish_recording hooks listeners trigger changes sources current s []
  rw [published]

/-- Without anybody who has to be asked, the properties of the candidate are published. -/
theorem conclude_of_unasked {hooks : Listeners L π} {current : Snapshot} {s : Scene L π}
    (unasked : ∀ l ∈ s.registry.registrations, (hooks current).kind l ≠ .transactional)
    (trigger : Trigger) (c : Candidate) :
    (conclude hooks trigger c current s).2.1.properties = c.properties := by
  have made := ChangeSet.applyTo_between current.properties c.properties
  unfold conclude
  dsimp only
  rw [Transaction.decide_of_unasked unasked]
  by_cases empty : (ChangeSet.between current.properties c.properties).isEmpty = true
  · rw [if_pos empty]
    have nothing : (ChangeSet.between current.properties c.properties).changes = [] :=
      List.isEmpty_iff.mp empty
    unfold ChangeSet.applyTo at made
    rw [nothing] at made
    exact made
  · rw [if_neg empty, if_neg empty]
    change (publish _ _ _ _ _ _ _).2.1.properties = _
    rw [publish_snapshot]
    exact made

/-- What listeners do counts only for the snapshot during which they do it: they are asked during the
current one, and told during the next. -/
theorem conclude_congr {hooks hooks' : Listeners L π} {trigger : Trigger} {c : Candidate}
    {current : Snapshot} {s : Scene L π} (asked : (hooks' current).AskAlike (hooks current))
    (told : hooks' (conclude hooks trigger c current s).2.1 =
      hooks (conclude hooks trigger c current s).2.1) :
    conclude hooks' trigger c current s = conclude hooks trigger c current s := by
  unfold conclude at told ⊢
  dsimp only at told ⊢
  rw [Transaction.decide_congr asked]
  split at told
  · next empty => rw [if_pos empty, if_pos empty]
  · next different =>
    rw [if_neg different, if_neg different]
    generalize (Transaction.decide (hooks current) s.registry.registrations
      (ChangeSet.between current.properties c.properties)).run s = outcome at told ⊢
    obtain ⟨p | decision, after⟩ := outcome
    · rfl
    · cases decision with
      | vetoed | empty => rfl
      | commit changes =>
        rw [publish_snapshot] at told
        unfold publish
        dsimp only
        rw [told]

end Reload
end LiveConfig
