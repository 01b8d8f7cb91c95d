import LiveConfig.Proofs.Reload.Publication

/-!
What the listeners are told in a run, and that it is enough to follow the configuration.

A move that publishes tells all listeners that were registered when it began, and any other move tells
nobody.  So a listener that makes the changes it is told of, one after another, keeps a copy of the
published properties.
-/
namespace LiveConfig

variable {L π : Type}

namespace ListenerCall

def changeFor? [DecidableEq L] (l : L) : ListenerCall L → Option Change
  | .changed l' c _ => if l' = l then some c else none
  | _ => none

def changesFor [DecidableEq L] (l : L) (calls : List (ListenerCall L)) : List Change :=
  calls.filterMap (changeFor? l)

variable [DecidableEq L] {l : L}

private theorem changesFor_append (first second : List (ListenerCall L)) :
    changesFor l (first ++ second) = changesFor l first ++ changesFor l second :=
  List.filterMap_append

private theorem changesFor_questions {calls : List (ListenerCall L)}
    (asked : ∀ call ∈ calls, call.isQuestion = true) : changesFor l calls = [] := by
  apply List.filterMap_eq_nil_iff.mpr
  intro call mem
  cases call with
  | beforeChange | beforeBatch | reloaded => rfl
  | changed => exact nomatch asked _ mem

private theorem changesFor_changedCalls (changes : List Change) (l' : L) :
    changesFor l (Transaction.changedCalls changes l') = if l' = l then changes else [] := by
  unfold changesFor Transaction.changedCalls
  rw [List.filterMap_map]
  split
  · next same =>
    have all : changeFor? l ∘ (fun c => .changed l' c (.ok ())) = some := by
      funext c
      exact if_pos same
    rw [all, List.filterMap_some]
  · next other =>
    have nothing : changeFor? l ∘ (fun c => .changed l' c (.ok ())) = fun _ => none := by
      funext c
      exact if_neg other
    rw [nothing, List.filterMap_none]

private theorem changesFor_reloaded (listeners : List L) (set : ChangeSet) (s : Snapshot) :
    changesFor l (listeners.map fun l' => .reloaded l' set s (.ok ())) = [] := by
  apply List.filterMap_eq_nil_iff.mpr
  intro call mem
  obtain ⟨l', -, rfl⟩ := List.mem_map.mp mem
  rfl

/-- Whoever is told of a set of changes by each of its registrations has made them all, once or again. -/
private theorem foldl_changesFor_tellings {kind : L → ListenerKind} {listeners : List L} (set : ChangeSet)
    (s : Snapshot) (m : PropertyMap) (registered : l ∈ listeners) (listens : kind l ≠ .reload) :
    (changesFor l (Transaction.tellings kind listeners set s)).foldl ChangeSet.applyOne m =
      set.applyTo m := by
  have made : ∀ listeners : List L, ∀ m,
      (changesFor l (listeners.flatMap (Transaction.changedCalls set.changes))).foldl
          ChangeSet.applyOne m =
        if l ∈ listeners then set.applyTo m else m := by
    intro listeners
    induction listeners with
    | nil => exact fun m => rfl
    | cons first rest ih =>
      intro m
      rw [List.flatMap_cons, changesFor_append, List.foldl_append, ih, changesFor_changedCalls]
      by_cases here : first = l
      · subst here
        have registered : first ∈ first :: rest := List.mem_cons_self
        rw [if_pos rfl, if_pos registered]
        change (if first ∈ rest then set.applyTo (set.applyTo m) else set.applyTo m) = set.applyTo m
        rw [set.applyTo_applyTo, ite_self]
      · simp [here, Ne.symm here]
  unfold Transaction.tellings
  rw [changesFor_append, changesFor_reloaded, List.append_nil, made]
  exact if_pos (List.mem_filter.mpr ⟨registered, by simpa using listens⟩)

end ListenerCall

namespace Config

variable {c d next : Config L π} {id : Nat} {m : Move L π} {moves : List (Move L π)}

def isRegistered [DecidableEq L] (l : L) (c : Config L π) : Bool :=
  l ∈ c.state.scene.registry.registrations

def toldIn [DecidableEq L] (l : L) : List (Move L π) → Config L π → List Change
  | [], _ => []
  | m :: rest, c =>
    ListenerCall.changesFor l (c.callsIn m) ++
      match c.move? m with
      | some next => toldIn l rest next
      | none => []

/-- A move publishes the next snapshot with some changes, and then tells of them those who were registered
when it began.  It does so while the new snapshot is published: it makes no difference what listeners
would do if they were told at any other time. -/
structure Delivers (c : Config L π) (m : Move L π) (next : Config L π) (changes : ChangeSet) : Prop where
  applied : ∃ id, m = .step id ∧
    next.phase? id = some (.concluded (.outcome (.applied next.snapshot.version changes)))
  version : next.snapshot.version = c.snapshot.version + 1
  properties : next.snapshot.properties = changes.applyTo c.snapshot.properties
  calls : Transaction.Delivers (c.setup.hooks next.snapshot).kind
    c.state.scene.registry.registrations changes next.snapshot (c.callsIn m)
  meanwhile : ∀ hooks : Listeners L π, (hooks c.snapshot).AskAlike (c.setup.hooks c.snapshot) →
    hooks next.snapshot = c.setup.hooks next.snapshot →
    (c.withHooks hooks).move? m = some (next.withHooks hooks)

private theorem toldIn_cons [DecidableEq L] {l : L} {rest : List (Move L π)} (moved : c.move? m = some next) :
    toldIn l (m :: rest) c = ListenerCall.changesFor l (c.callsIn m) ++ toldIn l rest next := by
  simp only [toldIn, moved]

/-- A step is the same with any listeners who are asked in the same way before it, and told in the same
way after it. -/
private theorem move?_withHooks_of_alike {hooks : Listeners L π} (moved : c.move? m = some next)
    (asked : (hooks c.snapshot).AskAlike (c.setup.hooks c.snapshot))
    (told : hooks next.snapshot = c.setup.hooks next.snapshot) :
    (c.withHooks hooks).move? m = some (next.withHooks hooks) := by
  by_cases silent : ∀ id, m = .step id → c.finished? id = none
  · exact move?_withHooks moved silent hooks
  · push Not at silent
    obtain ⟨id, rfl, finishes⟩ := silent
    obtain ⟨⟨candidate, w⟩, finished⟩ := Option.ne_none_iff_exists'.mp finishes
    obtain ⟨trigger, ends⟩ := step?_of_finished finished
    rcases plain : Reload.conclude c.setup.hooks trigger candidate c.snapshot
      { c.state.scene with world := w } with ⟨result, published, after⟩
    obtain ⟨state, stepped, rfl⟩ := Option.map_eq_some_iff.mp moved
    have state_eq := Option.some.inj ((ends c.setup.hooks plain).symm.trans stepped)
    subst state_eq
    have alike : Reload.conclude hooks trigger candidate c.snapshot { c.state.scene with world := w } =
        (result, published, after) := by
      rw [← plain]
      apply Reload.conclude_congr asked
      rw [plain]
      exact told
    change (c.state.step? { c.setup with hooks } id).map _ = _
    rw [ends hooks alike]
    rfl

/-- Unless a listener breaks off, a move tells those who were registered of what it publishes, or it
publishes nothing and tells nobody. -/
theorem silent_or_delivers (moved : c.move? m = some next)
    (calm : next.resultCount ReloadEnd.isPanic = c.resultCount ReloadEnd.isPanic) :
    (next.snapshot = c.snapshot ∧ ∀ call ∈ c.callsIn m, call.isQuestion = true) ∨
      ∃ changes, c.Delivers m next changes := by
  rcases move?_publishes moved with ⟨same, silent, -⟩ | ⟨id, result, rfl, here, counts⟩
  · rw [silent]
    exact Or.inl ⟨same, by simp⟩
  · have unbroken : result.isPanic = false := by
      have count := counts ReloadEnd.isPanic
      rw [calm] at count
      by_contra panic
      rw [if_pos (by simpa using panic)] at count
      omega
    have concluding := here.concluding
    have concluded := here.concluded
    cases concluding with
    | coalesced same silent | failed same silent =>
      have none_called : c.callsIn (.step id) = [] := silent
      rw [none_called]
      exact Or.inl ⟨same, by simp⟩
    | finished _ conclusion _ delivers =>
      generalize published : next.snapshot = snapshot at conclusion
      cases conclusion with
      | refused _ asked => exact Or.inl ⟨rfl, asked⟩
      | brokenAsking | brokenTelling => exact nomatch unbroken
      | @applied _ changes succeeds changed =>
        subst published
        refine Or.inr ⟨changes, ⟨id, rfl, concluded⟩, succeeds.version, ?_, delivers _ changes rfl, ?_⟩
        · rw [changed.made, ChangeSet.applyTo_between]
        · intro hooks asked told
          exact move?_withHooks_of_alike moved asked told

private theorem resultCount_le_run? (ran : run? moves c = some d) :
    c.resultCount ReloadEnd.isPanic ≤ d.resultCount ReloadEnd.isPanic := by
  induction moves generalizing c with
  | nil =>
    obtain rfl := Option.some.inj ran
    exact Nat.le_refl _
  | cons m rest ih =>
    obtain ⟨next, moved, later⟩ := run?_cons_eq_some ran
    have le := ih later
    rcases move?_publishes moved with ⟨-, -, counts⟩ | ⟨id, result, -, -, counts⟩
    · rw [counts _ rfl] at le
      exact le
    · have count := counts ReloadEnd.isPanic
      omega

/-- Making the changes that it is told of keeps a listener abreast of the published properties. -/
theorem foldl_toldIn [DecidableEq L] {l : L} (ran : run? moves c = some d)
    (calm : d.resultCount ReloadEnd.isPanic = c.resultCount ReloadEnd.isPanic)
    (listens : ∀ s, (c.setup.hooks s).kind l ≠ .reload)
    (registered : throughout (isRegistered l) moves c = true) :
    (toldIn l moves c).foldl ChangeSet.applyOne c.snapshot.properties = d.snapshot.properties := by
  induction moves generalizing c with
  | nil =>
    obtain rfl := Option.some.inj ran
    rfl
  | cons m rest ih =>
    obtain ⟨next, moved, later⟩ := run?_cons_eq_some ran
    have first := resultCount_le_run? (run?_cons moved (rfl : run? [] next = some next))
    have others := resultCount_le_run? later
    rw [throughout_cons moved, Bool.and_eq_true] at registered
    obtain ⟨here, after⟩ := registered
    have setup : next.setup = c.setup := (move?_cases moved).1
    have follows := ih later (by omega) (setup ▸ listens) after
    rw [toldIn_cons moved, List.foldl_append]
    rcases silent_or_delivers moved (by omega) with ⟨same, asked⟩ | ⟨changes, delivers⟩
    · rw [ListenerCall.changesFor_questions asked, ← same]
      exact follows
    · obtain ⟨asked, calls, questions⟩ := delivers.calls
      rw [calls, ListenerCall.changesFor_append, ListenerCall.changesFor_questions questions,
        List.nil_append, ListenerCall.foldl_changesFor_tellings changes _ _ (of_decide_eq_true here)
          (listens _), ← delivers.properties]
      exact follows

/-- Unless a listener breaks off, a move publishes nothing and tells nobody, or it tells those who were
registered when it began, once and while the new snapshot is published: the listeners of changes one after
another, each of all changes in the order of their keys, and then those of reloads.  Moves that are no
steps of requests call no listener.  So one who is told of changes and is registered all the time can
follow the published properties, by making the changes that it is told of. -/
theorem delivered_once [DecidableEq L] (c : Config L π) :
    (∀ m next, c.move? m = some next →
      next.resultCount ReloadEnd.isPanic = c.resultCount ReloadEnd.isPanic →
        (next.snapshot = c.snapshot ∧ ∀ call ∈ c.callsIn m, call.isQuestion = true) ∨
          ∃ changes, c.Delivers m next changes) ∧
    (∀ m next, c.move? m = some next → m.stepper? = none → ∀ hooks : Listeners L π,
      (c.withHooks hooks).move? m = some (next.withHooks hooks)) ∧
    ∀ moves d l, run? moves c = some d →
      d.resultCount ReloadEnd.isPanic = c.resultCount ReloadEnd.isPanic →
      (∀ s, (c.setup.hooks s).kind l ≠ .reload) →
      throughout (isRegistered l) moves c = true →
        (toldIn l moves c).foldl ChangeSet.applyOne c.snapshot.properties = d.snapshot.properties := by
  refine ⟨fun m next => silent_or_delivers, ?_, fun moves d l => foldl_toldIn⟩
  intro m next moved outer hooks
  apply move?_withHooks moved
  rintro id rfl
  exact nomatch outer

def reloadingTwice : List (Move (String × Bool) Unit) :=
  [.step 0, .step 0, .step 0, .step 0, .wait 9, .request, .step 1, .step 1, .step 1, .step 1, .step 1]

theorem clock_delivered_once :
    ∃ (c e next d : Config (String × Bool) Unit) (changes : ChangeSet),
      clockRequest? false = some c ∧ run? [.step 0, .step 0] c = some e ∧
      e.move? (.step 0) = some next ∧ e.Delivers (.step 0) next changes ∧
      run? reloadingTwice c = some d ∧
      toldIn ("a", false) reloadingTwice c = [⟨"b", some "0", some "5"⟩, ⟨"b", some "5", some "9"⟩] ∧
      d.snapshot.properties = .ofList [("a", "0"), ("b", "9")] ∧
      (toldIn ("a", false) reloadingTwice c).foldl ChangeSet.applyOne c.snapshot.properties =
        d.snapshot.properties := by
  have publishes : ((clockRequest? false).bind fun c => (run? [.step 0, .step 0] c).bind fun e =>
      (e.move? (.step 0)).map fun next => (e.snapshot.version, next.snapshot.version,
        e.resultCount ReloadEnd.isPanic, next.resultCount ReloadEnd.isPanic)) = some (1, 2, 0, 0) := by
    decide +kernel
  have follows : ((clockRequest? false).bind fun c => (run? reloadingTwice c).map fun d =>
      (c.resultCount ReloadEnd.isPanic, d.resultCount ReloadEnd.isPanic, d.snapshot.properties,
        throughout (isRegistered ("a", false)) reloadingTwice c,
        toldIn ("a", false) reloadingTwice c)) =
      some (0, 0, .ofList [("a", "0"), ("b", "9")], true,
        [⟨"b", some "0", some "5"⟩, ⟨"b", some "5", some "9"⟩]) := by
    decide +kernel
  obtain ⟨c, ran, publishes⟩ := Option.bind_eq_some_iff.mp publishes
  obtain ⟨e, led, publishes⟩ := Option.bind_eq_some_iff.mp publishes
  obtain ⟨next, moved, counts⟩ := Option.map_eq_some_iff.mp publishes
  rw [ran, Option.bind_some] at follows
  obtain ⟨d, later, values⟩ := Option.map_eq_some_iff.mp follows
  obtain ⟨before, after, calm_e, calm_next⟩ := by simpa only [Prod.mk.injEq] using counts
  obtain ⟨calm_c, calm_d, properties, registered, told⟩ := by simpa only [Prod.mk.injEq] using values
  have setup : (clockRequest? false).map (fun c => c.setup.hooks) = some refusing := rfl
  rw [ran] at setup
  have hooks : c.setup.hooks = refusing := Option.some.inj setup
  have listens : ∀ s, (c.setup.hooks s).kind ("a", false) ≠ .reload := by
    rw [hooks]
    exact fun s => nofun
  obtain ⟨-, -, replay⟩ := c.delivered_once
  obtain ⟨delivers, -, -⟩ := e.delivered_once
  have copies := replay reloadingTwice d ("a", false) later (calm_d.trans calm_c.symm) listens registered
  rcases delivers (.step 0) next moved (calm_next.trans calm_e.symm) with ⟨same, -⟩ | ⟨changes, delivered⟩
  · rw [same, before] at after
    exact nomatch after
  · exact ⟨c, e, next, d, changes, ran, led, moved, delivered, later, told, properties, copies⟩

end Config
end LiveConfig
