import LiveConfig.Proofs.Listener.Calls

/-!
How transactional listeners are heard: one after another, each about the changes that none before it
refused.

A hearing goes through these changes in the order of their keys and then comes to the batch of those that
the listener itself has left.  The first refusal of the batch ends the hearing, and no other one follows.
-/
namespace LiveConfig

open ListenerCall (vetoedKeys)

variable {L π : Type}

namespace ListenerCall

def AnsweredBy {σ : Type} (h : Hooks L σ) : ListenerCall L → Prop
  | .beforeChange l c answer => ∃ s, ((h.beforeChange l c).run s).1 = answer
  | .beforeBatch l set answer => ∃ s, ((h.beforeBatch l set).run s).1 = answer
  | .changed l c answer => ∃ s, ((h.changed l c).run s).1 = answer
  | .reloaded l set published answer => ∃ s, ((h.reloaded l set published).run s).1 = answer

theorem mem_vetoedKeys {calls : List (ListenerCall L)} {key : String} :
    key ∈ vetoedKeys calls ↔ ∃ l c, .beforeChange l c (.ok .vetoKey) ∈ calls ∧ c.key = key := by
  unfold vetoedKeys
  rw [List.mem_filterMap]
  constructor
  · rintro ⟨call, mem, refused⟩
    unfold vetoedKey? at refused
    split at refused
    · next l c => exact ⟨l, c, mem, Option.some.inj refused⟩
    · exact nomatch refused
  · rintro ⟨l, c, mem, rfl⟩
    exact ⟨_, mem, rfl⟩

end ListenerCall

def Hooks.AnswersCalmly {σ : Type} (h : Hooks L σ) : Prop :=
  ∀ call : ListenerCall L, call.isQuestion = true → call.AnsweredBy h → call.panic? = none

namespace Transaction

def changeCalls (listener : L) (changes : List Change) (verdicts : List Verdict) :
    List (ListenerCall L) :=
  List.zipWith (fun c verdict => .beforeChange listener c (.ok verdict)) changes verdicts

/-- A listener is asked about each change, and a set is left without those that it refuses alone; or it
is asked up to the first change for which it refuses the batch. -/
inductive Replies (listener : L) (changes : List Change) (set : ChangeSet) :
    List (ListenerCall L) → Option ChangeSet → Prop where
  | all {verdicts : List Verdict} (each : verdicts.length = changes.length)
      (alone : .vetoBatch ∉ verdicts) :
      Replies listener changes set (changeCalls listener changes verdicts)
        (some (set.dropping (vetoedKeys (changeCalls listener changes verdicts))))
  | upTo {verdicts : List Verdict} (before : verdicts.length < changes.length)
      (alone : .vetoBatch ∉ verdicts) :
      Replies listener changes set (changeCalls listener changes (verdicts ++ [.vetoBatch])) none

inductive Hearing (listener : L) (pending : ChangeSet) :
    List (ListenerCall L) → Option ChangeSet → Prop where
  | accepts {asked : List (ListenerCall L)} {left : ChangeSet}
      (replies : Replies listener pending.changes pending asked (some left)) :
      Hearing listener pending (asked ++ [.beforeBatch listener left (.ok .accept)]) (some left)
  | refusesBatch {asked : List (ListenerCall L)} {left : ChangeSet} {verdict : Verdict}
      (replies : Replies listener pending.changes pending asked (some left))
      (refuses : verdict ≠ .accept) :
      Hearing listener pending (asked ++ [.beforeBatch listener left (.ok verdict)]) none
  | refusesChange {asked : List (ListenerCall L)}
      (replies : Replies listener pending.changes pending asked none) :
      Hearing listener pending asked none

def pending (set : ChangeSet) (hearings : List (List (ListenerCall L))) : ChangeSet :=
  set.dropping (vetoedKeys hearings.flatten)

def HeardInTurn (listeners : List L) (set : ChangeSet) (hearings : List (List (ListenerCall L))) :
    Prop :=
  hearings.length = listeners.length ∧
    ∀ i l calls, listeners[i]? = some l → hearings[i]? = some calls →
      Hearing l (pending set (hearings.take i)) calls (some (pending set (hearings.take (i + 1))))

inductive Course (listeners : List L) (set : ChangeSet) :
    List (List (ListenerCall L)) → Decision → Prop where
  | vetoed {before later : List L} {l : L} {heard : List (List (ListenerCall L))}
      {last : List (ListenerCall L)} (order : listeners = before ++ l :: later)
      (inTurn : HeardInTurn before set heard) (refuses : Hearing l (pending set heard) last none) :
      Course listeners set (heard ++ [last]) .vetoed
  | commit {hearings : List (List (ListenerCall L))} (inTurn : HeardInTurn listeners set hearings)
      (nonempty : (pending set hearings).isEmpty = false) :
      Course listeners set hearings (.commit (pending set hearings))
  | empty {hearings : List (List (ListenerCall L))} (inTurn : HeardInTurn listeners set hearings)
      (none_left : (pending set hearings).isEmpty = true) : Course listeners set hearings .empty

private theorem pending_nil (set : ChangeSet) : pending set ([] : List (List (ListenerCall L))) = set :=
  set.dropping_nil

private theorem pending_cons (set : ChangeSet) (calls : List (ListenerCall L))
    (hearings : List (List (ListenerCall L))) :
    pending set (calls :: hearings) = pending (set.dropping (vetoedKeys calls)) hearings := by
  unfold pending
  rw [List.flatten_cons, ListenerCall.vetoedKeys_append, ChangeSet.dropping_append]

private theorem mem_of_mem_pending {set : ChangeSet} {hearings : List (List (ListenerCall L))} {c : Change}
    (mem : c ∈ (pending set hearings).changes) : c ∈ set.changes :=
  set.dropping_subset _ mem

section Replies

variable {listener : L} {c : Change} {changes : List Change} {set : ChangeSet}
  {calls : List (ListenerCall L)} {left : Option ChangeSet}

private theorem Replies.nil : Replies listener [] set [] (some set) := by
  have whole : set.dropping (vetoedKeys (changeCalls listener [] [])) = set := set.dropping_nil
  have none_asked : Replies listener [] set (changeCalls listener [] [])
      (some (set.dropping (vetoedKeys (changeCalls listener [] [])))) :=
    .all rfl List.not_mem_nil
  rw [whole] at none_asked
  exact none_asked

private theorem Replies.accept (later : Replies listener changes set calls left) :
    Replies listener (c :: changes) set (.beforeChange listener c (.ok .accept) :: calls) left := by
  cases later with
  | @all verdicts each alone =>
    have each' : (.accept :: verdicts).length = (c :: changes).length := congrArg Nat.succ each
    exact .all each' (by simpa using alone)
  | @upTo verdicts before alone =>
    have before' : (.accept :: verdicts).length < (c :: changes).length := Nat.succ_lt_succ before
    exact .upTo before' (by simpa using alone)

private theorem Replies.vetoKey (later : Replies listener changes (set.without c.key) calls left) :
    Replies listener (c :: changes) set (.beforeChange listener c (.ok .vetoKey) :: calls) left := by
  cases later with
  | @all verdicts each alone =>
    rw [ChangeSet.without_eq_dropping, ChangeSet.dropping_append]
    have each' : (.vetoKey :: verdicts).length = (c :: changes).length := congrArg Nat.succ each
    exact .all each' (by simpa using alone)
  | @upTo verdicts before alone =>
    have before' : (.vetoKey :: verdicts).length < (c :: changes).length := Nat.succ_lt_succ before
    exact .upTo before' (by simpa using alone)

private theorem Replies.vetoBatch :
    Replies listener (c :: changes) set [.beforeChange listener c (.ok .vetoBatch)] none := by
  have first : changeCalls listener (c :: changes) ([] ++ [.vetoBatch]) =
      [.beforeChange listener c (.ok .vetoBatch)] := by
    simp [changeCalls]
  rw [← first]
  exact .upTo (Nat.zero_lt_succ _) List.not_mem_nil

private theorem Replies.asked {call : ListenerCall L} (replies : Replies listener changes set calls left)
    (mem : call ∈ calls) : ∃ c ∈ changes, ∃ verdict, call = .beforeChange listener c (.ok verdict) := by
  have of_zip : ∀ verdicts, call ∈ changeCalls listener changes verdicts →
      ∃ c ∈ changes, ∃ verdict, call = .beforeChange listener c (.ok verdict) := by
    intro verdicts mem
    unfold changeCalls at mem
    obtain ⟨i, lt, rfl⟩ := List.mem_iff_getElem.mp mem
    rw [List.getElem_zipWith]
    exact ⟨_, List.getElem_mem _, _, rfl⟩
  cases replies with
  | all => exact of_zip _ mem
  | upTo => exact of_zip _ mem

private theorem Replies.left_eq {rest : ChangeSet} (replies : Replies listener changes set calls (some rest)) :
    rest = set.dropping (vetoedKeys calls) := by
  cases replies with
  | all => rfl

end Replies

namespace Hearing

variable {listener : L} {set : ChangeSet} {calls : List (ListenerCall L)}

private theorem left_eq {rest : ChangeSet} (hearing : Hearing listener set calls (some rest)) :
    rest = set.dropping (vetoedKeys calls) := by
  cases hearing with
  | @accepts asked _ replies =>
    have silent : vetoedKeys [ListenerCall.beforeBatch listener rest (.ok .accept)] = [] := rfl
    rw [ListenerCall.vetoedKeys_append, silent, List.append_nil]
    exact replies.left_eq

private theorem asked {left : Option ChangeSet} {l : L} {c : Change} {answer : Except Panic Verdict}
    (hearing : Hearing listener set calls left) (mem : .beforeChange l c answer ∈ calls) :
    c ∈ set.changes := by
  have of_replies : ∀ {asked : List (ListenerCall L)} {left : Option ChangeSet},
      Replies listener set.changes set asked left → .beforeChange l c answer ∈ asked →
        c ∈ set.changes := by
    intro asked left replies mem
    obtain ⟨d, mem, verdict, same⟩ := replies.asked mem
    obtain ⟨-, rfl, -⟩ := ListenerCall.beforeChange.inj same
    exact mem
  cases hearing with
  | accepts replies | refusesBatch replies =>
    rcases List.mem_append.mp mem with mem | mem
    · exact of_replies replies mem
    · exact nomatch List.mem_singleton.mp mem
  | refusesChange replies => exact of_replies replies mem

end Hearing

section HeardInTurn

variable {listeners : List L} {set left : ChangeSet} {l : L} {calls : List (ListenerCall L)}
  {hearings : List (List (ListenerCall L))} {decision : Decision}

private theorem HeardInTurn.nil : HeardInTurn ([] : List L) set [] := by
  refine ⟨rfl, ?_⟩
  intro i l calls found
  exact nomatch found

private theorem HeardInTurn.cons (first : Hearing l set calls (some left))
    (later : HeardInTurn listeners left hearings) :
    HeardInTurn (l :: listeners) set (calls :: hearings) := by
  obtain ⟨length, inTurn⟩ := later
  refine ⟨congrArg Nat.succ length, ?_⟩
  obtain rfl := first.left_eq
  intro i l' calls' found found'
  -- Every later hearing also lacks what was refused in the first.
  cases i with
  | zero =>
    obtain rfl := Option.some.inj found
    obtain rfl := Option.some.inj found'
    rw [List.take_zero, List.take_succ_cons, List.take_zero, pending_cons, pending_nil, pending_nil]
    exact first
  | succ i =>
    rw [List.take_succ_cons, List.take_succ_cons, pending_cons, pending_cons]
    exact inTurn i l' calls' found found'

theorem HeardInTurn.asked {d : Change} {answer : Except Panic Verdict}
    (inTurn : HeardInTurn listeners set hearings) (mem : .beforeChange l d answer ∈ hearings.flatten) :
    d ∈ set.changes := by
  obtain ⟨calls, heard, mem⟩ := List.mem_flatten.mp mem
  obtain ⟨i, found⟩ := List.mem_iff_getElem?.mp heard
  have lt : i < listeners.length := by
    rw [← inTurn.1]
    exact (List.getElem?_eq_some_iff.mp found).1
  exact mem_of_mem_pending ((inTurn.2 i _ _ (List.getElem?_eq_getElem lt) found).asked mem)

private theorem Course.nil :
    Course ([] : List L) set [] (if set.isEmpty then .empty else .commit set) := by
  have whole : pending set ([] : List (List (ListenerCall L))) = set := pending_nil set
  by_cases none_left : set.isEmpty = true
  · rw [if_pos none_left]
    rw [← whole] at none_left
    exact .empty .nil none_left
  · rw [if_neg none_left]
    have nonempty : (pending set ([] : List (List (ListenerCall L)))).isEmpty = false := by
      rw [whole]
      simpa using none_left
    have course := Course.commit .nil nonempty
    rw [whole] at course
    exact course

private theorem Course.cons (first : Hearing l set calls (some left))
    (later : Course listeners left hearings decision) :
    Course (l :: listeners) set (calls :: hearings) decision := by
  obtain rfl := first.left_eq
  cases later with
  | vetoed order inTurn refuses =>
    rw [← pending_cons] at refuses
    exact .vetoed (congrArg (l :: ·) order) (inTurn.cons first) refuses
  | commit inTurn nonempty =>
    rw [← pending_cons] at nonempty ⊢
    exact .commit (inTurn.cons first) nonempty
  | empty inTurn none_left =>
    rw [← pending_cons] at none_left
    exact .empty (inTurn.cons first) none_left

private theorem Course.inTurn_of_commit {changes : ChangeSet}
    (course : Course listeners set hearings (.commit changes)) : HeardInTurn listeners set hearings := by
  cases course with
  | commit inTurn => exact inTurn

private theorem Course.mem_commit_iff {changes : ChangeSet} {c : Change}
    (course : Course listeners set hearings (.commit changes)) :
    c ∈ changes.changes ↔
      c ∈ set.changes ∧ ∀ l, .beforeChange l c (.ok .vetoKey) ∉ hearings.flatten := by
  cases course with
  | commit inTurn =>
    unfold pending
    rw [ChangeSet.mem_dropping]
    refine and_congr_right fun mem => ?_
    rw [ListenerCall.mem_vetoedKeys]
    constructor
    · intro free l refused
      exact free ⟨l, c, refused, rfl⟩
    · rintro free ⟨l, d, refused, same⟩
      obtain rfl := set.eq_of_key_eq (inTurn.asked refused) mem same
      exact free l refused

end HeardInTurn

section Run

variable (hooks : Listeners L π) (published : Snapshot)

def Consults (h : Hooks L (Scene L π)) (listeners : List L) (call : ListenerCall L) : Prop :=
  Asks h listeners call ∧ call.AnsweredBy h

private theorem Consults.mono {h : Hooks L (Scene L π)} {listeners more : List L} {call : ListenerCall L}
    (consults : Consults h listeners call) (subset : listeners ⊆ more) : Consults h more call := by
  obtain ⟨⟨question, mem, kind⟩, answered⟩ := consults
  exact ⟨⟨question, subset mem, kind⟩, answered⟩

structure ConsultsOn (h : Hooks L (Scene L π)) (listeners : List L) (set : ChangeSet)
    (call : ListenerCall L) : Prop where
  consults : Consults h listeners call
  shown : call.shown ⊆ set.changes

private theorem ConsultsOn.mono {h : Hooks L (Scene L π)} {listeners more : List L} {set whole : ChangeSet}
    {call : ListenerCall L} (consults : ConsultsOn h listeners set call) (subset : listeners ⊆ more)
    (part : set.changes ⊆ whole.changes) : ConsultsOn h more whole call :=
  ⟨consults.consults.mono subset, List.Subset.trans consults.shown part⟩

private theorem askChanges_traced {listener : L} (kind : (hooks published).kind listener = .transactional)
    {whole : ChangeSet} (changes : List Change) (set : ChangeSet) (within : changes ⊆ whole.changes) :
    Traced (ConsultsOn (hooks published) [listener] whole)
      (askChanges (hooks published) listener changes set)
      (askChanges (hooks.recording published) listener changes set)
      (Replies listener changes set) := by
  induction changes generalizing set with
  | nil => exact Traced.pure .nil
  | cons c later ih =>
    obtain ⟨here, beyond⟩ := List.cons_subset.mp within
    unfold askChanges
    have asks : ∀ s, ConsultsOn (hooks published) [listener] whole
        (.beforeChange listener c (((hooks published).beforeChange listener c).run s).1) :=
      fun s => ⟨⟨⟨rfl, List.mem_singleton_self _, kind⟩, s, rfl⟩, by simpa [ListenerCall.shown] using here⟩
    apply Traced.bind (Traced.call asks (fun _ => rfl) (fun _ => rfl))
    rintro verdict made rfl
    cases verdict with
    | accept => exact (ih set beyond).mono (fun _ means => means) fun _ _ later => later.accept
    | vetoKey =>
      apply Traced.bind (note_traced hooks published _)
      rintro ⟨⟩ made rfl
      exact (ih (set.without c.key) beyond).mono (fun _ means => means) fun _ _ later => later.vetoKey
    | vetoBatch =>
      apply Traced.bind (note_traced hooks published _)
      rintro ⟨⟩ made rfl
      exact Traced.pure .vetoBatch

private theorem ask_traced {listener : L} (kind : (hooks published).kind listener = .transactional)
    (set : ChangeSet) :
    Traced (ConsultsOn (hooks published) [listener] set) (ask (hooks published) listener set)
      (ask (hooks.recording published) listener set) (Hearing listener set) := by
  unfold ask
  apply Traced.bind (askChanges_traced hooks published kind set.changes set (List.Subset.refl _))
  intro left made replies
  cases left with
  | none =>
    apply Traced.pure
    rw [List.append_nil]
    exact .refusesChange replies
  | some left =>
    have part : left.changes ⊆ set.changes := by
      rw [replies.left_eq]
      exact set.dropping_subset _
    have asks : ∀ s, ConsultsOn (hooks published) [listener] set
        (.beforeBatch listener left (((hooks published).beforeBatch listener left).run s).1) :=
      fun s => ⟨⟨⟨rfl, List.mem_singleton_self _, kind⟩, s, rfl⟩, part⟩
    apply Traced.bind (Traced.call asks (fun _ => rfl) (fun _ => rfl))
    rintro verdict last rfl
    split
    · next accepts =>
      subst accepts
      exact Traced.pure (.accepts replies)
    · next refuses =>
      apply Traced.bind (note_traced hooks published _)
      rintro ⟨⟩ made rfl
      exact Traced.pure (.refusesBatch replies refuses)

/-- The course that the questions take is one of hearings of the transactional listeners. -/
theorem decide_traced (listeners : List L) (set : ChangeSet) :
    Traced (ConsultsOn (hooks published) listeners set) (decide (hooks published) listeners set)
      (decide (hooks.recording published) listeners set) fun made decision =>
        ∃ hearings, made = hearings.flatten ∧
          Course (listeners.filter fun l => (hooks published).kind l = .transactional) set hearings
            decision := by
  induction listeners generalizing set with
  | nil =>
    unfold decide
    exact Traced.pure ⟨[], rfl, .nil⟩
  | cons listener rest ih =>
    unfold decide
    change Traced _ (if (hooks published).kind listener = .transactional then _ else _)
      (if (hooks published).kind listener = .transactional then _ else _) _
    by_cases kind : (hooks published).kind listener = .transactional
    · rw [if_pos kind, if_pos kind, List.filter_cons_of_pos (by simpa using kind)]
      have here : ∀ call, ConsultsOn (hooks published) [listener] set call →
          ConsultsOn (hooks published) (listener :: rest) set call :=
        fun call consults => consults.mono (by simp) (List.Subset.refl _)
      apply Traced.bind ((ask_traced hooks published kind set).mono here fun _ _ hearing => hearing)
      intro left made hearing
      cases left with
      | none =>
        apply Traced.pure
        refine ⟨[made], by simp, ?_⟩
        rw [← pending_nil (L := L) set] at hearing
        have nobody : HeardInTurn ([] : List L) set [] := .nil
        exact .vetoed rfl nobody hearing
      | some left =>
        have part : left.changes ⊆ set.changes := by
          rw [hearing.left_eq]
          exact set.dropping_subset _
        apply (ih left).mono (fun call consults => consults.mono (List.subset_cons_self _ _) part)
        rintro more decision ⟨hearings, rfl, course⟩
        exact ⟨made :: hearings, rfl, course.cons hearing⟩
    · rw [if_neg kind, if_neg kind, List.filter_cons_of_neg (by simpa using kind)]
      exact (ih set).mono
        (fun call consults => consults.mono (List.subset_cons_self _ _) (List.Subset.refl _))
        fun _ _ course => course

/-- Listeners who never break off when they are asked take a reload through hearings of the transactional
ones, in the order of their registration.  Each is asked once about every change that none before it
refused, in the order of the keys, and then once about the batch of those that it leaves itself; the first
refusal of the batch is the last call of all.  Without one, the changes of keys that nobody refused are
to be made, if there are any. -/
theorem decide_in_turn (calm : (hooks published).AnswersCalmly) (listeners : List L) (set : ChangeSet)
    (s : Scene L π) :
    ∃ hearings decision after,
      (decide (hooks published) listeners set).run s = (.ok decision, after) ∧
      (decide (hooks.recording published) listeners set).run (s.keeping []) =
        (.ok decision, after.keeping hearings.flatten) ∧
      Course (listeners.filter fun l => (hooks published).kind l = .transactional) set hearings
        decision ∧
      ∀ changes, decision = .commit changes → ∀ c, c ∈ changes.changes ↔
        c ∈ set.changes ∧ ∀ l, .beforeChange l c (.ok .vetoKey) ∉ hearings.flatten := by
  obtain ⟨made, recorded, consults, fits⟩ := decide_traced hooks published listeners set s []
  rcases ran : (decide (hooks published) listeners set).run s with ⟨p | decision, after⟩
  · -- Who breaks off has answered with a panic, which nobody does.
    rw [ran] at fits
    obtain ⟨last, broke⟩ := fits
    obtain ⟨⟨⟨question, -⟩, answered⟩, -⟩ := consults last broke.mem
    exact nomatch broke.1.symm.trans (calm last question answered)
  · rw [ran] at recorded fits
    obtain ⟨-, hearings, rfl, course⟩ := fits
    refine ⟨hearings, decision, after, rfl, recorded, course, ?_⟩
    rintro changes rfl c
    exact course.mem_commit_iff

end Run

theorem decide_of_unasked {σ : Type} {h : Hooks L σ} {listeners : List L}
    (unasked : ∀ l ∈ listeners, h.kind l ≠ .transactional) (set : ChangeSet) :
    decide h listeners set = pure (if set.isEmpty then .empty else .commit set) := by
  induction listeners with
  | nil => rfl
  | cons listener rest ih =>
    unfold decide
    rw [if_neg (unasked listener List.mem_cons_self)]
    exact ih fun l mem => unasked l (List.mem_cons_of_mem _ mem)

def counting : Listeners Nat Nat := fun _ => {
  kind := fun l => if l = 0 then .change else .transactional
  beforeChange := fun l _ => do
    let s ← get
    set { s with world := { s.world with plugins := s.world.plugins + 1 } }
    return if s.world.plugins = l then .vetoKey else .accept
  beforeBatch := fun _ _ => do
    modify fun s => { s with world := { s.world with plugins := s.world.plugins + 1 } }
    return .accept
  changed := fun _ _ => return
  reloaded := fun _ _ _ => return
  note := fun line s => s.note line }

theorem counting_in_turn :
    let published : Snapshot := ⟨.empty, 1, []⟩
    let scene : Scene Nat Nat := ⟨.empty, ⟨⟨0, .empty, ⟨.empty, "/", "x86_64"⟩, .empty⟩, [], 0⟩⟩
    let b : Change := ⟨"b", some "1", some "2"⟩
    let set : ChangeSet := ⟨[⟨"a", none, some "2"⟩, b, ⟨"c", some "1", none⟩], by decide⟩
    let left : ChangeSet := ⟨[b], List.pairwise_singleton _ _⟩
    (counting published).AnswersCalmly ∧
      ∃ (hearings : List (List (ListenerCall Nat))) (after : Scene Nat Nat),
      (decide (counting.recording published) [2, 0, 4] set).run (scene.keeping []) =
        (.ok (.commit left), after.keeping hearings.flatten) ∧
      Course [2, 4] set hearings (.commit left) ∧ hearings.length = 2 ∧ after.world.plugins = 7 ∧
      ∀ c, c ∈ left.changes ↔
        c ∈ set.changes ∧ ∀ l, .beforeChange l c (.ok .vetoKey) ∉ hearings.flatten := by
  intro published scene b set left
  have calm : (counting published).AnswersCalmly := by
    intro call question answered
    cases call with
    | beforeChange | beforeBatch =>
      obtain ⟨s, rfl⟩ := answered
      rfl
    | changed | reloaded => exact nomatch question
  obtain ⟨hearings, decision, after, ran, recorded, course, left_iff⟩ :=
    decide_in_turn counting published calm [2, 0, 4] set scene
  have commits : ((decide (counting published) [2, 0, 4] set).run scene).1 = .ok (.commit left) := by
    subst set left b
    rfl
  have count : ((decide (counting published) [2, 0, 4] set).run scene).2.world.plugins = 7 := by
    subst set left b
    rfl
  rw [ran] at commits count
  obtain rfl := Except.ok.inj commits
  have order : [2, 0, 4].filter (fun l => (counting published).kind l = .transactional) = [2, 4] := rfl
  rw [order] at course
  exact ⟨calm, hearings, after, recorded, course, course.inTurn_of_commit.1, count, left_iff left rfl⟩

end Transaction
end LiveConfig
