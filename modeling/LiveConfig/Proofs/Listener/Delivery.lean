import LiveConfig.Proofs.Listener.Calls

/-!
How listeners are told of what was published: those of single changes first, each of all of them, and
then those of whole reloads.
-/
namespace LiveConfig

structure Hooks.AskAlike {L σ : Type} (h h' : Hooks L σ) : Prop where
  kind : h.kind = h'.kind
  beforeChange : h.beforeChange = h'.beforeChange
  beforeBatch : h.beforeBatch = h'.beforeBatch
  note : h.note = h'.note

namespace Transaction

variable {L π : Type}

def changedCalls (changes : List Change) (listener : L) : List (ListenerCall L) :=
  changes.map fun c => .changed listener c (.ok ())

def tellings (kind : L → ListenerKind) (listeners : List L) (set : ChangeSet) (s : Snapshot) :
    List (ListenerCall L) :=
  (listeners.filter fun l => kind l ≠ .reload).flatMap (changedCalls set.changes) ++
    (listeners.filter fun l => kind l = .reload).map fun l => .reloaded l set s (.ok ())

def Delivers (kind : L → ListenerKind) (listeners : List L) (set : ChangeSet) (next : Snapshot)
    (calls : List (ListenerCall L)) : Prop :=
  ∃ asked, calls = asked ++ tellings kind listeners set next ∧ ∀ call ∈ asked, call.isQuestion = true

def TellsOf (changes : List Change) (call : ListenerCall L) : Prop :=
  call.isQuestion = false ∧ call.shown ⊆ changes

section Run

variable (hooks : Listeners L π) (published : Snapshot)

private theorem tellChanges_traced (listener : L) (changes : List Change) :
    Traced (TellsOf changes) (tellChanges (hooks published) listener changes)
      (tellChanges (hooks.recording published) listener changes) fun made _ =>
        made = changedCalls changes listener := by
  induction changes with
  | nil => exact Traced.pure rfl
  | cons c rest ih =>
    unfold tellChanges
    have tells : ∀ answer, TellsOf (c :: rest) (.changed listener c answer) :=
      fun _ => ⟨rfl, by simp [ListenerCall.shown]⟩
    apply Traced.bind (Traced.call (fun _ => tells _) (fun _ => rfl) (fun _ => rfl))
    rintro ⟨⟩ made rfl
    apply ih.mono (fun _ later => ⟨later.1, fun _ mem => List.mem_cons_of_mem _ (later.2 mem)⟩)
    rintro more ⟨⟩ rfl
    rfl

private theorem tellAllChanges_traced (set : ChangeSet) (listeners : List L) :
    Traced (TellsOf set.changes) (tellAllChanges (hooks published) set listeners)
      (tellAllChanges (hooks.recording published) set listeners) fun made _ =>
        made = (listeners.filter fun l => (hooks published).kind l ≠ .reload).flatMap
          (changedCalls set.changes) := by
  induction listeners with
  | nil => exact Traced.pure rfl
  | cons listener rest ih =>
    unfold tellAllChanges
    change Traced _ (if (hooks published).kind listener ≠ .reload then _ else _)
      (if (hooks published).kind listener ≠ .reload then _ else _) _
    by_cases kind : (hooks published).kind listener ≠ .reload
    · rw [if_pos kind, if_pos kind, List.filter_cons_of_pos (by simpa using kind), List.flatMap_cons]
      apply Traced.bind (tellChanges_traced hooks published listener set.changes)
      rintro ⟨⟩ made rfl
      apply ih.mono (fun _ tells => tells)
      rintro more ⟨⟩ rfl
      rfl
    · rw [if_neg kind, if_neg kind, List.filter_cons_of_neg (by simpa using kind)]
      exact ih

private theorem tellReload_traced (set : ChangeSet) (s : Snapshot) (listeners : List L) :
    Traced (TellsOf set.changes) (tellReload (hooks published) set s listeners)
      (tellReload (hooks.recording published) set s listeners) fun made _ =>
        made = (listeners.filter fun l => (hooks published).kind l = .reload).map
          fun l => .reloaded l set s (.ok ()) := by
  induction listeners with
  | nil => exact Traced.pure rfl
  | cons listener rest ih =>
    unfold tellReload
    change Traced _ (if (hooks published).kind listener = .reload then _ else _)
      (if (hooks published).kind listener = .reload then _ else _) _
    by_cases kind : (hooks published).kind listener = .reload
    · rw [if_pos kind, if_pos kind, List.filter_cons_of_pos (by simpa using kind), List.map_cons]
      have tells : ∀ answer, TellsOf set.changes (.reloaded listener set s answer) :=
        fun _ => ⟨rfl, List.Subset.refl _⟩
      apply Traced.bind (Traced.call (fun _ => tells _) (fun _ => rfl) (fun _ => rfl))
      rintro ⟨⟩ made rfl
      apply ih.mono (fun _ tells => tells)
      rintro more ⟨⟩ rfl
      rfl
    · rw [if_neg kind, if_neg kind, List.filter_cons_of_neg (by simpa using kind)]
      exact ih

theorem notify_traced (listeners : List L) (set : ChangeSet) (s : Snapshot) :
    Traced (TellsOf set.changes) (notify (hooks published) listeners set s)
      (notify (hooks.recording published) listeners set s) fun made _ =>
        made = tellings (hooks published).kind listeners set s := by
  unfold notify
  apply Traced.bind (tellAllChanges_traced hooks published set listeners)
  rintro ⟨⟩ made rfl
  apply (tellReload_traced hooks published set s listeners).mono (fun _ tells => tells)
  rintro more ⟨⟩ rfl
  rfl

end Run

section Questions

variable {σ : Type} {h h' : Hooks L σ}

private theorem note_congr (alike : h.AskAlike h') (line : LogLine) : note h line = note h' line := by
  unfold note
  rw [alike.note]

private theorem askChanges_congr (alike : h.AskAlike h') (listener : L) (changes : List Change)
    (set : ChangeSet) : askChanges h listener changes set = askChanges h' listener changes set := by
  induction changes generalizing set with
  | nil => rfl
  | cons c rest ih =>
    unfold askChanges
    simp only [alike.beforeChange, note_congr alike, ih]

private theorem ask_congr (alike : h.AskAlike h') (listener : L) (set : ChangeSet) :
    ask h listener set = ask h' listener set := by
  unfold ask
  simp only [alike.beforeBatch, note_congr alike, askChanges_congr alike]

/-- What listeners do when they are told plays no part in the questions. -/
theorem decide_congr (alike : h.AskAlike h') (listeners : List L) (set : ChangeSet) :
    decide h listeners set = decide h' listeners set := by
  induction listeners generalizing set with
  | nil => rfl
  | cons listener rest ih =>
    unfold decide
    simp only [alike.kind, ask_congr alike, ih]

end Questions
end Transaction
end LiveConfig
