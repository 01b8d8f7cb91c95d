import LiveConfig.Listener.Registry
import Mathlib.Data.List.Induction
import Mathlib.Data.List.Nodup

/-!
What a registry of listeners holds and answers, told by the history of its calls.

A registration stands from the call that adds it up to the first call that removes its number.  The registry
holds those that stand, in the order in which they were added, whatever calls were made.  As long as the numbers
suffice, none is given twice: then a number takes away its own registration and no other, and only once.
-/
namespace LiveConfig.ListenerRegistry

variable {L : Type}

inductive Call (L : Type) where
  | add (listener : L)
  | remove (id : Nat)

def Call.isAdd : Call L → Bool
  | .add _ => true
  | .remove _ => false

/-- A call that was made; one that has added a listener comes with the number that was given to it. -/
inductive Event (L : Type) where
  | added (id : Nat) (listener : L)
  | removed (id : Nat)

def Event.call : Event L → Call L
  | .added _ listener => .add listener
  | .removed id => .remove id

structure Record (L : Type) where
  history : List (Event L)
  registry : ListenerRegistry L

def Record.make (r : Record L) : Call L → Record L
  | .add listener =>
    let (id, registry) := r.registry.add listener
    ⟨r.history ++ [.added id listener], registry⟩
  | .remove id => ⟨r.history ++ [.removed id], (r.registry.remove id).2⟩

def record (calls : List (Call L)) : Record L := calls.foldl Record.make ⟨[], .empty⟩

def additions (history : List (Event L)) : List (Nat × L) :=
  history.filterMap fun
    | .added id listener => some (id, listener)
    | .removed _ => none

def removals (history : List (Event L)) : List Nat :=
  history.filterMap fun
    | .added _ _ => none
    | .removed id => some id

def standing : List (Event L) → List (Nat × L)
  | [] => []
  | .added id listener :: later =>
    if id ∈ removals later then standing later else (id, listener) :: standing later
  | .removed _ :: later => standing later

private theorem additions_append (early later : List (Event L)) :
    additions (early ++ later) = additions early ++ additions later :=
  List.filterMap_append

private theorem removals_append (early later : List (Event L)) :
    removals (early ++ later) = removals early ++ removals later :=
  List.filterMap_append

/-- Later calls remove what stood, and add behind it. -/
private theorem standing_append (early later : List (Event L)) :
    standing (early ++ later) = (standing early).filter (fun e => e.1 ∉ removals later) ++ standing later := by
  induction early with
  | nil => rfl
  | cons event early ih =>
    cases event with
    | removed id => exact ih
    | added id listener =>
      rw [List.cons_append, standing, standing, removals_append, ih]
      by_cases before : id ∈ removals early
      · simp [before]
      · by_cases after : id ∈ removals later
        · simp [before, after]
        · simp [before, after]

private theorem standing_sublist_additions (history : List (Event L)) :
    (standing history).Sublist (additions history) := by
  induction history with
  | nil => exact List.Sublist.slnil
  | cons event later ih =>
    cases event with
    | removed id => exact ih
    | added id listener =>
      rw [standing]
      split
      · exact ih.cons _
      · exact ih.cons_cons _

/-- A registry is as its history tells: it holds what stands, and numbers are given in turn, and anew once all of
them were given. -/
structure Record.IsKept (r : Record L) : Prop where
  holds : r.registry.entries = standing r.history
  next : r.registry.nextId = (additions r.history).length % Nat.pow 2 64
  in_turn : (additions r.history).map (·.1) = (List.range (additions r.history).length).map (· % Nat.pow 2 64)

private theorem Record.IsKept.make {r : Record L} (kept : r.IsKept) (c : Call L) : (r.make c).IsKept := by
  cases c with
  | add listener =>
    have added : additions (r.make (.add listener)).history =
        additions r.history ++ [(r.registry.nextId, listener)] := additions_append _ _
    constructor
    · change r.registry.entries ++ [_] = standing (r.history ++ [.added _ listener])
      rw [standing_append, kept.holds]
      simp [removals, standing]
    · change (r.registry.nextId + 1) % Nat.pow 2 64 = _
      rw [added, List.length_append, kept.next, Nat.mod_add_mod]
      rfl
    · rw [added, List.map_append, kept.in_turn, kept.next, List.length_append, List.length_singleton,
        List.range_succ, List.map_append]
      rfl
  | remove id =>
    have same : additions (r.make (.remove id)).history = additions r.history :=
      (additions_append _ _).trans (List.append_nil _)
    constructor
    · change r.registry.entries.filter _ = standing (r.history ++ [.removed id])
      rw [standing_append, kept.holds]
      simp [removals, standing]
    · rw [same]
      exact kept.next
    · rw [same]
      exact kept.in_turn

private theorem record_concat (calls : List (Call L)) (c : Call L) : record (calls ++ [c]) = (record calls).make c :=
  List.foldl_concat _ _ _ _

private theorem isKept_record (calls : List (Call L)) : (record calls).IsKept := by
  induction calls using List.reverseRecOn with
  | nil => exact ⟨rfl, rfl, rfl⟩
  | append_singleton calls c ih =>
    rw [record_concat]
    exact ih.make c

/-- The calls of a history are those that were made. -/
theorem history_record (calls : List (Call L)) : (record calls).history.map Event.call = calls := by
  induction calls using List.reverseRecOn with
  | nil => rfl
  | append_singleton calls c ih =>
    have step : (record (calls ++ [c])).history.map Event.call = (record calls).history.map Event.call ++ [c] := by
      rw [record_concat]
      cases c <;> exact List.map_append
    rw [step, ih]

private theorem length_additions (history : List (Event L)) :
    (additions history).length = (history.map Event.call).countP Call.isAdd := by
  rw [additions, List.length_filterMap_eq_countP, List.countP_map]
  congr 1
  funext event
  cases event <;> rfl

private theorem nodup_additions {calls : List (Call L)} (few : calls.countP Call.isAdd ≤ Nat.pow 2 64) :
    ((additions (record calls).history).map (·.1)).Nodup := by
  rw [(isKept_record calls).in_turn, length_additions, history_record]
  apply List.Nodup.map_on _ List.nodup_range
  intro a within b within' same
  rw [List.mem_range] at within within'
  rwa [Nat.mod_eq_of_lt (Nat.lt_of_lt_of_le within few), Nat.mod_eq_of_lt (Nat.lt_of_lt_of_le within' few)] at same

private theorem remove_of_absent {r : ListenerRegistry L} {id : Nat} (absent : ∀ e ∈ r.entries, e.1 ≠ id) :
    r.remove id = (false, r) := by
  have whole : (r.entries.filter fun e => e.1 ≠ id) = r.entries :=
    List.filter_eq_self.mpr fun e mem => decide_eq_true (absent e mem)
  unfold remove
  simp only [whole, ne_eq, not_true_eq_false, decide_false]

private theorem remove_of_only {r : ListenerRegistry L} {id : Nat} {listener : L} {front back : List (Nat × L)}
    (held : r.entries = front ++ (id, listener) :: back) (only : ∀ e ∈ front ++ back, e.1 ≠ id) :
    r.remove id = (true, { r with entries := front ++ back }) := by
  have rest : (r.entries.filter fun e => e.1 ≠ id) = front ++ back := by
    rw [held, List.filter_append, List.filter_cons_of_neg (by simp), ← List.filter_append]
    exact List.filter_eq_self.mpr fun e mem => decide_eq_true (only e mem)
  have shorter : (front ++ back).length ≠ r.entries.length := by
    rw [held]
    simp
  unfold remove
  simp only [rest, shorter, ne_eq, not_false_eq_true, decide_true]

section Places
variable {calls : List (Call L)} {early since : List (Event L)} {id : Nat} {listener : L}

/-- No registration before or after one has the same number. -/
private theorem other_numbers (few : calls.countP Call.isAdd ≤ Nat.pow 2 64)
    (place : (record calls).history = early ++ .added id listener :: since) :
    ∀ e ∈ additions early ++ additions since, e.1 ≠ id := by
  have parts : (additions (record calls).history).map (·.1) =
      (additions early).map (·.1) ++ id :: (additions since).map (·.1) := by
    rw [place, additions_append, List.map_append]
    rfl
  have distinct := nodup_additions few
  rw [parts, List.nodup_middle, List.nodup_cons, ← List.map_append] at distinct
  rintro e mem rfl
  exact distinct.1 (List.mem_map_of_mem mem)

private theorem mem_additions_of_standing (early since : List (Event L)) {e : Nat × L}
    (mem : e ∈ (standing early).filter (fun e => e.1 ∉ removals since) ++ standing since) :
    e ∈ additions early ++ additions since := by
  rcases List.mem_append.mp mem with old | new
  · exact List.mem_append_left _ ((standing_sublist_additions early).subset (List.mem_of_mem_filter old))
  · exact List.mem_append_right _ ((standing_sublist_additions since).subset new)

/-- A number takes away its own registration at the first time. -/
theorem remove_first (few : calls.countP Call.isAdd ≤ Nat.pow 2 64)
    (place : (record calls).history = early ++ .added id listener :: since) (stands : id ∉ removals since) :
    let registry := (record calls).registry
    ∃ front back, registry.entries = front ++ (id, listener) :: back ∧
      registry.remove id = (true, { registry with entries := front ++ back }) := by
  intro registry
  have held : registry.entries =
      (standing early).filter (fun e => e.1 ∉ removals since) ++ (id, listener) :: standing since := by
    rw [(isKept_record calls).holds, place, standing_append, standing, if_neg stands]
    rfl
  refine ⟨_, _, held, remove_of_only held fun e mem => ?_⟩
  exact other_numbers few place e (mem_additions_of_standing early since mem)

/-- Once it was to be removed, a number takes nothing away. -/
theorem remove_again (few : calls.countP Call.isAdd ≤ Nat.pow 2 64)
    (place : (record calls).history = early ++ .added id listener :: since) (gone : id ∈ removals since) :
    (record calls).registry.remove id = (false, (record calls).registry) := by
  have held : (record calls).registry.entries =
      (standing early).filter (fun e => e.1 ∉ removals since) ++ standing since := by
    rw [(isKept_record calls).holds, place, standing_append, standing, if_pos gone]
    rfl
  apply remove_of_absent
  rw [held]
  exact fun e mem => other_numbers few place e (mem_additions_of_standing early since mem)

end Places

/-- As long as the numbers suffice, none is given twice.  A registry holds what was added and not removed since, in
the order of addition.  A number that was given takes away its own registration at the first time, and nothing ever
after. -/
theorem told_by_history (calls : List (Call L)) (few : calls.countP Call.isAdd ≤ Nat.pow 2 64) :
    let history := (record calls).history
    let registry := (record calls).registry
    history.map Event.call = calls ∧
    ((additions history).map (·.1)).Nodup ∧
    registry.registrations = (standing history).map (·.2) ∧
    ∀ early id listener since, history = early ++ .added id listener :: since →
      (id ∉ removals since → ∃ front back, registry.entries = front ++ (id, listener) :: back ∧
        registry.remove id = (true, { registry with entries := front ++ back })) ∧
      (id ∈ removals since → registry.remove id = (false, registry)) := by
  intro history registry
  refine ⟨history_record calls, nodup_additions few, ?_, fun early id listener since place => ⟨?_, ?_⟩⟩
  · unfold registrations
    rw [(isKept_record calls).holds]
  · exact remove_first few place
  · exact remove_again few place

/-- The first of three has gone, and a number was to be removed before it was given. -/
theorem departed_told_by_history :
    let calls : List (Call String) := [.add "first", .add "second", .remove 2, .remove 0, .add "third"]
    let registry := (record calls).registry
    calls.countP Call.isAdd ≤ Nat.pow 2 64 ∧ registry.registrations = ["second", "third"] ∧
      registry.remove 0 = (false, registry) ∧
      ∃ front back, registry.entries = front ++ (2, "third") :: back ∧
        registry.remove 2 = (true, { registry with entries := front ++ back }) := by
  intro calls registry
  have few : calls.countP Call.isAdd ≤ Nat.pow 2 64 := by decide
  obtain ⟨-, -, held, places⟩ := told_by_history calls few
  have first := places [] 0 "first" [.added 1 "second", .removed 2, .removed 0, .added 2 "third"] rfl
  have third := places [.added 0 "first", .added 1 "second", .removed 2, .removed 0] 2 "third" [] rfl
  exact ⟨few, held, first.2 (by decide), third.1 (by decide)⟩

end LiveConfig.ListenerRegistry
