import LiveConfig.TextMap

/-!
Changes between two property maps.

`ChangeSet.between` walks both maps in the order of their keys.  A change set lists at most one change
per key, ascending by key, so that the change of a key is found by halving.
-/
namespace LiveConfig

inductive ChangeKind where
  | added
  | removed
  | modified
  deriving DecidableEq, Repr

def ChangeKind.name : ChangeKind → String
  | .added => "Added"
  | .removed => "Removed"
  | .modified => "Modified"

structure Change where
  key : String
  old : Option String
  new : Option String
  deriving DecidableEq, Repr

def Change.kind (c : Change) : ChangeKind :=
  match c.old, c.new with
  | none, _ => .added
  | some _, none => .removed
  | some _, some _ => .modified

def entryChanges : List (String × String) → List (String × String) → List Change
  | [], [] => []
  | (k, v) :: old, [] => ⟨k, some v, none⟩ :: entryChanges old []
  | [], (k, v) :: new => ⟨k, none, some v⟩ :: entryChanges [] new
  | (k, v) :: old, (l, w) :: new =>
    if k = l then
      if v = w then entryChanges old new else ⟨k, some v, some w⟩ :: entryChanges old new
    else if k < l then ⟨k, some v, none⟩ :: entryChanges old ((l, w) :: new)
    else ⟨l, none, some w⟩ :: entryChanges ((k, v) :: old) new
termination_by old new => old.length + new.length

theorem key_of_mem_entryChanges {old new : List (String × String)} {c : Change}
    (h : c ∈ entryChanges old new) : c.key ∈ old.map (·.1) ∨ c.key ∈ new.map (·.1) := by
  fun_induction entryChanges old new with
  | case1 => simp at h
  | case2 k v old ih =>
    rcases List.mem_cons.mp h with rfl | h
    · simp
    · rcases ih h with h | h <;> simp_all
  | case3 k v new ih =>
    rcases List.mem_cons.mp h with rfl | h
    · simp
    · rcases ih h with h | h <;> simp_all
  | case4 old l w new ih =>
    rcases ih h with h | h <;> simp [h]
  | case5 k v old w new _ ih =>
    rcases List.mem_cons.mp h with rfl | h
    · simp
    · rcases ih h with h | h <;> simp [h]
  | case6 k v old l w new _ _ ih =>
    rcases List.mem_cons.mp h with rfl | h
    · simp
    · rcases ih h with h | h
      · simp [h]
      · exact Or.inr h
  | case7 k v old l w new _ _ ih =>
    rcases List.mem_cons.mp h with rfl | h
    · simp
    · rcases ih h with h | h
      · exact Or.inl h
      · simp [h]

private theorem lt_keys {k : String} {v : String} {entries : List (String × String)}
    (h : Ascending ((k, v) :: entries)) : ∀ l ∈ entries.map (·.1), k < l := by
  intro l hl
  obtain ⟨e, he, rfl⟩ := List.mem_map.mp hl
  exact (List.pairwise_cons.mp h).1 e he

theorem ascending_entryChanges {old new : List (String × String)} (ho : Ascending old)
    (hn : Ascending new) : (entryChanges old new).Pairwise fun a b => a.key < b.key := by
  fun_induction entryChanges old new with
  | case1 => exact List.Pairwise.nil
  | case2 k v old ih =>
    refine List.pairwise_cons.mpr ⟨fun c hc => ?_, ih (List.pairwise_cons.mp ho).2 hn⟩
    rcases key_of_mem_entryChanges hc with h | h
    · exact lt_keys ho _ h
    · simp at h
  | case3 k v new ih =>
    refine List.pairwise_cons.mpr ⟨fun c hc => ?_, ih ho (List.pairwise_cons.mp hn).2⟩
    rcases key_of_mem_entryChanges hc with h | h
    · simp at h
    · exact lt_keys hn _ h
  | case4 old l w new ih => exact ih (List.pairwise_cons.mp ho).2 (List.pairwise_cons.mp hn).2
  | case5 k v old w new _ ih =>
    refine List.pairwise_cons.mpr
      ⟨fun c hc => ?_, ih (List.pairwise_cons.mp ho).2 (List.pairwise_cons.mp hn).2⟩
    rcases key_of_mem_entryChanges hc with h | h
    · exact lt_keys ho _ h
    · exact lt_keys hn _ h
  | case6 k v old l w new _ lt ih =>
    refine List.pairwise_cons.mpr ⟨fun c hc => ?_, ih (List.pairwise_cons.mp ho).2 hn⟩
    rcases key_of_mem_entryChanges hc with h | h
    · exact lt_keys ho _ h
    · rcases List.mem_cons.mp h with h | h
      · rw [h]; exact lt
      · exact String.lt_trans lt (lt_keys hn _ h)
  | case7 k v old l w new ne nlt ih =>
    refine List.pairwise_cons.mpr ⟨fun c hc => ?_, ih ho (List.pairwise_cons.mp hn).2⟩
    have lk := text_lt_of_not ne nlt
    rcases key_of_mem_entryChanges hc with h | h
    · rcases List.mem_cons.mp h with h | h
      · rw [h]; exact lk
      · exact String.lt_trans lk (lt_keys ho _ h)
    · exact lt_keys hn _ h

structure ChangeSet where
  changes : List Change
  ascending : changes.Pairwise fun a b => a.key < b.key
  deriving DecidableEq

namespace ChangeSet

def between (old new : PropertyMap) : ChangeSet :=
  ⟨entryChanges old.entries new.entries, ascending_entryChanges old.ascending new.ascending⟩

def isEmpty (s : ChangeSet) : Bool := s.changes.isEmpty

def size (s : ChangeSet) : Nat := s.changes.length

@[semireducible] def search? (changes : List Change) (key : String) (low high : Nat)
    (within : high ≤ changes.length) : Option Nat :=
  if left : low < high then
    let middle := low + (high - low) / 2
    have inside : middle < changes.length := by omega
    if changes[middle].key = key then some middle
    else if changes[middle].key < key then search? changes key (middle + 1) high within
    else search? changes key low middle (Nat.le_of_lt inside)
  else none
termination_by high - low

def place? (s : ChangeSet) (key : String) : Option Nat :=
  search? s.changes key 0 s.changes.length (Nat.le_refl _)

def get? (s : ChangeSet) (key : String) : Option Change :=
  (s.place? key).bind fun place => s.changes[place]?

def without (s : ChangeSet) (key : String) : ChangeSet :=
  match s.place? key with
  | none => s
  | some place =>
    ⟨s.changes.eraseIdx place, s.ascending.sublist (List.eraseIdx_sublist s.changes place)⟩

def applyOne (m : PropertyMap) (c : Change) : PropertyMap :=
  match c.new with
  | some value => m.insert c.key value
  | none => m.erase c.key

def applyTo (s : ChangeSet) (m : PropertyMap) : PropertyMap := s.changes.foldl applyOne m

end ChangeSet
end LiveConfig
