import LiveConfig.Change

/-!
Finding the change of a key by halving.

A place that is found is right whatever the list.  Every place is found since the keys ascend, and a set from
which changes were taken out ascends still.
-/
namespace LiveConfig.ChangeSet

variable {changes : List Change} {key : String} {low high place : Nat} {within : high ≤ changes.length}

private theorem key_of_search? (found : search? changes key low high within = some place) :
    ∃ inside : place < changes.length, changes[place].key = key := by
  fun_induction search? changes key low high within with
  | case1 low high within left middle inside here =>
    obtain rfl := Option.some.inj found
    exact ⟨inside, here⟩
  | case2 low high within left middle inside other below ih => exact ih found
  | case3 low high within left middle inside other above ih => exact ih found
  | case4 => exact nomatch found

private theorem lt_of_key_lt (ascending : changes.Pairwise fun a b => a.key < b.key) {i j : Nat}
    (hi : i < changes.length) (hj : j < changes.length) (lt : changes[i].key < changes[j].key) : i < j := by
  apply Nat.lt_of_not_le
  intro le
  rcases Nat.lt_or_eq_of_le le with after | rfl
  · have gt := List.pairwise_iff_getElem.mp ascending j i hj hi after
    exact String.lt_irrefl _ (String.lt_trans lt gt)
  · exact String.lt_irrefl _ lt

private theorem place_eq_of_key_eq (ascending : changes.Pairwise fun a b => a.key < b.key) {i j : Nat}
    (hi : i < changes.length) (hj : j < changes.length) (same : changes[i].key = changes[j].key) : i = j := by
  rcases Nat.lt_trichotomy i j with before | equal | after
  · have lt := List.pairwise_iff_getElem.mp ascending i j hi hj before
    exact absurd (same ▸ lt) (String.lt_irrefl _)
  · exact equal
  · have gt := List.pairwise_iff_getElem.mp ascending j i hj hi after
    exact absurd (same ▸ gt) (String.lt_irrefl _)

private theorem search?_eq_some (ascending : changes.Pairwise fun a b => a.key < b.key)
    (inside : place < changes.length) (here : changes[place].key = key) (above : low ≤ place)
    (below : place < high) : search? changes key low high within = some place := by
  fun_induction search? changes key low high within with
  | case1 low high within left middle there same =>
    exact congrArg some (place_eq_of_key_eq ascending there inside (same.trans here.symm))
  | case2 low high within left middle there other smaller ih =>
    exact ih (lt_of_key_lt ascending there inside (here ▸ smaller)) below
  | case3 low high within left middle there other smaller ih =>
    have larger : changes[place].key < changes[middle].key := here ▸ text_lt_of_not other smaller
    exact ih above (lt_of_key_lt ascending inside there larger)
  | case4 low high within empty => omega

private theorem place?_eq_some_iff {s : ChangeSet} :
    s.place? key = some place ↔ ∃ inside : place < s.changes.length, s.changes[place].key = key := by
  constructor
  · exact key_of_search?
  · rintro ⟨inside, here⟩
    exact search?_eq_some s.ascending inside here (Nat.zero_le place) inside

private theorem place?_eq_none_iff {s : ChangeSet} : s.place? key = none ↔ ∀ c ∈ s.changes, c.key ≠ key := by
  rw [Option.eq_none_iff_forall_ne_some]
  constructor
  · intro missing c mem here
    obtain ⟨place, inside, rfl⟩ := List.getElem_of_mem mem
    exact missing place (place?_eq_some_iff.mpr ⟨inside, here⟩)
  · intro absent place found
    obtain ⟨inside, here⟩ := place?_eq_some_iff.mp found
    exact absent _ (List.getElem_mem inside) here

/-- Looking up finds exactly the changes that are in the set. -/
theorem get?_eq_some_iff {s : ChangeSet} {c : Change} : s.get? key = some c ↔ c ∈ s.changes ∧ c.key = key := by
  unfold get?
  rw [Option.bind_eq_some_iff]
  constructor
  · rintro ⟨place, found, at_place⟩
    obtain ⟨inside, here⟩ := place?_eq_some_iff.mp found
    rw [List.getElem?_eq_getElem inside] at at_place
    obtain rfl := Option.some.inj at_place
    exact ⟨List.getElem_mem inside, here⟩
  · rintro ⟨mem, here⟩
    obtain ⟨place, inside, rfl⟩ := List.getElem_of_mem mem
    exact ⟨place, place?_eq_some_iff.mpr ⟨inside, here⟩, List.getElem?_eq_getElem inside⟩

theorem mem_without {s : ChangeSet} {c : Change} : c ∈ (s.without key).changes ↔ c ∈ s.changes ∧ c.key ≠ key := by
  unfold without
  split
  · next missing =>
    have absent := place?_eq_none_iff.mp missing
    exact ⟨fun mem => ⟨mem, absent c mem⟩, And.left⟩
  · next place found =>
    obtain ⟨inside, here⟩ := place?_eq_some_iff.mp found
    rw [List.mem_eraseIdx_iff_getElem]
    constructor
    · rintro ⟨other, there, ne, rfl⟩
      refine ⟨List.getElem_mem there, ?_⟩
      intro same
      exact ne (place_eq_of_key_eq s.ascending there inside (same.trans here.symm))
    · rintro ⟨mem, ne⟩
      obtain ⟨other, there, rfl⟩ := List.getElem_of_mem mem
      refine ⟨other, there, ?_, rfl⟩
      rintro rfl
      exact ne here

end LiveConfig.ChangeSet
