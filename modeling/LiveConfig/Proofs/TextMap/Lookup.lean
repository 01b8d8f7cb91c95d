import LiveConfig.TextMap

/-!
Looking up in maps of texts: what the operations on whole maps do to each key.  A map is determined by
what looking up gives, so equations between maps are proved key by key.
-/
namespace LiveConfig

variable {α : Type}

theorem entryOf?_eq_none_iff {key : String} {entries : List (String × α)} :
    entryOf? key entries = none ↔ ∀ e ∈ entries, e.1 ≠ key := by
  induction entries with
  | nil => simp [entryOf?]
  | cons head rest ih =>
    obtain ⟨k, v⟩ := head
    by_cases same : k = key
    · simp [entryOf?, same]
    · simp [entryOf?, same, ih]

theorem mem_of_entryOf? {key : String} {value : α} {entries : List (String × α)}
    (h : entryOf? key entries = some value) : (key, value) ∈ entries := by
  induction entries with
  | nil => simp [entryOf?] at h
  | cons head rest ih =>
    obtain ⟨k, v⟩ := head
    by_cases same : k = key
    · simp only [entryOf?, same, if_true, Option.some.injEq] at h
      rw [same, h]
      exact List.mem_cons_self
    · simp only [entryOf?, same, if_false] at h
      exact List.mem_cons_of_mem _ (ih h)

theorem entryOf?_append (key : String) (front back : List (String × α)) :
    entryOf? key (front ++ back) = (entryOf? key front).or (entryOf? key back) := by
  induction front with
  | nil => rfl
  | cons head rest ih =>
    obtain ⟨k, v⟩ := head
    by_cases same : k = key
    · simp [entryOf?, same]
    · simp [entryOf?, same, ih]

theorem Ascending.entryOf?_tail {key : String} {value : α} {rest : List (String × α)}
    (h : Ascending ((key, value) :: rest)) : entryOf? key rest = none := by
  apply entryOf?_eq_none_iff.mpr
  intro e he same
  have lt := (List.pairwise_cons.mp h).1 e he
  rw [same] at lt
  exact String.lt_irrefl key lt

theorem Ascending.entryOf?_below {key k : String} {value : α} {rest : List (String × α)}
    (h : Ascending ((k, value) :: rest)) (lt : key < k) : entryOf? key ((k, value) :: rest) = none := by
  apply entryOf?_eq_none_iff.mpr
  intro e he same
  rcases List.mem_cons.mp he with rfl | he
  · exact String.lt_irrefl key (same ▸ lt)
  · have above := (List.pairwise_cons.mp h).1 e he
    rw [same] at above
    exact String.lt_irrefl key (String.lt_trans lt above)

private theorem Ascending.entryOf?_of_mem {key : String} {value : α} {entries : List (String × α)}
    (h : Ascending entries) (mem : (key, value) ∈ entries) : entryOf? key entries = some value := by
  induction entries with
  | nil => exact nomatch mem
  | cons head rest ih =>
    obtain ⟨least, tail⟩ := List.pairwise_cons.mp h
    rcases List.mem_cons.mp mem with rfl | mem
    · rw [entryOf?, if_pos rfl]
    · have ne : head.1 ≠ key := by
        intro same
        have lt := least _ mem
        rw [same] at lt
        exact String.lt_irrefl key lt
      rw [entryOf?, if_neg ne]
      exact ih tail mem

private theorem Ascending.ext {a b : List (String × α)} (ha : Ascending a) (hb : Ascending b)
    (same : ∀ key, entryOf? key a = entryOf? key b) : a = b := by
  induction a generalizing b with
  | nil =>
    cases b with
    | nil => rfl
    | cons head rest =>
      have := same head.1
      simp [entryOf?] at this
  | cons first rest ih =>
    obtain ⟨k, v⟩ := first
    cases b with
    | nil =>
      have := same k
      simp [entryOf?] at this
    | cons head others =>
      obtain ⟨l, w⟩ := head
      have eq : k = l := by
        by_cases lt : k < l
        · have absent := hb.entryOf?_below lt
          rw [← same k] at absent
          simp [entryOf?] at absent
        · by_cases gt : l < k
          · have absent := ha.entryOf?_below gt
            rw [same l] at absent
            simp [entryOf?] at absent
          · exact String.le_antisymm (String.not_lt.mp gt) (String.not_lt.mp lt)
      subst eq
      have value : v = w := by simpa [entryOf?] using same k
      subst value
      have tails : rest = others := by
        apply ih (List.pairwise_cons.mp ha).2 (List.pairwise_cons.mp hb).2
        intro key
        by_cases at_head : k = key
        · subst at_head
          rw [ha.entryOf?_tail, hb.entryOf?_tail]
        · simpa [entryOf?, at_head] using same key
      rw [tails]

namespace TextMap

theorem get?_of_mem {m : TextMap α} {e : String × α} (mem : e ∈ m.entries) : m.get? e.1 = some e.2 :=
  m.ascending.entryOf?_of_mem mem

theorem mem_keys {m : TextMap α} {key : String} : key ∈ m.keys ↔ ∃ value, m.get? key = some value := by
  unfold keys
  rw [List.mem_map]
  constructor
  · rintro ⟨e, mem, rfl⟩
    exact ⟨e.2, get?_of_mem mem⟩
  · rintro ⟨value, found⟩
    exact ⟨(key, value), mem_of_entryOf? found, rfl⟩

theorem get?_eq_none {m : TextMap α} {key : String} (absent : key ∉ m.keys) : m.get? key = none := by
  cases found : m.get? key with
  | none => rfl
  | some value => exact absurd (mem_keys.mpr ⟨value, found⟩) absent

theorem ext_get? {m n : TextMap α} (same : ∀ key, m.get? key = n.get? key) : m = n := by
  obtain ⟨a, ha⟩ := m
  obtain ⟨b, hb⟩ := n
  have eq : a = b := ha.ext hb same
  subst eq
  rfl

private theorem get?_foldl_insert (entries : List (String × α)) (ascending : Ascending entries)
    (m : TextMap α) (key : String) :
    (entries.foldl (fun m (k, v) => m.insert k v) m).get? key =
      (entryOf? key entries).or (m.get? key) := by
  induction entries generalizing m with
  | nil => rfl
  | cons head rest ih =>
    obtain ⟨k, v⟩ := head
    rw [List.foldl_cons, ih (List.pairwise_cons.mp ascending).2, get?_insert]
    by_cases same : k = key
    · subst same
      simp [ascending.entryOf?_tail, entryOf?]
    · simp [entryOf?, same]

theorem ofList_entries (m : TextMap α) : ofList m.entries = m := by
  apply ext_get?
  intro key
  unfold ofList
  rw [get?_foldl_insert m.entries m.ascending, get?_empty, Option.or_none]
  rfl

theorem get?_ofList (entries : List (String × α)) (key : String) :
    (ofList entries).get? key = entryOf? key entries.reverse := by
  have started : ∀ m : TextMap α, (entries.foldl (fun m (k, v) => m.insert k v) m).get? key =
      (entryOf? key entries.reverse).or (m.get? key) := by
    induction entries with
    | nil => simp [entryOf?]
    | cons head rest ih =>
      intro m
      obtain ⟨k, v⟩ := head
      rw [List.foldl_cons, ih, get?_insert, List.reverse_cons, entryOf?_append, Option.or_assoc]
      by_cases same : k = key
      · simp [entryOf?, same]
      · simp [entryOf?, same]
  rw [ofList, started, get?_empty, Option.or_none]

/-- Where entries of the same key have the same value, none of them is lost. -/
theorem get?_ofList_eq_some_iff {entries : List (String × α)}
    (alike : ∀ e ∈ entries, ∀ e' ∈ entries, e.1 = e'.1 → e.2 = e'.2) {key : String} {value : α} :
    (ofList entries).get? key = some value ↔ (key, value) ∈ entries := by
  rw [get?_ofList]
  constructor
  · intro found
    exact List.mem_reverse.mp (mem_of_entryOf? found)
  · intro mem
    cases found : entryOf? key entries.reverse with
    | none => exact absurd rfl (entryOf?_eq_none_iff.mp found _ (List.mem_reverse.mpr mem))
    | some other =>
      have there := List.mem_reverse.mp (mem_of_entryOf? found)
      exact congrArg some (alike _ there _ mem rfl)

theorem get?_foldl_insertIfNew (entries : List (String × α)) (m : TextMap α) (key : String) :
    (entries.foldl (fun m (k, v) => m.insertIfNew k v) m).get? key =
      (m.get? key).or (entryOf? key entries) := by
  induction entries generalizing m with
  | nil => simp [entryOf?]
  | cons head rest ih =>
    obtain ⟨k, v⟩ := head
    rw [List.foldl_cons, ih, get?_insertIfNew]
    by_cases same : k = key
    · subst same
      cases m.get? k <;> simp [entryOf?]
    · simp [entryOf?, same]

theorem get?_overriddenBy (m stronger : TextMap α) (key : String) :
    (m.overriddenBy stronger).get? key = (stronger.get? key).or (m.get? key) :=
  get?_foldl_insert stronger.entries stronger.ascending m key

private theorem get?_completedBy (m more : TextMap α) (key : String) :
    (m.completedBy more).get? key = (m.get? key).or (more.get? key) :=
  get?_foldl_insertIfNew more.entries m key

theorem overriddenBy_assoc (m stronger strongest : TextMap α) :
    (m.overriddenBy stronger).overriddenBy strongest = m.overriddenBy (stronger.overriddenBy strongest) := by
  apply ext_get?
  intro key
  simp only [get?_overriddenBy, Option.or_assoc]

theorem ofList_append (front back : List (String × α)) :
    ofList (front ++ back) = (ofList front).overriddenBy (ofList back) := by
  apply ext_get?
  intro key
  rw [get?_overriddenBy, get?_ofList, get?_ofList, get?_ofList, List.reverse_append, entryOf?_append]

/-- Completing by several maps one after another: the first that has the key gives its value. -/
theorem get?_foldl_completedBy (maps : List (TextMap α)) (m : TextMap α) (key : String) :
    (maps.foldl completedBy m).get? key =
      (m.get? key).or (maps.findSome? fun m => m.get? key) := by
  induction maps generalizing m with
  | nil => simp
  | cons first rest ih =>
    rw [List.foldl_cons, ih, get?_completedBy, List.findSome?_cons]
    cases m.get? key <;> cases first.get? key <;> simp

end TextMap
end LiveConfig
