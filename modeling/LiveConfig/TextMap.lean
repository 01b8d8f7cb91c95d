/-!
Maps from texts to values, kept in the order of their keys.

The order of texts is that of their code points, which is also the order of their UTF-8 bytes.
`TextMap.entries` is the view of a map; the lemmas say what looking up sees after each operation.
-/
namespace LiveConfig

theorem text_lt_of_not {a b : String} (ne : a ≠ b) (h : ¬ a < b) : b < a :=
  Decidable.byContradiction fun n => ne (String.le_antisymm (String.not_lt.mp n) (String.not_lt.mp h))

def Ascending {α : Type} (entries : List (String × α)) : Prop :=
  entries.Pairwise fun a b => a.1 < b.1

def entryOf? {α : Type} (key : String) : List (String × α) → Option α
  | [] => none
  | (k, v) :: rest => if k = key then some v else entryOf? key rest

def insertEntry {α : Type} (key : String) (value : α) : List (String × α) → List (String × α)
  | [] => [(key, value)]
  | (k, v) :: rest =>
    if k = key then (key, value) :: rest
    else if key < k then (key, value) :: (k, v) :: rest
    else (k, v) :: insertEntry key value rest

def eraseEntry {α : Type} (key : String) (entries : List (String × α)) : List (String × α) :=
  entries.filter fun e => e.1 ≠ key

theorem mem_insertEntry {α : Type} {key : String} {value : α} {entries : List (String × α)}
    {e : String × α} (h : e ∈ insertEntry key value entries) : e = (key, value) ∨ e ∈ entries := by
  induction entries with
  | nil => simp_all [insertEntry]
  | cons head rest ih =>
    simp only [insertEntry] at h
    split at h
    · simp at h; rcases h with h | h <;> simp [h]
    · split at h
      · simpa using h
      · simp only [List.mem_cons] at h
        rcases h with h | h
        · simp [h]
        · rcases ih h with h | h <;> simp [h]

theorem Ascending.insertEntry {α : Type} {key : String} {value : α} {entries : List (String × α)}
    (h : Ascending entries) : Ascending (insertEntry key value entries) := by
  induction entries with
  | nil => simp [LiveConfig.insertEntry, Ascending]
  | cons head rest ih =>
    obtain ⟨k, v⟩ := head
    have tail : Ascending rest := (List.pairwise_cons.mp h).2
    have least := (List.pairwise_cons.mp h).1
    simp only [LiveConfig.insertEntry]
    split
    · next e => subst e; exact List.pairwise_cons.mpr ⟨least, tail⟩
    · next ne =>
      split
      · next lt =>
        refine List.pairwise_cons.mpr ⟨fun e he => ?_, h⟩
        simp only [List.mem_cons] at he
        rcases he with rfl | he
        · exact lt
        · exact String.lt_trans lt (least e he)
      · next nlt =>
        refine List.pairwise_cons.mpr ⟨fun e he => ?_, ih tail⟩
        rcases mem_insertEntry he with rfl | he
        · exact text_lt_of_not (Ne.symm ne) nlt
        · exact least e he

theorem Ascending.eraseEntry {α : Type} {key : String} {entries : List (String × α)}
    (h : Ascending entries) : Ascending (eraseEntry key entries) := h.filter _

theorem entryOf?_insertEntry {α : Type} (key other : String) (value : α)
    (entries : List (String × α)) :
    entryOf? other (insertEntry key value entries) =
      if key = other then some value else entryOf? other entries := by
  induction entries with
  | nil => simp [insertEntry, entryOf?]
  | cons head rest ih =>
    obtain ⟨k, v⟩ := head
    simp only [insertEntry]
    split
    · next e => subst e; by_cases h : k = other <;> simp [entryOf?, h]
    · next ne =>
      split
      · by_cases h : key = other <;> simp [entryOf?, h]
      · simp only [entryOf?, ih]
        by_cases hk : k = other
        · subst hk; simp [Ne.symm ne]
        · simp [hk]

theorem entryOf?_eraseEntry {α : Type} (key other : String) (entries : List (String × α)) :
    entryOf? other (eraseEntry key entries) =
      if key = other then none else entryOf? other entries := by
  induction entries with
  | nil => simp [eraseEntry, entryOf?]
  | cons head rest ih =>
    obtain ⟨k, v⟩ := head
    simp only [eraseEntry, List.filter_cons] at ih ⊢
    by_cases hk : k = key
    · subst hk
      simp only [ne_eq, not_true_eq_false, decide_false, Bool.false_eq_true, if_false, ih, entryOf?]
      by_cases h : k = other <;> simp [h]
    · simp only [ne_eq, hk, not_false_eq_true, decide_true, if_true, entryOf?, ih]
      by_cases h : k = other
      · subst h; simp [Ne.symm hk]
      · simp [h]

structure TextMap (α : Type) where
  entries : List (String × α)
  ascending : Ascending entries

namespace TextMap

variable {α : Type}

instance [DecidableEq α] : DecidableEq (TextMap α) := fun a b =>
  decidable_of_iff (a.entries = b.entries) (by cases a; cases b; simp)

def empty : TextMap α := ⟨[], List.Pairwise.nil⟩

instance : Inhabited (TextMap α) := ⟨empty⟩

def get? (m : TextMap α) (key : String) : Option α := entryOf? key m.entries

def contains (m : TextMap α) (key : String) : Bool := (m.get? key).isSome

def insert (m : TextMap α) (key : String) (value : α) : TextMap α :=
  ⟨insertEntry key value m.entries, m.ascending.insertEntry⟩

def erase (m : TextMap α) (key : String) : TextMap α :=
  ⟨eraseEntry key m.entries, m.ascending.eraseEntry⟩

def insertIfNew (m : TextMap α) (key : String) (value : α) : TextMap α :=
  if m.contains key then m else m.insert key value

def keys (m : TextMap α) : List String := m.entries.map (·.1)

def size (m : TextMap α) : Nat := m.entries.length

def isEmpty (m : TextMap α) : Bool := m.entries.isEmpty

def ofList (entries : List (String × α)) : TextMap α :=
  entries.foldl (fun m (k, v) => m.insert k v) empty

def overriddenBy (m stronger : TextMap α) : TextMap α :=
  stronger.entries.foldl (fun m (k, v) => m.insert k v) m

def completedBy (m more : TextMap α) : TextMap α :=
  more.entries.foldl (fun m (k, v) => m.insertIfNew k v) m

@[simp] theorem get?_empty (key : String) : (empty : TextMap α).get? key = none := rfl

@[simp] theorem get?_insert (m : TextMap α) (key other : String) (value : α) :
    (m.insert key value).get? other = if key = other then some value else m.get? other :=
  entryOf?_insertEntry key other value m.entries

@[simp] theorem get?_erase (m : TextMap α) (key other : String) :
    (m.erase key).get? other = if key = other then none else m.get? other :=
  entryOf?_eraseEntry key other m.entries

theorem get?_insertIfNew (m : TextMap α) (key other : String) (value : α) :
    (m.insertIfNew key value).get? other =
      if key = other then some ((m.get? key).getD value) else m.get? other := by
  unfold insertIfNew contains
  cases h : m.get? key with
  | none => simp
  | some v =>
    by_cases e : key = other
    · subst e; simp [h]
    · simp [e]

end TextMap

abbrev PropertyMap := TextMap String

end LiveConfig
