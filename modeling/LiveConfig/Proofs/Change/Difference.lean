import Mathlib.Data.List.Sort
import LiveConfig.Proofs.Change.Search
import LiveConfig.Proofs.TextMap.Lookup

/-!
Change sets and the maps that they are taken from.

The walk over two maps finds a change for a key exactly if the maps differ there.  Since a change set is
determined by its members, making some of the changes and taking the difference again gives back the
changes that were made.
-/
namespace LiveConfig

def Change.Parts (c : Change) (old new : List (String × String)) : Prop :=
  c.old = entryOf? c.key old ∧ c.new = entryOf? c.key new ∧ c.old ≠ c.new

private def Extends (key : String) (entries more : List (String × String)) : Prop :=
  entryOf? key entries = none ∧ ∀ other, other ≠ key → entryOf? other more = entryOf? other entries

private theorem Extends.cons {key value : String} {rest : List (String × String)}
    (h : Ascending ((key, value) :: rest)) : Extends key rest ((key, value) :: rest) := by
  refine ⟨h.entryOf?_tail, ?_⟩
  intro other ne
  simp [entryOf?, Ne.symm ne]

private theorem Extends.rfl {key : String} {entries : List (String × String)}
    (absent : entryOf? key entries = none) : Extends key entries entries :=
  ⟨absent, fun _ _ => Eq.refl _⟩

/-- What the entries of one key contribute is at most one change. -/
private theorem parts_iff {c : Change} {key : String} {old new old' new' : List (String × String)}
    (first : Extends key old old') (second : Extends key new new') :
    c.Parts old' new' ↔
      (c = ⟨key, entryOf? key old', entryOf? key new'⟩ ∧ entryOf? key old' ≠ entryOf? key new') ∨
        c.Parts old new := by
  obtain ⟨k, o, n⟩ := c
  unfold Change.Parts
  by_cases same : k = key
  · subst same
    simp only [first.1, second.1, Change.mk.injEq, true_and]
    constructor
    · rintro ⟨rfl, rfl, ne⟩
      exact Or.inl ⟨⟨rfl, rfl⟩, ne⟩
    · rintro (⟨⟨rfl, rfl⟩, ne⟩ | ⟨rfl, rfl, ne⟩)
      · exact ⟨rfl, rfl, ne⟩
      · exact absurd rfl ne
  · simp only [first.2 k same, second.2 k same, Change.mk.injEq, same, false_and, false_or]

private theorem entryOf?_cons_self (key value : String) (rest : List (String × String)) :
    entryOf? key ((key, value) :: rest) = some value := by
  simp [entryOf?]

private theorem mem_entryChanges {old new : List (String × String)} (ho : Ascending old) (hn : Ascending new)
    {c : Change} : c ∈ entryChanges old new ↔ c.Parts old new := by
  fun_induction entryChanges old new with
  | case1 =>
    constructor
    · intro mem
      exact absurd mem List.not_mem_nil
    · rintro ⟨eq_old, eq_new, ne⟩
      exact absurd (eq_old.trans eq_new.symm) ne
  | case2 k v old ih =>
    rw [List.mem_cons, ih (List.pairwise_cons.mp ho).2 hn, parts_iff (.cons ho) (.rfl rfl),
      entryOf?_cons_self]
    simp [entryOf?]
  | case3 k v new ih =>
    rw [List.mem_cons, ih ho (List.pairwise_cons.mp hn).2, parts_iff (.rfl rfl) (.cons hn),
      entryOf?_cons_self]
    simp [entryOf?]
  | case4 k v old new ih =>
    rw [ih (List.pairwise_cons.mp ho).2 (List.pairwise_cons.mp hn).2,
      parts_iff (.cons ho) (.cons hn), entryOf?_cons_self, entryOf?_cons_self]
    simp
  | case5 k v old w new ne ih =>
    rw [List.mem_cons, ih (List.pairwise_cons.mp ho).2 (List.pairwise_cons.mp hn).2,
      parts_iff (.cons ho) (.cons hn), entryOf?_cons_self, entryOf?_cons_self]
    simp [ne]
  | case6 k v old l w new _ lt ih =>
    have absent : entryOf? k ((l, w) :: new) = none := hn.entryOf?_below lt
    rw [List.mem_cons, ih (List.pairwise_cons.mp ho).2 hn, parts_iff (.cons ho) (.rfl absent),
      entryOf?_cons_self, absent]
    simp
  | case7 k v old l w new ne nlt ih =>
    have absent : entryOf? l ((k, v) :: old) = none := ho.entryOf?_below (text_lt_of_not ne nlt)
    rw [List.mem_cons, ih ho (List.pairwise_cons.mp hn).2, parts_iff (.rfl absent) (.cons hn),
      entryOf?_cons_self, absent]
    simp

namespace ChangeSet

theorem ext_mem {s t : ChangeSet} (same : ∀ c, c ∈ s.changes ↔ c ∈ t.changes) : s = t := by
  obtain ⟨a, ha⟩ := s
  obtain ⟨b, hb⟩ := t
  have : Std.Irrefl fun a b : Change => a.key < b.key := ⟨fun c => String.lt_irrefl c.key⟩
  have : Std.Antisymm fun a b : Change => a.key < b.key :=
    ⟨fun c d lt gt => absurd (String.lt_trans lt gt) (String.lt_irrefl c.key)⟩
  have eq : a = b := ha.eq_of_mem_iff hb same
  subst eq
  rfl

theorem eq_of_key_eq (s : ChangeSet) {c d : Change} (mem_c : c ∈ s.changes) (mem_d : d ∈ s.changes)
    (same : c.key = d.key) : c = d := by
  have apart : (s.changes.map Change.key).Nodup := by
    apply List.pairwise_map.mpr
    apply s.ascending.imp
    intro a b lt same
    rw [same] at lt
    exact String.lt_irrefl b.key lt
  exact List.inj_on_of_nodup_map apart mem_c mem_d same

theorem mem_between {old new : PropertyMap} {c : Change} :
    c ∈ (between old new).changes ↔ c.old = old.get? c.key ∧ c.new = new.get? c.key ∧ c.old ≠ c.new :=
  mem_entryChanges old.ascending new.ascending

def dropping (s : ChangeSet) (keys : List String) : ChangeSet :=
  ⟨s.changes.filter fun c => c.key ∉ keys, s.ascending.filter _⟩

theorem mem_dropping {s : ChangeSet} {keys : List String} {c : Change} :
    c ∈ (s.dropping keys).changes ↔ c ∈ s.changes ∧ c.key ∉ keys := by
  simp [dropping]

theorem dropping_subset (s : ChangeSet) (keys : List String) : (s.dropping keys).changes ⊆ s.changes :=
  fun _ mem => (mem_dropping.mp mem).1

theorem dropping_nil (s : ChangeSet) : s.dropping [] = s := by
  apply ext_mem
  intro c
  simp [mem_dropping]

theorem dropping_append (s : ChangeSet) (first second : List String) :
    (s.dropping first).dropping second = s.dropping (first ++ second) := by
  apply ext_mem
  intro c
  simp [mem_dropping, and_assoc]

theorem without_eq_dropping (s : ChangeSet) (key : String) : s.without key = s.dropping [key] := by
  apply ext_mem
  intro c
  simp [mem_without, mem_dropping]

private theorem get?_foldl_applyOne_of_forall_ne {changes : List Change} {key : String}
    (ne : ∀ c ∈ changes, c.key ≠ key) (m : PropertyMap) :
    (changes.foldl applyOne m).get? key = m.get? key := by
  induction changes generalizing m with
  | nil => rfl
  | cons c rest ih =>
    have here : (applyOne m c).get? key = m.get? key := by
      have := ne c List.mem_cons_self
      unfold applyOne
      split <;> simp [this]
    rw [List.foldl_cons, ih (fun d mem => ne d (List.mem_cons_of_mem _ mem)), here]

private theorem get?_applyTo_of_forall_ne {s : ChangeSet} {key : String} (ne : ∀ c ∈ s.changes, c.key ≠ key)
    (m : PropertyMap) : (s.applyTo m).get? key = m.get? key :=
  get?_foldl_applyOne_of_forall_ne ne m

private theorem get?_applyTo_of_mem {s : ChangeSet} {c : Change} (mem : c ∈ s.changes) (m : PropertyMap) :
    (s.applyTo m).get? c.key = c.new := by
  obtain ⟨changes, ascending⟩ := s
  unfold applyTo
  dsimp only at mem ⊢
  induction changes generalizing m with
  | nil => exact nomatch mem
  | cons d rest ih =>
    obtain ⟨below, tail⟩ := List.pairwise_cons.mp ascending
    rcases List.mem_cons.mp mem with rfl | later
    -- Keys ascend, so no later change touches this one.
    · have ne : ∀ d ∈ rest, d.key ≠ c.key := by
        intro d mem same
        have lt := below d mem
        rw [same] at lt
        exact String.lt_irrefl c.key lt
      rw [List.foldl_cons, get?_foldl_applyOne_of_forall_ne ne]
      unfold applyOne
      split
      · next value eq => simp [eq]
      · next eq => simp [eq]
    · exact ih (applyOne m d) tail later

/-- Making a difference except for some keys: these keep their entries, and all others get the new
ones. -/
theorem get?_applyTo_dropping_between (old new : PropertyMap) (keys : List String) (key : String) :
    (((between old new).dropping keys).applyTo old).get? key =
      if key ∈ keys then old.get? key else new.get? key := by
  by_cases differs : old.get? key ≠ new.get? key ∧ key ∉ keys
  · obtain ⟨ne, free⟩ := differs
    have mem : (⟨key, old.get? key, new.get? key⟩ : Change) ∈ ((between old new).dropping keys).changes :=
      mem_dropping.mpr ⟨mem_between.mpr ⟨rfl, rfl, ne⟩, free⟩
    rw [get?_applyTo_of_mem mem, if_neg free]
  · have unchanged : ∀ c ∈ ((between old new).dropping keys).changes, c.key ≠ key := by
      rintro c mem rfl
      obtain ⟨mem, free⟩ := mem_dropping.mp mem
      obtain ⟨eq_old, eq_new, ne⟩ := mem_between.mp mem
      rw [eq_old, eq_new] at ne
      exact differs ⟨ne, free⟩
    rw [get?_applyTo_of_forall_ne unchanged]
    split
    · rfl
    · next free =>
      by_contra ne
      exact differs ⟨ne, free⟩

theorem applyTo_between (old new : PropertyMap) : (between old new).applyTo old = new := by
  apply TextMap.ext_get?
  intro key
  have value := get?_applyTo_dropping_between old new [] key
  rw [dropping_nil, if_neg List.not_mem_nil] at value
  exact value

theorem applyTo_applyTo (s : ChangeSet) (m : PropertyMap) : s.applyTo (s.applyTo m) = s.applyTo m := by
  apply TextMap.ext_get?
  intro key
  by_cases made : ∃ c ∈ s.changes, c.key = key
  · obtain ⟨c, mem, rfl⟩ := made
    rw [get?_applyTo_of_mem mem, get?_applyTo_of_mem mem]
  · have unchanged : ∀ c ∈ s.changes, c.key ≠ key := fun c mem same => made ⟨c, mem, same⟩
    rw [get?_applyTo_of_forall_ne unchanged]

/-- The difference after some changes of a difference were made consists of these changes. -/
theorem between_applyTo_dropping (old new : PropertyMap) (keys : List String) :
    between old (((between old new).dropping keys).applyTo old) = (between old new).dropping keys := by
  apply ext_mem
  intro c
  rw [mem_between, mem_dropping, mem_between, get?_applyTo_dropping_between]
  by_cases mem : c.key ∈ keys
  · simp only [mem, if_true, not_true_eq_false, and_false, iff_false]
    rintro ⟨eq_old, eq_new, ne⟩
    exact ne (eq_old.trans eq_new.symm)
  · simp only [mem, if_false, not_false_eq_true, and_true]

end ChangeSet
end LiveConfig
