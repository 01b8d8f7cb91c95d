import LiveConfig.Proofs.Change.Difference

/-!
The difference of two maps is exact.

It has one change for each key on which the maps differ and none for another key, it is empty only for equal
maps, and the way back is the same list with old and new exchanged.  Looking up in it finds what was not taken
out, whatever was taken out before.
-/
namespace LiveConfig

def Change.reversed (c : Change) : Change := ⟨c.key, c.new, c.old⟩

@[simp] theorem Change.key_reversed (c : Change) : c.reversed.key = c.key := rfl

@[simp] theorem Change.reversed_reversed (c : Change) : c.reversed.reversed = c := rfl

private theorem Change.kind_eq_added_iff {c : Change} : c.kind = .added ↔ c.old = none := by
  obtain ⟨key, old, new⟩ := c
  cases old <;> cases new <;> simp [kind]

private theorem Change.kind_eq_removed_iff {c : Change} (differs : c.old ≠ c.new) :
    c.kind = .removed ↔ c.new = none := by
  obtain ⟨key, old, new⟩ := c
  cases old <;> cases new <;> simp_all [kind]

private theorem Change.kind_eq_modified_iff {c : Change} : c.kind = .modified ↔ c.old.isSome ∧ c.new.isSome := by
  obtain ⟨key, old, new⟩ := c
  cases old <;> cases new <;> simp [kind]

namespace ChangeSet

def reversed (s : ChangeSet) : ChangeSet :=
  ⟨s.changes.map Change.reversed, List.pairwise_map.mpr s.ascending⟩

private theorem mem_reversed {s : ChangeSet} {c : Change} : c ∈ s.reversed.changes ↔ c.reversed ∈ s.changes := by
  unfold reversed
  rw [List.mem_map]
  constructor
  · rintro ⟨d, mem, rfl⟩
    exact mem
  · intro mem
    exact ⟨c.reversed, mem, c.reversed_reversed⟩

private theorem between_swap (old new : PropertyMap) : between new old = (between old new).reversed := by
  apply ext_mem
  intro c
  rw [mem_reversed, mem_between, mem_between]
  constructor
  · rintro ⟨eq_new, eq_old, differs⟩
    exact ⟨eq_old, eq_new, differs.symm⟩
  · rintro ⟨eq_old, eq_new, differs⟩
    exact ⟨eq_new, eq_old, differs.symm⟩

private theorem exists_change_iff {old new : PropertyMap} {key : String} :
    (∃ c ∈ (between old new).changes, c.key = key) ↔ old.get? key ≠ new.get? key := by
  constructor
  · rintro ⟨c, mem, rfl⟩
    obtain ⟨eq_old, eq_new, differs⟩ := mem_between.mp mem
    rw [← eq_old, ← eq_new]
    exact differs
  · intro differs
    exact ⟨⟨key, old.get? key, new.get? key⟩, mem_between.mpr ⟨rfl, rfl, differs⟩, rfl⟩

private theorem isEmpty_between_iff {old new : PropertyMap} : (between old new).isEmpty = true ↔ old = new := by
  unfold isEmpty
  rw [List.isEmpty_iff, List.eq_nil_iff_forall_not_mem]
  constructor
  · intro nothing
    apply TextMap.ext_get?
    intro key
    by_contra differs
    obtain ⟨c, mem, -⟩ := exists_change_iff.mpr differs
    exact nothing c mem
  · rintro rfl c mem
    obtain ⟨eq_old, eq_new, differs⟩ := mem_between.mp mem
    exact differs (eq_old.trans eq_new.symm)

/-- One removal after another. -/
private theorem foldl_without (s : ChangeSet) (removed : List String) :
    removed.foldl without s = s.dropping removed := by
  induction removed generalizing s with
  | nil => exact s.dropping_nil.symm
  | cons key rest ih => rw [List.foldl_cons, ih, without_eq_dropping, dropping_append, List.singleton_append]

private theorem get?_foldl_without {s : ChangeSet} {removed : List String} {key : String} {c : Change} :
    (removed.foldl without s).get? key = some c ↔ c ∈ s.changes ∧ c.key = key ∧ key ∉ removed := by
  rw [foldl_without, get?_eq_some_iff, mem_dropping]
  constructor
  · rintro ⟨⟨mem, free⟩, rfl⟩
    exact ⟨mem, rfl, free⟩
  · rintro ⟨mem, rfl, free⟩
    exact ⟨⟨mem, free⟩, rfl⟩

/-- A difference lists exactly the keys on which two maps differ, ascending and each once, with the entries of
both maps, and it can be searched after any removals. -/
theorem between_lists_differences (old new : PropertyMap) :
    (between old new).changes.Pairwise (fun a b => a.key < b.key) ∧
      (∀ key, (∃ c ∈ (between old new).changes, c.key = key) ↔ old.get? key ≠ new.get? key) ∧
      (∀ c ∈ (between old new).changes,
        c.old = old.get? c.key ∧ c.new = new.get? c.key ∧
          (c.kind = .added ↔ old.get? c.key = none) ∧ (c.kind = .removed ↔ new.get? c.key = none) ∧
          (c.kind = .modified ↔ (old.get? c.key).isSome ∧ (new.get? c.key).isSome)) ∧
      ((between old new).isEmpty = true ↔ old = new) ∧
      (between new old).changes = (between old new).changes.map Change.reversed ∧
      ∀ (removed : List String) (key : String) (c : Change),
        (removed.foldl without (between old new)).get? key = some c ↔
          c ∈ (between old new).changes ∧ c.key = key ∧ key ∉ removed := by
  refine ⟨(between old new).ascending, fun key => exists_change_iff, ?_, isEmpty_between_iff,
    congrArg changes (between_swap old new), fun removed key c => get?_foldl_without⟩
  intro c mem
  obtain ⟨eq_old, eq_new, differs⟩ := mem_between.mp mem
  refine ⟨eq_old, eq_new, ?_⟩
  rw [← eq_old, ← eq_new]
  exact ⟨Change.kind_eq_added_iff, Change.kind_eq_removed_iff differs, Change.kind_eq_modified_iff⟩

end ChangeSet
end LiveConfig
