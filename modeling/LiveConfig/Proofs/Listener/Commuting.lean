import LiveConfig.Proofs.Listener.Verdicts

/-!
Listeners who refuse changes one by one may be asked in any order.

Each of them sees only what the ones before it have left, so the calls differ from order to order.  What is
left in the end does not: it is what each of them would have let pass alone.
-/
namespace LiveConfig

variable {L σ : Type}

namespace ChangeSet

def filter (s : ChangeSet) (passes : Change → Bool) : ChangeSet :=
  ⟨s.changes.filter passes, s.ascending.filter _⟩

private theorem mem_filter {s : ChangeSet} {passes : Change → Bool} {c : Change} :
    c ∈ (s.filter passes).changes ↔ c ∈ s.changes ∧ passes c = true := List.mem_filter

private theorem filter_filter (s : ChangeSet) (first second : Change → Bool) :
    (s.filter first).filter second = s.filter fun c => first c && second c := by
  apply ext_mem
  intro c
  rw [mem_filter, mem_filter, mem_filter, Bool.and_eq_true, and_assoc]

end ChangeSet

namespace Transaction

/-- Taking out the keys that a listener refuses leaves the changes that it does not refuse: a set has no second
change of a key that could go with them. -/
private theorem dropping_refusedKeys (verdict : Change → Verdict) (set : ChangeSet) :
    set.dropping (refusedKeys verdict set.changes) = set.filter fun c => verdict c ≠ .vetoKey := by
  apply ChangeSet.ext_mem
  intro c
  rw [ChangeSet.mem_dropping, ChangeSet.mem_filter, decide_eq_true_iff]
  refine and_congr_right fun mem => not_congr ?_
  unfold refusedKeys
  rw [List.mem_map]
  constructor
  · rintro ⟨d, refused, same⟩
    obtain ⟨mem_d, refuses⟩ := List.mem_filter.mp refused
    obtain rfl := set.eq_of_key_eq mem_d mem same
    exact of_decide_eq_true refuses
  · intro refuses
    exact ⟨c, List.mem_filter.mpr ⟨mem, decide_eq_true refuses⟩, rfl⟩

def unrefused (h : Hooks L σ) (verdict : L → Change → Verdict) (listeners : List L) (set : ChangeSet) : ChangeSet :=
  set.filter fun c => ∀ l ∈ listeners, h.kind l = .transactional → verdict l c ≠ .vetoKey

variable {h : Hooks L σ} {verdict : L → Change → Verdict} {listeners order : List L}

private theorem unrefused_perm (perm : order.Perm listeners) (set : ChangeSet) :
    unrefused h verdict order set = unrefused h verdict listeners set := by
  unfold unrefused
  congr 1
  funext c
  simp only [perm.mem_iff]

/-- Where nobody refuses a batch, what comes of a set is what everybody lets pass. -/
theorem decided_eq_of_alone (alone : ∀ l ∈ listeners, ∀ c, verdict l c ≠ .vetoBatch) (set : ChangeSet) :
    decided verdict listeners set =
      let left := set.filter fun c => ∀ l ∈ listeners, verdict l c ≠ .vetoKey
      if left.isEmpty then .empty else .commit left := by
  induction listeners generalizing set with
  | nil =>
    have all_left : (set.filter fun c => ∀ l ∈ ([] : List L), verdict l c ≠ .vetoKey) = set := by
      apply ChangeSet.ext_mem
      intro c
      simp [ChangeSet.mem_filter]
    rw [all_left]
    rfl
  | cons l rest ih =>
    have passes : ¬ (set.changes.any fun c => verdict l c = .vetoBatch) = true := by
      intro refuses
      obtain ⟨c, -, refused⟩ := List.any_eq_true.mp refuses
      exact alone l List.mem_cons_self c (of_decide_eq_true refused)
    unfold decided
    rw [if_neg passes, dropping_refusedKeys, ih fun l mem => alone l (List.mem_cons_of_mem _ mem),
      ChangeSet.filter_filter]
    simp only [List.forall_mem_cons, Bool.decide_and]

private theorem run_decide_of_alone (decides : ∀ l ∈ listeners, h.DecidesBy verdict l)
    (alone : ∀ l ∈ listeners, h.kind l = .transactional → ∀ c, verdict l c ≠ .vetoBatch) (set : ChangeSet) (s : σ) :
    ((decide h listeners set).run s).1 =
      .ok (let left := unrefused h verdict listeners set
        if left.isEmpty then .empty else .commit left) := by
  have asked_alone : ∀ l ∈ listeners.filter (fun l => h.kind l = .transactional), ∀ c, verdict l c ≠ .vetoBatch := by
    intro l mem
    obtain ⟨inside, kind⟩ := List.mem_filter.mp mem
    exact alone l inside (of_decide_eq_true kind)
  rw [run_decide decides, decided_eq_of_alone asked_alone]
  unfold unrefused
  simp only [List.mem_filter, decide_eq_true_eq, and_imp]

/-- Listeners who decide on each change alone, and refuse neither a batch nor one because of a change, may be asked
in any order, whatever state they are in: what comes of it are the changes that nobody refuses, if there are any. -/
theorem decide_perm (perm : order.Perm listeners) (decides : ∀ l ∈ listeners, h.DecidesBy verdict l)
    (alone : ∀ l ∈ listeners, h.kind l = .transactional → ∀ c, verdict l c ≠ .vetoBatch) (set : ChangeSet) (s t : σ) :
    ((decide h order set).run s).1 = ((decide h listeners set).run t).1 ∧
      ((decide h listeners set).run t).1 =
        .ok (let left := unrefused h verdict listeners set
          if left.isEmpty then .empty else .commit left) := by
  have decision := run_decide_of_alone decides alone set t
  refine ⟨?_, decision⟩
  rw [decision, ← unrefused_perm perm]
  exact run_decide_of_alone (fun l mem => decides l (perm.mem_iff.mp mem))
    (fun l mem => alone l (perm.mem_iff.mp mem)) set s

def brief : Hooks Nat Nat where
  kind := fun l => if l = 0 then .change else .transactional
  beforeChange := fun l c => do
    modify (· + 1)
    return if l ≤ c.key.length then .vetoKey else .accept
  beforeBatch := fun _ _ => do
    modify (· + 1)
    return .accept
  changed := fun _ _ => return
  reloaded := fun _ _ _ => return
  note := fun _ calls => calls

/-- Two orders of the same listeners: the calls differ in number, and the same change is left. -/
theorem brief_perm :
    let set : ChangeSet := ⟨[⟨"a", none, some "2"⟩, ⟨"bb", some "1", some "2"⟩, ⟨"ccc", some "1", none⟩], by decide⟩
    let left : ChangeSet := ⟨[⟨"a", none, some "2"⟩], List.pairwise_singleton _ _⟩
    ((decide brief [2, 0, 3] set).run 0).1 = .ok (.commit left) ∧
      ((decide brief [3, 2, 0] set).run 0).1 = .ok (.commit left) ∧
      ((decide brief [2, 0, 3] set).run 0).2 = 6 ∧ ((decide brief [3, 2, 0] set).run 0).2 = 7 := by
  intro set left
  have decides : ∀ l ∈ [2, 0, 3],
      brief.DecidesBy (fun l c => if l ≤ c.key.length then Verdict.vetoKey else .accept) l :=
    fun l _ _ => ⟨fun _ _ => rfl, fun _ _ => rfl⟩
  have alone : ∀ l ∈ [2, 0, 3], brief.kind l = .transactional → ∀ c : Change,
      (if l ≤ c.key.length then Verdict.vetoKey else .accept) ≠ .vetoBatch := by
    intro l _ _ c
    split <;> exact nofun
  have perm : [3, 2, 0].Perm [2, 0, 3] := by decide
  obtain ⟨same, decision⟩ := decide_perm perm decides alone set 0 0
  have commits : ((decide brief [2, 0, 3] set).run 0).1 = .ok (.commit left) := by
    subst set left
    exact decision
  refine ⟨commits, same.trans commits, ?_, ?_⟩
  all_goals
    subst set left
    rfl

end Transaction
end LiveConfig
