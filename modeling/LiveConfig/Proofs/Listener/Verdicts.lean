import LiveConfig.Proofs.Reload.Conclusion

/-!
Listeners who decide on each change alone.

What they leave of a set of changes is computed without their states, and what they refused they refuse
again.  So a reload that leaves nothing but refused changes to be made leaves nothing for the next one
with the same candidate.
-/
namespace LiveConfig

open ListenerCall (vetoedKeys)

variable {L π : Type}

def ReloadEnd.isSettled : ReloadEnd → Bool
  | .outcome .unchanged | .outcome (.applied _ _) => true
  | .outcome .coalesced | .outcome .vetoed | .failed _ | .panicked _ => false

/-- A listener that has to be asked gives its verdict on each change in whatever state, and accepts every
batch. -/
def Hooks.DecidesBy {σ : Type} (h : Hooks L σ) (verdict : L → Change → Verdict) (l : L) : Prop :=
  h.kind l = .transactional →
    (∀ c s, ((h.beforeChange l c).run s).1 = .ok (verdict l c)) ∧
      ∀ set s, ((h.beforeBatch l set).run s).1 = .ok .accept

namespace ChangeSet

/-- After a difference was made except for some keys, the changes of these keys are left. -/
theorem mem_between_applyTo_dropping {old new : PropertyMap} {keys : List String} {c : Change} :
    c ∈ (between (((between old new).dropping keys).applyTo old) new).changes ↔
      c ∈ (between old new).changes ∧ c.key ∈ keys := by
  rw [mem_between, mem_between, get?_applyTo_dropping_between]
  by_cases mem : c.key ∈ keys
  · rw [if_pos mem]
    exact ⟨fun parts => ⟨parts, mem⟩, fun both => both.1⟩
  · rw [if_neg mem]
    constructor
    · rintro ⟨eq_old, eq_new, ne⟩
      exact absurd (eq_old.trans eq_new.symm) ne
    · exact fun both => absurd both.2 mem

end ChangeSet

namespace Transaction

def refusedKeys (verdict : Change → Verdict) (changes : List Change) : List String :=
  (changes.filter fun c => verdict c = .vetoKey).map Change.key

def decided (verdict : L → Change → Verdict) : List L → ChangeSet → Decision
  | [], set => if set.isEmpty then .empty else .commit set
  | l :: rest, set =>
    if set.changes.any fun c => verdict l c = .vetoBatch then .vetoed
    else decided verdict rest (set.dropping (refusedKeys (verdict l) set.changes))

section Run

variable {σ : Type} {h : Hooks L σ} {verdict : L → Change → Verdict} {l : L}

private theorem run_askChanges (answers : ∀ c s, ((h.beforeChange l c).run s).1 = .ok (verdict l c))
    (changes : List Change) (set : ChangeSet) (s : σ) :
    ((askChanges h l changes set).run s).1 =
      .ok (if changes.any fun c => verdict l c = .vetoBatch then none
        else some (set.dropping (refusedKeys (verdict l) changes))) := by
  induction changes generalizing set s with
  | nil => exact congrArg (fun set => Except.ok (some set)) set.dropping_nil.symm
  | cons c rest ih =>
    unfold askChanges
    rw [Hook.run_bind]
    have answer := answers c s
    generalize (h.beforeChange l c).run s = asked at answer ⊢
    obtain ⟨_, after⟩ := asked
    obtain rfl := answer
    dsimp only
    cases here : verdict l c with
    | accept =>
      have free : refusedKeys (verdict l) (c :: rest) = refusedKeys (verdict l) rest := by
        simp [refusedKeys, here]
      simp only [List.any_cons, here, free, reduceCtorEq, decide_false, Bool.false_or]
      exact ih set after
    | vetoKey =>
      have longer : refusedKeys (verdict l) (c :: rest) = c.key :: refusedKeys (verdict l) rest := by
        simp [refusedKeys, here]
      simp only [List.any_cons, here, longer, reduceCtorEq, decide_false, Bool.false_or]
      have dropped : (set.without c.key).dropping (refusedKeys (verdict l) rest) =
          set.dropping (c.key :: refusedKeys (verdict l) rest) := by
        rw [ChangeSet.without_eq_dropping, ChangeSet.dropping_append]
        rfl
      have later := ih (set.without c.key) (h.note (changeVetoedLine c.key) after)
      rw [dropped] at later
      exact later
    | vetoBatch =>
      simp only [List.any_cons, here, decide_true, Bool.true_or, if_true]
      rfl

theorem run_decide {listeners : List L} (decides : ∀ l ∈ listeners, h.DecidesBy verdict l)
    (set : ChangeSet) (s : σ) :
    ((decide h listeners set).run s).1 =
      .ok (decided verdict (listeners.filter fun l => h.kind l = .transactional) set) := by
  induction listeners generalizing set s with
  | nil => rfl
  | cons l rest ih =>
    have later : ∀ l ∈ rest, h.DecidesBy verdict l :=
      fun l mem => decides l (List.mem_cons_of_mem _ mem)
    unfold decide
    by_cases kind : h.kind l = .transactional
    · obtain ⟨answers, accepts⟩ := decides l List.mem_cons_self kind
      rw [if_pos kind, List.filter_cons_of_pos (by simpa using kind), Hook.run_bind]
      unfold ask
      rw [Hook.run_bind]
      have answer := run_askChanges answers set.changes set s
      generalize (askChanges h l set.changes set).run s = asked at answer ⊢
      obtain ⟨_, after⟩ := asked
      obtain rfl := answer
      unfold decided
      by_cases refuses : (set.changes.any fun c => verdict l c = .vetoBatch) = true
      · simp only [refuses, if_true]
        rfl
      · simp only [refuses, Bool.false_eq_true, if_false]
        rw [Hook.run_bind]
        have accepted := accepts (set.dropping (refusedKeys (verdict l) set.changes)) after
        generalize (h.beforeBatch l (set.dropping (refusedKeys (verdict l) set.changes))).run after =
          batch at accepted ⊢
        obtain ⟨_, last⟩ := batch
        obtain rfl := accepted
        exact ih later _ last
    · rw [if_neg kind, List.filter_cons_of_neg (by simpa using kind)]
      exact ih later set s

end Run

private theorem HeardInTurn.refused_iff {listeners : List L} {set : ChangeSet}
    {hearings : List (List (ListenerCall L))} (inTurn : HeardInTurn listeners set hearings) {c : Change} :
    (∃ l, .beforeChange l c (.ok .vetoKey) ∈ hearings.flatten) ↔
      c ∈ set.changes ∧ c.key ∈ vetoedKeys hearings.flatten := by
  constructor
  · rintro ⟨l, refused⟩
    exact ⟨inTurn.asked refused, ListenerCall.mem_vetoedKeys.mpr ⟨l, c, refused, rfl⟩⟩
  · rintro ⟨mem, refused_key⟩
    obtain ⟨l, d, refused, same⟩ := ListenerCall.mem_vetoedKeys.mp refused_key
    obtain rfl := set.eq_of_key_eq (inTurn.asked refused) mem same
    exact ⟨l, refused⟩

variable {verdict : L → Change → Verdict} {listeners : List L} {set rest changes : ChangeSet}

private theorem exists_dropping_of_decided (committed : decided verdict listeners set = .commit changes) :
    ∃ keys, changes = set.dropping keys := by
  induction listeners generalizing set with
  | nil =>
    unfold decided at committed
    split at committed
    · exact nomatch committed
    · exact ⟨[], by rw [set.dropping_nil, Decision.commit.inj committed]⟩
  | cons l listeners ih =>
    unfold decided at committed
    split at committed
    · exact nomatch committed
    · obtain ⟨keys, rfl⟩ := ih committed
      exact ⟨_, ChangeSet.dropping_append ..⟩

private theorem decided_of_isEmpty (empty : set.isEmpty = true) : decided verdict listeners set = .empty := by
  have nothing : set.changes = [] := List.isEmpty_iff.mp empty
  induction listeners generalizing set with
  | nil => exact if_pos empty
  | cons l listeners ih =>
    have still_nothing : (set.dropping (refusedKeys (verdict l) set.changes)).changes = [] := by
      apply List.eq_nil_iff_forall_not_mem.mpr
      intro c mem
      have before := (ChangeSet.mem_dropping.mp mem).1
      rw [nothing] at before
      exact nomatch before
    unfold decided
    rw [if_neg (by rw [nothing]; simp)]
    exact ih (List.isEmpty_iff.mpr still_nothing) still_nothing

/-- Unless the batch is refused, changes that were refused alone are refused again when they are proposed
without the others. -/
private theorem decided_of_refused (unrefused : decided verdict listeners set ≠ .vetoed)
    (subset : ∀ c ∈ rest.changes, c ∈ set.changes)
    (refused : ∀ changes, decided verdict listeners set = .commit changes →
      ∀ c ∈ rest.changes, c ∉ changes.changes) :
    decided verdict listeners rest = .empty := by
  induction listeners generalizing set rest with
  | nil =>
    have nothing : rest.changes = [] := by
      apply List.eq_nil_iff_forall_not_mem.mpr
      intro c mem
      have nonempty : set.isEmpty = false :=
        List.isEmpty_eq_false_iff.mpr (List.ne_nil_of_mem (subset c mem))
      have committed : decided verdict ([] : List L) set = .commit set := by
        unfold decided
        rw [nonempty]
        rfl
      exact refused set committed c mem (subset c mem)
    exact decided_of_isEmpty (List.isEmpty_iff.mpr nothing)
  | cons l listeners ih =>
    unfold decided at unrefused refused ⊢
    by_cases refuses : (set.changes.any fun c => verdict l c = .vetoBatch) = true
    · rw [if_pos refuses] at unrefused
      exact absurd rfl unrefused
    · rw [if_neg refuses] at unrefused refused
      have alone : ¬ (rest.changes.any fun c => verdict l c = .vetoBatch) = true := by
        intro some_refused
        obtain ⟨c, mem, refuses_c⟩ := List.any_eq_true.mp some_refused
        exact refuses (List.any_eq_true.mpr ⟨c, subset c mem, refuses_c⟩)
      rw [if_neg alone]
      apply ih unrefused ?_ ?_
      · intro c mem
        obtain ⟨here, free⟩ := ChangeSet.mem_dropping.mp mem
        refine ChangeSet.mem_dropping.mpr ⟨subset c here, ?_⟩
        -- The set has one change of this key, which is the one that is proposed again.
        intro refused_key
        obtain ⟨d, refused_d, same⟩ := List.mem_map.mp refused_key
        obtain ⟨mem_d, vetoes⟩ := List.mem_filter.mp refused_d
        obtain rfl := set.eq_of_key_eq mem_d (subset c here) same
        exact free (List.mem_map.mpr ⟨d, List.mem_filter.mpr ⟨here, vetoes⟩, rfl⟩)
      · intro changes committed c mem
        exact refused changes committed c (ChangeSet.mem_dropping.mp mem).1

end Transaction

namespace Reload

open Transaction (decided)

variable {hooks : Listeners L π} {verdict : L → Change → Verdict} {trigger : Trigger} {c : Candidate}
  {current next : Snapshot} {s after : Scene L π} {result : ReloadEnd}

def askedOf (hooks : Listeners L π) (current : Snapshot) (s : Scene L π) : List L :=
  s.registry.registrations.filter fun l => (hooks current).kind l = .transactional

/-- A reload that ends unchanged or applied leaves nothing that its listeners would let pass. -/
theorem decided_of_conclude
    (decides : ∀ l ∈ s.registry.registrations, (hooks current).DecidesBy verdict l)
    (concluded : conclude hooks trigger c current s = (result, next, after))
    (settled : result.isSettled = true) :
    decided verdict (askedOf hooks current s) (.between next.properties c.properties) = .empty := by
  have decision := Transaction.run_decide decides (ChangeSet.between current.properties c.properties) s
  change _ = Except.ok (decided verdict (askedOf hooks current s) _) at decision
  unfold conclude at concluded
  dsimp only at concluded
  by_cases empty : (ChangeSet.between current.properties c.properties).isEmpty = true
  · rw [if_pos empty] at concluded
    obtain ⟨-, rfl, -⟩ := by simpa only [Prod.mk.injEq] using concluded
    exact Transaction.decided_of_isEmpty empty
  · rw [if_neg empty] at concluded
    generalize (Transaction.decide (hooks current) s.registry.registrations
      (ChangeSet.between current.properties c.properties)).run s = ran at decision concluded
    obtain ⟨_, middle⟩ := ran
    obtain rfl := decision
    split at concluded
    · next p _ broke => exact nomatch (Prod.mk.inj broke).1
    · next refused =>
      obtain ⟨rfl, -⟩ := by simpa only [Prod.mk.injEq] using concluded
      exact nomatch settled
    · next nothing =>
      obtain ⟨-, rfl, -⟩ := by simpa only [Prod.mk.injEq] using concluded
      exact Except.ok.inj (Prod.mk.inj nothing).1
    · next changes later committed =>
      have committed := Except.ok.inj (Prod.mk.inj committed).1
      have published := publish_snapshot hooks s.registry.registrations trigger changes c.sources current
        later
      obtain ⟨keys, rfl⟩ := Transaction.exists_dropping_of_decided committed
      rw [concluded] at published
      obtain rfl := published
      have unrefused : decided verdict (askedOf hooks current s)
          (.between current.properties c.properties) ≠ .vetoed := by
        rw [committed]
        exact nofun
      apply Transaction.decided_of_refused unrefused
      · intro d left
        exact (ChangeSet.mem_between_applyTo_dropping.mp left).1
      · intro changes again d left made
        obtain rfl := Decision.commit.inj (committed.symm.trans again)
        exact (ChangeSet.mem_dropping.mp made).2 (ChangeSet.mem_between_applyTo_dropping.mp left).2

/-- Where nothing is left that its listeners would let pass, a reload ends unchanged. -/
theorem conclude_of_decided
    (decides : ∀ l ∈ s.registry.registrations, (hooks current).DecidesBy verdict l)
    (nothing : decided verdict (askedOf hooks current s) (.between current.properties c.properties) =
      .empty) :
    ∃ after, conclude hooks trigger c current s = (.outcome .unchanged, current, after) := by
  have decision := Transaction.run_decide decides (ChangeSet.between current.properties c.properties) s
  change _ = Except.ok (decided verdict (askedOf hooks current s) _) at decision
  rw [nothing] at decision
  unfold conclude
  dsimp only
  split
  · exact ⟨_, rfl⟩
  · generalize (Transaction.decide (hooks current) s.registry.registrations
      (ChangeSet.between current.properties c.properties)).run s = ran at decision ⊢
    obtain ⟨_, middle⟩ := ran
    obtain rfl := decision
    exact ⟨_, rfl⟩

/-- A reload that ends unchanged or applied has asked about differences to its candidate alone, and the
differences that are left afterwards are those that some listener has refused. -/
theorem refused_of_conclude (concluded : conclude hooks trigger c current s = (result, next, after))
    (settled : result.isSettled = true) :
    ∃ calls, (conclude hooks.recording trigger c current (s.keeping [])).2.2.calls = calls ∧
      (∀ l d answer, .beforeChange l d answer ∈ calls →
        d ∈ (ChangeSet.between current.properties c.properties).changes) ∧
      ∀ d, d ∈ (ChangeSet.between next.properties c.properties).changes ↔
        ∃ l, .beforeChange l d (.ok .vetoKey) ∈ calls := by
  obtain ⟨calls, _, _, _, plain, recorded, went⟩ := conclude_consults hooks trigger c current s
  obtain ⟨rfl, rfl, -⟩ := by simpa only [Prod.mk.injEq] using concluded.symm.trans plain
  refine ⟨calls, by rw [recorded]; rfl, ?_⟩
  cases went with
  | needless same =>
    have nothing : (ChangeSet.between current.properties c.properties).changes = [] := List.isEmpty_iff.mp same
    refine ⟨?_, ?_⟩
    · intro l d answer mem
      exact nomatch mem
    · intro d
      rw [nothing]
      constructor
      · intro mem
        exact nomatch mem
      · rintro ⟨l, mem⟩
        exact nomatch mem
  | brokenAsking | vetoed => exact nomatch settled
  | @nothingLeft hearings _ inTurn none_left =>
    refine ⟨fun l d answer mem => inTurn.asked mem, fun d => ?_⟩
    rw [inTurn.refused_iff]
    refine ⟨fun mem => ⟨mem, ?_⟩, fun both => both.1⟩
    by_contra free
    have left : d ∈ (Transaction.pending _ hearings).changes := ChangeSet.mem_dropping.mpr ⟨mem, free⟩
    rw [List.isEmpty_iff.mp none_left] at left
    exact nomatch left
  | @published hearings told _ _ _ inTurn _ tells =>
    have questions : ∀ {l d answer}, .beforeChange l d answer ∈ hearings.flatten ++ told →
        .beforeChange l d answer ∈ hearings.flatten := by
      intro l d answer mem
      rcases List.mem_append.mp mem with mem | mem
      · exact mem
      · exact nomatch (tells _ mem).1
    refine ⟨fun l d answer mem => inTurn.asked (questions mem), fun d => ?_⟩
    refine ChangeSet.mem_between_applyTo_dropping.trans (inTurn.refused_iff.symm.trans ?_)
    constructor
    · rintro ⟨l, mem⟩
      exact ⟨l, List.mem_append_left _ mem⟩
    · rintro ⟨l, mem⟩
      exact ⟨l, questions mem⟩

end Reload
end LiveConfig
