import LiveConfig.Conversion.Order

/-!
Sequences and sets of values.

The order of every type is one: two values are the same if neither comes before the other, and what comes
before comes before all that is the same.  So a set does not depend on which of several equal values it is
asked for, and putting values in one after another leaves a set of all of them.
-/
namespace LiveConfig

private theorem transCmp_comap {α β : Type} {cmp : β → β → Ordering} [Std.TransCmp cmp] (f : α → β) :
    Std.TransCmp fun a b => cmp (f a) (f b) where
  eq_swap := Std.OrientedCmp.eq_swap
  isLE_trans := Std.TransCmp.isLE_trans

instance Target.transCmp_compare (t : Target) : Std.TransCmp t.compare := by
  induction t with
  | scalar s => exact inferInstanceAs (Std.TransCmp (compareOn (Value.scalarKey s)))
  | edited t ih | parsed t ih => exact ih
  | option t ih | collection c t ih | array n t ih =>
    have inside : Std.TransCmp fun a b => List.compareLex t.compare (Value.parts a) (Value.parts b) :=
      transCmp_comap Value.parts
    exact inferInstanceAs (Std.TransCmp (compareLex (compareOn Value.rank) _))

namespace Value

def firsts (cmp : Value → Value → Ordering) : List Value → List Value
  | [] => []
  | v :: rest => v :: (firsts cmp rest).filter fun w => cmp v w ≠ .eq

structure IsSetOf (cmp : Value → Value → Ordering) (values content : List Value) : Prop where
  distinct : content.Pairwise fun v w => cmp v w ≠ .eq
  sub : ∀ v ∈ content, v ∈ values
  all : ∀ v ∈ values, ∃ w ∈ content, cmp v w = .eq

private theorem isSetOf_nil (cmp : Value → Value → Ordering) : IsSetOf cmp [] [] :=
  ⟨.nil, fun _ mem => (List.not_mem_nil mem).elim, fun _ mem => (List.not_mem_nil mem).elim⟩

variable {cmp : Value → Value → Ordering}

private theorem mem_of_mem_insertSorted {v w : Value} {done : List Value} (mem : w ∈ insertSorted cmp v done) :
    w = v ∨ w ∈ done := by
  induction done with
  | nil => exact .inl (List.mem_singleton.mp mem)
  | cons first rest ih =>
    unfold insertSorted at mem
    cases order : cmp v first with
    | lt =>
      rw [order] at mem
      exact List.mem_cons.mp mem
    | eq =>
      rw [order] at mem
      exact (List.mem_cons.mp mem).imp_right (List.mem_cons_of_mem _)
    | gt =>
      rw [order] at mem
      rcases List.mem_cons.mp mem with rfl | mem
      · exact .inr List.mem_cons_self
      · exact (ih mem).imp_right (List.mem_cons_of_mem _)

private theorem mem_insertSorted_self (v : Value) (done : List Value) : v ∈ insertSorted cmp v done := by
  induction done with
  | nil => exact List.mem_singleton_self v
  | cons w rest ih =>
    unfold insertSorted
    cases cmp v w with
    | lt | eq => exact List.mem_cons_self
    | gt => exact List.mem_cons_of_mem _ ih

private theorem mem_insertSorted_of_mem (v : Value) {w : Value} {done : List Value} (mem : w ∈ done) :
    w ∈ insertSorted cmp v done ∨ cmp v w = .eq := by
  induction done with
  | nil => exact nomatch mem
  | cons first rest ih =>
    unfold insertSorted
    cases order : cmp v first with
    | lt => exact .inl (List.mem_cons_of_mem _ mem)
    | eq =>
      rcases List.mem_cons.mp mem with rfl | mem
      · exact .inr order
      · exact .inl (List.mem_cons_of_mem _ mem)
    | gt =>
      rcases List.mem_cons.mp mem with rfl | mem
      · exact .inl List.mem_cons_self
      · exact (ih mem).imp_left (List.mem_cons_of_mem _)

section

variable [Std.TransCmp cmp]

private theorem isSetOf_firsts (values : List Value) : IsSetOf cmp values (firsts cmp values) := by
  induction values with
  | nil => exact isSetOf_nil cmp
  | cons first rest ih =>
    refine ⟨?_, ?_, ?_⟩
    · refine List.pairwise_cons.mpr ⟨?_, ih.distinct.filter _⟩
      intro w mem
      simpa using (List.mem_filter.mp mem).2
    · intro v mem
      rcases List.mem_cons.mp mem with rfl | mem
      · exact List.mem_cons_self
      · exact List.mem_cons_of_mem _ (ih.sub v (List.mem_filter.mp mem).1)
    · intro v mem
      rcases List.mem_cons.mp mem with rfl | mem
      · exact ⟨v, List.mem_cons_self, Std.ReflCmp.compare_self⟩
      · obtain ⟨w, kept, same⟩ := ih.all v mem
        by_cases repeated : cmp first w = .eq
        · exact ⟨first, List.mem_cons_self, Std.TransCmp.eq_trans same (Std.OrientedCmp.eq_symm repeated)⟩
        · exact ⟨w, List.mem_cons_of_mem _ (List.mem_filter.mpr ⟨kept, by simpa using repeated⟩), same⟩

/-- Whether a value was there before may be asked of all the values before it, or of those that were kept. -/
private theorem foldl_withoutRepeats (done values : List Value) :
    values.foldl (fun done v => if done.any (fun w => cmp v w == .eq) then done else done ++ [v]) done =
      done ++ (firsts cmp values).filter fun w => done.all fun d => cmp d w ≠ .eq := by
  induction values generalizing done with
  | nil => simp [firsts]
  | cons first rest ih =>
    rw [List.foldl_cons, firsts, List.filter_cons, List.filter_filter]
    by_cases repeated : ∃ d ∈ done, cmp first d = .eq
    · obtain ⟨d, mem, same⟩ := repeated
      have old : (done.any fun w => cmp first w == .eq) = true :=
        List.any_eq_true.mpr ⟨d, mem, by simp [same]⟩
      have dropped : ¬ (done.all fun d => cmp d first ≠ .eq) = true := by
        intro new
        have apart := List.all_eq_true.mp new d mem
        simp [Std.OrientedCmp.eq_symm same] at apart
      rw [if_pos old, if_neg dropped, ih]
      refine congrArg (done ++ ·) (List.filter_congr fun w _ => ?_)
      -- What is apart from all that is kept is apart from this value, since it is the same as one of these.
      cases new : done.all fun d => cmp d w ≠ .eq with
      | false => rfl
      | true =>
        have apart : cmp d w ≠ .eq := by simpa using List.all_eq_true.mp new d mem
        have ne : cmp first w ≠ .eq :=
          fun eq => apart (Std.TransCmp.eq_trans (Std.OrientedCmp.eq_symm same) eq)
        simp [ne]
    · have fresh : ¬ (done.any fun w => cmp first w == .eq) = true := by
        intro old
        obtain ⟨d, mem, same⟩ := List.any_eq_true.mp old
        exact repeated ⟨d, mem, by simpa using same⟩
      have kept : (done.all fun d => cmp d first ≠ .eq) = true := by
        refine List.all_eq_true.mpr fun d mem => ?_
        have ne : cmp d first ≠ .eq := fun same => repeated ⟨d, mem, Std.OrientedCmp.eq_symm same⟩
        simp [ne]
      rw [if_neg fresh, if_pos kept, ih, List.append_assoc]
      refine congrArg (done ++ first :: ·) (List.filter_congr fun w _ => ?_)
      simp

private theorem withoutRepeats_eq_firsts (values : List Value) : withoutRepeats cmp values = firsts cmp values := by
  calc withoutRepeats cmp values
      = [] ++ (firsts cmp values).filter fun w => [].all fun d => cmp d w ≠ .eq := foldl_withoutRepeats [] values
    _ = firsts cmp values := List.filter_eq_self.mpr fun _ _ => rfl

private theorem ascending_insertSorted (v : Value) {done : List Value}
    (ascending : done.Pairwise fun v w => cmp v w = .lt) :
    (insertSorted cmp v done).Pairwise fun v w => cmp v w = .lt := by
  induction done with
  | nil => exact List.pairwise_singleton _ v
  | cons w rest ih =>
    obtain ⟨below, tail⟩ := List.pairwise_cons.mp ascending
    unfold insertSorted
    cases order : cmp v w with
    | lt =>
      refine List.pairwise_cons.mpr ⟨fun u mem => ?_, ascending⟩
      rcases List.mem_cons.mp mem with rfl | mem
      · exact order
      · exact Std.TransCmp.lt_trans order (below u mem)
    | eq => exact List.pairwise_cons.mpr ⟨fun u mem => Std.TransCmp.lt_of_eq_of_lt order (below u mem), tail⟩
    | gt =>
      refine List.pairwise_cons.mpr ⟨fun u mem => ?_, ih tail⟩
      rcases mem_of_mem_insertSorted mem with rfl | mem
      · exact Std.OrientedCmp.gt_iff_lt.mp order
      · exact below u mem

/-- Putting in one value after another. -/
private theorem foldl_insertSorted (values : List Value) {seen done : List Value}
    (ascending : done.Pairwise fun v w => cmp v w = .lt) (set : IsSetOf cmp seen done) :
    (values.foldl (fun done v => insertSorted cmp v done) done).Pairwise (fun v w => cmp v w = .lt) ∧
      IsSetOf cmp (seen ++ values) (values.foldl (fun done v => insertSorted cmp v done) done) := by
  induction values generalizing seen done with
  | nil =>
    rw [List.append_nil]
    exact ⟨ascending, set⟩
  | cons v rest ih =>
    have later := ascending_insertSorted v ascending
    rw [List.foldl_cons, List.append_cons]
    refine ih later ⟨later.imp fun lt => by simp [lt], ?_, ?_⟩
    · intro w mem
      rcases mem_of_mem_insertSorted mem with rfl | mem
      · exact List.mem_append_right _ (List.mem_singleton_self w)
      · exact List.mem_append_left _ (set.sub w mem)
    · intro u mem
      rcases List.mem_append.mp mem with mem | mem
      · obtain ⟨w, there, same⟩ := set.all u mem
        rcases mem_insertSorted_of_mem v there with kept | replaced
        · exact ⟨w, kept, same⟩
        · exact ⟨v, mem_insertSorted_self v done, Std.TransCmp.eq_trans same (Std.OrientedCmp.eq_symm replaced)⟩
      · obtain rfl := List.mem_singleton.mp mem
        exact ⟨u, mem_insertSorted_self u done, Std.ReflCmp.compare_self⟩

end
end Value

/-- What a collection of a sequence has to contain: the sequence, the first occurrences, or a set. -/
def Collection.Holds (cmp : Value → Value → Ordering) (values content : List Value) : Collection → Prop
  | .vector | .deque | .boxed => content = values
  | .orderedSet => content = Value.firsts cmp values
  | .plainSet => Value.IsSetOf cmp values content
  | .sortedSet => content.Pairwise (fun v w => cmp v w = .lt) ∧ Value.IsSetOf cmp values content

theorem Collection.holds_arrange (c : Collection) (cmp : Value → Value → Ordering) [Std.TransCmp cmp]
    (values : List Value) : c.Holds cmp values (c.arrange cmp values) := by
  cases c with
  | vector | deque | boxed => rfl
  | orderedSet => exact Value.withoutRepeats_eq_firsts values
  | plainSet =>
    rw [arrange, Value.withoutRepeats_eq_firsts]
    exact Value.isSetOf_firsts values
  | sortedSet =>
    exact Value.foldl_insertSorted values .nil (Value.isSetOf_nil cmp)

theorem Collection.Holds.sub {c : Collection} {cmp : Value → Value → Ordering} [Std.TransCmp cmp]
    {values content : List Value} (holds : c.Holds cmp values content) : ∀ v ∈ content, v ∈ values := by
  cases c with
  | vector | deque | boxed => exact fun v mem => holds ▸ mem
  | orderedSet => exact fun v mem => (Value.isSetOf_firsts values).sub v (holds ▸ mem)
  | plainSet => exact Value.IsSetOf.sub holds
  | sortedSet => exact holds.2.sub

end LiveConfig
