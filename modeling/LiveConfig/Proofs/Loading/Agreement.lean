import LiveConfig.Proofs.Loading.Course

/-!
What the courses of a pass have in common.

Of a source that a loader accepts it is seen at most once that its load begins, and at most once that it
ends; when a pass has ended, this tells which sources were loaded and what they gave.  The outcome depends
on nothing else, and the one by the first source is part of the one by all sources.
-/
namespace LiveConfig
namespace LoadPass

variable {π : Type}

theorem foundIn_eq_loaded (loads : List (SourceLoad π)) :
    foundIn loads = loaded (loads.map (·.source)) (loads.map foundBy) := by
  induction loads with
  | nil => rfl
  | cons load rest ih =>
    obtain ⟨name, flight⟩ := load
    simp only [foundIn, loaded, List.map_cons, List.zip_cons_cons, List.filterMap_cons] at ih ⊢
    rw [ih]
    cases flight with
    | waiting ready load => rfl
    | landed found => cases found <;> rfl

theorem landed_of_ended {loads : List (SourceLoad π)} (ended : earliest? loads = none)
    {load : SourceLoad π} (mem : load ∈ loads) : load.flight = .landed (foundBy load) := by
  have none_waits : ∀ load ∈ loads, load.flight.ready? = none :=
    List.filterMap_eq_nil_iff.mp (List.min?_eq_none_iff.mp ended)
  obtain ⟨name, flight⟩ := load
  cases flight with
  | waiting ready load => cases none_waits _ mem
  | landed found => rfl

theorem MadeOf.unique {outcome other : LoadOutcome} {counted : List (Locator × PropertyMap)}
    (one : MadeOf outcome counted) (two : MadeOf other counted) : outcome = other := by
  obtain ⟨properties, contributing⟩ := outcome
  obtain ⟨others, names⟩ := other
  have same : properties = others :=
    TextMap.ext_get? fun key => (one.value key).trans (two.value key).symm
  have sources : contributing = names := one.contributing.trans two.contributing.symm
  rw [same, sources]

/-- A source that gives a map after others that give none is the first that counts. -/
theorem loaded_of_first {before : List Locator} (l : Locator) (rest : List Locator) {m : PropertyMap}
    {found : List (Option PropertyMap)} (missed : ∀ place < before.length, found[place]? = some none)
    (here : found[before.length]? = some (some m)) :
    ∃ later, loaded (before ++ l :: rest) found = (l, m) :: later := by
  obtain ⟨lt, at_place⟩ := List.getElem?_eq_some_iff.mp here
  have none_before : found.take before.length = List.replicate before.length none := by
    apply List.ext_getElem (by simp; omega)
    intro place lt_take lt_before
    rw [List.length_replicate] at lt_before
    rw [List.getElem_take, List.getElem_replicate]
    exact (List.getElem?_eq_some_iff.mp (missed place lt_before)).2
  have split : found = List.replicate before.length none ++ some m :: found.drop (before.length + 1) := by
    rw [← none_before, ← at_place, ← List.drop_eq_getElem_cons lt, List.take_append_drop]
  refine ⟨loaded rest (found.drop (before.length + 1)), ?_⟩
  rw [split, loaded_append (by simp), loaded_replicate_none, List.nil_append, ← split]
  rfl

section

variable {around : World π → World π → Prop} {chain : LoaderChain π} {cx : LoadContext}
  {sources : List Locator} {w : World π} {s : Scene π} {p : LoadPass π}

end

end LoadPass
end LiveConfig
