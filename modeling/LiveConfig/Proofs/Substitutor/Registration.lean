import LiveConfig.Substitutor

/-!
Registering substitutors: which lists are accepted, and what looking up finds then.

A list is accepted if and only if all names are valid and no two are the same.  The registry holds the list as it
is, so every substitutor of it is found under its name.
-/
namespace LiveConfig

/-- Where no two have the same name, each is found under its own. -/
theorem find?_of_distinct {α : Type} {name : α → String} {items : List α} {a : α} (distinct : (items.map name).Nodup)
    (mem : a ∈ items) : items.find? (fun b => name b = name a) = some a := by
  induction items with
  | nil => exact nomatch mem
  | cons first rest ih =>
    obtain ⟨apart, distinct⟩ := List.nodup_cons.mp distinct
    rcases List.mem_cons.mp mem with rfl | mem
    · simp
    · have other : name first ≠ name a := by
        intro same
        exact apart (List.mem_map.mpr ⟨a, mem, same.symm⟩)
      simpa [other] using ih distinct mem

namespace SubstitutorRegistry

variable {σ : Type} {r registry : SubstitutorRegistry σ} {s : Substitutor σ} {entries : List (Substitutor σ)}
  {name : String}

theorem get?_eq_none_iff : r.get? name = none ↔ ∀ s ∈ r.entries, s.name ≠ name := by
  simp [get?, List.find?_eq_none]

theorem get?_of_mem (distinct : (r.entries.map (·.name)).Nodup) (mem : s ∈ r.entries) :
    r.get? s.name = some s :=
  find?_of_distinct distinct mem

private theorem register_eq_ok_iff :
    r.register s = .ok registry ↔
      isValidName s.name = true ∧ (∀ t ∈ r.entries, t.name ≠ s.name) ∧ registry = ⟨r.entries ++ [s]⟩ := by
  unfold register
  rw [← get?_eq_none_iff]
  cases isValidName s.name <;> cases r.get? s.name <;> simp [eq_comm]

private theorem foldlM_register_eq_ok_iff :
    entries.foldlM register r = .ok registry ↔
      (∀ s ∈ entries, isValidName s.name = true ∧ ∀ t ∈ r.entries, t.name ≠ s.name) ∧
        (entries.map (·.name)).Nodup ∧ registry = ⟨r.entries ++ entries⟩ := by
  induction entries generalizing r with
  | nil =>
    rw [List.append_nil]
    constructor
    · intro done
      exact ⟨nofun, List.nodup_nil, (Except.ok.inj done).symm⟩
    · rintro ⟨-, -, rfl⟩
      rfl
  | cons s rest ih =>
    have step : (s :: rest).foldlM register r = .ok registry ↔
        ∃ next, r.register s = .ok next ∧ rest.foldlM register next = .ok registry := by
      rw [List.foldlM_cons]
      cases r.register s <;> simp [bind, Except.bind]
    rw [step, List.forall_mem_cons, List.map_cons, List.nodup_cons]
    constructor
    · rintro ⟨next, here, later⟩
      obtain ⟨valid, fresh, rfl⟩ := register_eq_ok_iff.mp here
      obtain ⟨each, distinct, rfl⟩ := ih.mp later
      refine ⟨⟨⟨valid, fresh⟩, fun t mem => ⟨(each t mem).1, fun u old => ?_⟩⟩, ⟨?_, distinct⟩, ?_⟩
      · exact (each t mem).2 u (List.mem_append_left _ old)
      · intro again
        obtain ⟨t, mem, same⟩ := List.mem_map.mp again
        exact (each t mem).2 s (List.mem_append_right _ (List.mem_singleton_self s)) same.symm
      · rw [List.append_assoc, List.singleton_append]
    · rintro ⟨⟨⟨valid, fresh⟩, each⟩, ⟨apart, distinct⟩, rfl⟩
      refine ⟨_, register_eq_ok_iff.mpr ⟨valid, fresh, rfl⟩, ih.mpr ⟨fun t mem => ?_, distinct, ?_⟩⟩
      · refine ⟨(each t mem).1, fun u present => ?_⟩
        rcases List.mem_append.mp present with old | new
        · exact (each t mem).2 u old
        · obtain rfl := List.mem_singleton.mp new
          intro same
          exact apart (List.mem_map.mpr ⟨t, mem, same.symm⟩)
      · rw [List.append_assoc, List.singleton_append]

theorem ofList_eq_ok_iff :
    ofList entries = .ok registry ↔
      (∀ s ∈ entries, isValidName s.name = true) ∧ (entries.map (·.name)).Nodup ∧ registry = ⟨entries⟩ := by
  unfold ofList
  rw [foldlM_register_eq_ok_iff]
  simp [empty]

private theorem register_eq_error_iff {fault : DefinitionFault} :
    r.register s = .error fault ↔
      (isValidName s.name = false ∧ fault = .invalidSubstitutor s.name) ∨
        (isValidName s.name = true ∧ (∃ t ∈ r.entries, t.name = s.name) ∧ fault = .duplicateSubstitutor s.name) := by
  have known : (∃ t ∈ r.entries, t.name = s.name) ↔ (r.get? s.name).isSome = true := by
    simp [get?, List.find?_isSome]
  unfold register
  rw [known]
  cases isValidName s.name <;> cases r.get? s.name <;> simp [eq_comm]

/-- Registering ends at the first entry that is refused by those before it. -/
theorem foldlM_register_eq_error_iff {fault : DefinitionFault} :
    entries.foldlM register r = .error fault ↔
      ∃ before s after middle, entries = before ++ s :: after ∧ before.foldlM register r = .ok middle ∧
        middle.register s = .error fault := by
  constructor
  · intro refused
    induction entries generalizing r with
    | nil => exact nomatch refused
    | cons first rest ih =>
      cases here : r.register first with
      | error other =>
        rw [List.foldlM_cons, here] at refused
        exact ⟨[], first, rest, r, rfl, rfl, here.trans refused⟩
      | ok next =>
        rw [List.foldlM_cons, here] at refused
        obtain ⟨before, s, after, middle, rfl, led, there⟩ := ih refused
        refine ⟨first :: before, s, after, middle, rfl, ?_, there⟩
        rw [List.foldlM_cons, here]
        exact led
  · rintro ⟨before, s, after, middle, rfl, led, there⟩
    rw [List.foldlM_append, led]
    change (s :: after).foldlM register middle = .error fault
    rw [List.foldlM_cons, there]
    rfl

theorem ofList_eq_error_iff {fault : DefinitionFault} :
    ofList entries = .error fault ↔
      ∃ before s after, entries = before ++ s :: after ∧ (∀ t ∈ before, isValidName t.name = true) ∧
        (before.map (·.name)).Nodup ∧
        ((isValidName s.name = false ∧ fault = .invalidSubstitutor s.name) ∨
          (isValidName s.name = true ∧ (∃ t ∈ before, t.name = s.name) ∧ fault = .duplicateSubstitutor s.name)) := by
  unfold ofList
  rw [foldlM_register_eq_error_iff]
  constructor
  · rintro ⟨before, s, after, middle, rfl, led, there⟩
    obtain ⟨valid, distinct, rfl⟩ := ofList_eq_ok_iff.mp led
    exact ⟨before, s, after, rfl, valid, distinct, register_eq_error_iff.mp there⟩
  · rintro ⟨before, s, after, rfl, valid, distinct, there⟩
    exact ⟨before, s, after, ⟨before⟩, rfl, ofList_eq_ok_iff.mpr ⟨valid, distinct, rfl⟩,
      register_eq_error_iff.mpr there⟩

/-- A valid name may stand in a placeholder before a colon. -/
theorem inside_of_isValidName (valid : isValidName name = true) :
    ':' ∉ name.toList ∧ '\x7d' ∉ name.toList ∧ '\n' ∉ name.toList := by
  have each := List.all_eq_true.mp (Bool.and_eq_true_iff.mp valid).2
  exact ⟨fun mem => Bool.false_ne_true (each _ mem), fun mem => Bool.false_ne_true (each _ mem),
    fun mem => Bool.false_ne_true (each _ mem)⟩

end SubstitutorRegistry
end LiveConfig
