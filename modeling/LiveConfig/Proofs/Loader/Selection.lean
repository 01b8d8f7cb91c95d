import LiveConfig.Loader.Selection
import LiveConfig.Proofs.TextMap.Lookup

/-!
What a selection takes: in their order, all names that begin with the lead and of which something is left.

The walk starts at the first name that is not below the lead and ends at the first that does not begin
with it.  It misses nothing: what lies between the lead and a text that begins with it begins with it,
too.
-/
namespace LiveConfig

namespace Text

private theorem not_append_lt (lead rest : List Char) : ¬ lead ++ rest < lead := by
  induction lead with
  | nil => exact List.not_lt_nil _
  | cons l lead ih =>
    rw [List.cons_append, List.cons_lt_cons_iff]
    rintro (lt | ⟨-, lt⟩)
    · exact absurd lt (Char.lt_irrefl l)
    · exact ih lt

private theorem begins_of_between {lead first second : List Char} (above : ¬ first < lead) (below : first < second)
    (begins : lead <+: second) : lead <+: first := by
  induction lead generalizing first second with
  | nil => exact List.nil_prefix
  | cons l lead ih =>
    obtain ⟨rest, rfl⟩ := begins
    cases first with
    | nil => exact absurd (List.nil_lt_cons l lead) above
    | cons c cs =>
      rw [List.cons_append, List.cons_lt_cons_iff] at below
      rw [List.cons_lt_cons_iff] at above
      rcases below with lt | ⟨rfl, lt⟩
      · exact absurd (Or.inl lt) above
      · have above' : ¬ cs < lead := fun lt => above (Or.inr ⟨rfl, lt⟩)
        exact List.cons_prefix_cons.mpr ⟨rfl, ih above' lt (List.prefix_append lead rest)⟩

end Text

namespace Selection

def keyFor? (lead : String) (strip : Bool) (name : String) : Option String :=
  (Text.afterLead? lead.toList name.toList).bind fun ending =>
    let key := if strip then String.ofList ending else name
    if key.isEmpty then none else some key

def entryFor? (lead : String) (strip : Bool) (e : String × String) : Option (String × String) :=
  (keyFor? lead strip e.1).map fun key => (key, e.2)

variable {lead : String} {strip : Bool}

/-- A name that is taken begins with the lead, and its key is either the rest or all of it. -/
theorem split_of_keyFor? {name key : String} (found : keyFor? lead strip name = some key) :
    ∃ ending, name.toList = lead.toList ++ ending ∧ (if strip then String.ofList ending else name) = key := by
  obtain ⟨ending, after, eq⟩ := Option.bind_eq_some_iff.mp found
  refine ⟨ending, Text.eq_append_of_afterLead? after, ?_⟩
  dsimp only at eq
  generalize (if strip = true then String.ofList ending else name) = taken at eq ⊢
  by_cases empty : taken.isEmpty = true
  · rw [if_pos empty] at eq
    exact nomatch eq
  · rw [if_neg empty] at eq
    exact Option.some.inj eq

theorem begins_of_keyFor? {name key : String} (found : keyFor? lead strip name = some key) :
    lead.toList <+: name.toList := by
  obtain ⟨ending, eq, -⟩ := split_of_keyFor? found
  exact ⟨ending, eq.symm⟩

private theorem keyFor?_of_below {name : String} (below : name < lead) : keyFor? lead strip name = none := by
  cases found : keyFor? lead strip name with
  | none => rfl
  | some key =>
    obtain ⟨ending, eq⟩ := begins_of_keyFor? found
    rw [String.lt_iff, ← eq] at below
    exact absurd below (Text.not_append_lt _ _)

theorem keyFor?_false {name key : String} (found : keyFor? lead false name = some key) : key = name := by
  obtain ⟨ending, -, whole⟩ := split_of_keyFor? found
  exact whole.symm

theorem keyFor?_true {name key : String} (found : keyFor? lead true name = some key) :
    name = lead ++ key := by
  obtain ⟨ending, eq, rfl⟩ := split_of_keyFor? found
  apply String.ext
  rw [eq, String.toList_append, if_pos rfl, String.toList_ofList]

private theorem entriesWhile_eq_filterMap {entries : List (String × String)} (ascending : Ascending entries)
    (above : ∀ e ∈ entries, ¬ e.1 < lead) :
    entriesWhile lead strip entries = entries.filterMap (entryFor? lead strip) := by
  induction entries with
  | nil => rfl
  | cons head rest ih =>
    obtain ⟨name, value⟩ := head
    obtain ⟨below, tail⟩ := List.pairwise_cons.mp ascending
    have later := ih tail fun e mem => above e (List.mem_cons_of_mem _ mem)
    unfold entriesWhile
    cases after : Text.afterLead? lead.toList name.toList with
    | none =>
      -- If a later name began with the lead, this one would as well.
      have missed : ∀ e ∈ (name, value) :: rest, entryFor? lead strip e = none := by
        intro e mem
        cases found : keyFor? lead strip e.1 with
        | none => rw [entryFor?, found, Option.map_none]
        | some key =>
          have begins := begins_of_keyFor? found
          have here : lead.toList <+: name.toList := by
            rcases List.mem_cons.mp mem with rfl | mem
            · exact begins
            · have lt := String.lt_iff.mp (below e mem)
              have above' := above (name, value) List.mem_cons_self
              rw [String.lt_iff] at above'
              exact Text.begins_of_between above' lt begins
          obtain ⟨ending, eq⟩ := here
          rw [Text.afterLead?_eq_some_iff.mpr eq.symm] at after
          exact nomatch after
      exact (List.filterMap_eq_nil_iff.mpr missed).symm
    | some ending =>
      have found : keyFor? lead strip name =
          if (if strip then String.ofList ending else name).isEmpty then none
          else some (if strip then String.ofList ending else name) := by
        rw [keyFor?, after]
        rfl
      dsimp only
      rw [later]
      generalize (if strip = true then String.ofList ending else name) = key at found ⊢
      by_cases empty : key.isEmpty = true
      · rw [if_pos empty] at found ⊢
        have missed : entryFor? lead strip (name, value) = none := by
          rw [entryFor?, found, Option.map_none]
        rw [List.filterMap_cons_none missed]
      · rw [if_neg empty] at found ⊢
        have taken : entryFor? lead strip (name, value) = some (key, value) := by
          rw [entryFor?, found, Option.map_some]
        rw [List.filterMap_cons_some taken]

theorem entries_eq_filterMap (source : TextMap String) (lead : String) (strip : Bool) :
    entries source lead strip = source.entries.filterMap (entryFor? lead strip) := by
  obtain ⟨entries, ascending⟩ := source
  unfold Selection.entries
  dsimp only
  induction entries with
  | nil => rfl
  | cons head rest ih =>
    obtain ⟨below, tail⟩ := List.pairwise_cons.mp ascending
    by_cases lt : head.1 < lead
    · have missed : entryFor? lead strip head = none := by
        unfold entryFor?
        rw [keyFor?_of_below lt]
        rfl
      rw [List.dropWhile_cons_of_pos (by simpa using lt), List.filterMap_cons_none missed]
      exact ih tail
    · rw [List.dropWhile_cons_of_neg (by simpa using lt)]
      apply entriesWhile_eq_filterMap ascending
      intro e mem
      rcases List.mem_cons.mp mem with rfl | mem
      · exact lt
      · exact fun gt => lt (String.lt_trans (below e mem) gt)

end Selection
end LiveConfig
