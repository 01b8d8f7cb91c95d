import LiveConfig.Proofs.Loader.Selection

/-!
A selection is a filter.

The walk over the names that starts at the path and ends at the first name that does not begin with it takes
what a filter of the whole map takes.  Names keep their order when their common beginning is taken away, so
the keys are as many as the entries that were selected.
-/
namespace LiveConfig

namespace Text

private theorem append_lt_append_iff (lead : List Char) {first second : List Char} :
    lead ++ first < lead ++ second ↔ first < second := by
  induction lead with
  | nil => rfl
  | cons l lead ih =>
    rw [List.cons_append, List.cons_append, List.cons_lt_cons_iff, ih]
    simp

end Text

namespace Selection

def selects (path name : String) : Bool :=
  path = everything || path.toList.isPrefixOf name.toList

def keyUnder (path : String) (strip : Bool) (name : String) : String :=
  if strip && path ≠ everything then String.ofList (name.toList.drop path.length) else name

def filtered (source : TextMap String) (path : String) (strip : Bool) : List (String × String) :=
  ((source.entries.filter fun e => selects path e.1).map fun e => (keyUnder path strip e.1, e.2)).filter
    fun e => e.1 ≠ ""

variable {source : TextMap String} {path : String} {strip : Bool}

private theorem keyFor?_of_selects {name : String} (selected : selects path name = true) :
    keyFor? (leadOf path) strip name =
      if keyUnder path strip name = "" then none else some (keyUnder path strip name) := by
  by_cases all : path = everything
  · subst all
    have after : Text.afterLead? (leadOf everything).toList name.toList = some name.toList := rfl
    rw [keyFor?, after]
    simp [keyUnder]
  · have begins : path.toList <+: name.toList := by simpa [selects, all] using selected
    obtain ⟨ending, eq⟩ := begins
    have after : Text.afterLead? (leadOf path).toList name.toList = some ending := by
      rw [leadOf, if_neg all, Text.afterLead?_eq_some_iff, eq]
    have rest : name.toList.drop path.length = ending := by
      rw [← eq, ← String.length_toList, List.drop_left]
    rw [keyFor?, after]
    simp [keyUnder, all, rest]

private theorem keyFor?_of_not_selects {name : String} (other : selects path name = false) :
    keyFor? (leadOf path) strip name = none := by
  cases found : keyFor? (leadOf path) strip name with
  | none => rfl
  | some key =>
    have begins := begins_of_keyFor? found
    obtain ⟨named, apart⟩ := Bool.or_eq_false_iff.mp other
    rw [leadOf, if_neg (of_decide_eq_false named), ← List.isPrefixOf_iff_prefix, apart] at begins
    exact nomatch begins

private theorem entries_eq_filtered (source : TextMap String) (path : String) (strip : Bool) :
    entries source (leadOf path) strip = filtered source path strip := by
  rw [entries_eq_filterMap]
  unfold filtered
  generalize source.entries = all
  induction all with
  | nil => rfl
  | cons e rest ih =>
    cases selected : selects path e.1 with
    | false =>
      have missed : entryFor? (leadOf path) strip e = none := by
        rw [entryFor?, keyFor?_of_not_selects selected, Option.map_none]
      rw [List.filterMap_cons_none missed, ih, List.filter_cons_of_neg (by simpa using selected)]
    | true =>
      rw [List.filter_cons_of_pos (by simpa using selected), List.map_cons]
      by_cases empty : keyUnder path strip e.1 = ""
      · have missed : entryFor? (leadOf path) strip e = none := by
          rw [entryFor?, keyFor?_of_selects selected, if_pos empty, Option.map_none]
        rw [List.filterMap_cons_none missed, ih, List.filter_cons_of_neg (by simpa using empty)]
      · have taken : entryFor? (leadOf path) strip e = some (keyUnder path strip e.1, e.2) := by
          rw [entryFor?, keyFor?_of_selects selected, if_neg empty, Option.map_some]
        rw [List.filterMap_cons_some taken, ih, List.filter_cons_of_pos (by simpa using empty)]

/-- Names with the same beginning stand in the same order without it. -/
private theorem keyUnder_lt {name other : String} (selected : selects path name = true)
    (selected' : selects path other = true) (lt : name < other) :
    keyUnder path strip name < keyUnder path strip other := by
  unfold keyUnder
  split
  · next shortened =>
    have named : path ≠ everything := by simpa using (Bool.and_eq_true_iff.mp shortened).2
    have begins : path.toList <+: name.toList := by simpa [selects, named] using selected
    have begins' : path.toList <+: other.toList := by simpa [selects, named] using selected'
    obtain ⟨rest, eq⟩ := begins
    obtain ⟨rest', eq'⟩ := begins'
    rw [String.lt_iff, ← eq, ← eq', Text.append_lt_append_iff] at lt
    rw [String.lt_iff, String.toList_ofList, String.toList_ofList, ← eq, ← eq',
      ← String.length_toList, List.drop_left, List.drop_left]
    exact lt
  · exact lt

private theorem ascending_filtered (source : TextMap String) (path : String) (strip : Bool) :
    Ascending (filtered source path strip) := by
  apply List.Pairwise.filter
  rw [List.pairwise_map]
  have ascending := source.ascending.filter (fun e => selects path e.1)
  refine ascending.imp_of_mem fun mem mem' lt => ?_
  exact keyUnder_lt (List.mem_filter.mp mem).2 (List.mem_filter.mp mem').2 lt

structure IsFilterOf (m : PropertyMap) (source : TextMap String) (path : String) (strip : Bool) : Prop where
  entries : m.entries = filtered source path strip
  get : ∀ name value, source.get? name = some value → selects path name = true →
    keyUnder path strip name ≠ "" → m.get? (keyUnder path strip name) = some value

private theorem isFilterOf_selected (source : TextMap String) (path : String) (strip : Bool) :
    IsFilterOf (.ofList (entries source (leadOf path) strip)) source path strip := by
  have same : TextMap.ofList (entries source (leadOf path) strip) =
      ⟨filtered source path strip, ascending_filtered source path strip⟩ := by
    rw [entries_eq_filtered]
    exact TextMap.ofList_entries ⟨filtered source path strip, ascending_filtered source path strip⟩
  rw [same]
  refine ⟨rfl, fun name value found selected some_left => ?_⟩
  have mem : (keyUnder path strip name, value) ∈ filtered source path strip := by
    refine List.mem_filter.mpr ⟨List.mem_map.mpr ⟨(name, value), ?_, rfl⟩, by simpa using some_left⟩
    exact List.mem_filter.mpr ⟨mem_of_entryOf? found, selected⟩
  exact TextMap.get?_of_mem (m := ⟨filtered source path strip, ascending_filtered source path strip⟩) mem

def Gives {π : Type} (load : Load π) (m : PropertyMap) : Prop :=
  load.pauses = [] ∧ ∀ outside plugins, (load.finish outside plugins).result = .ok m

/-- Variables and system properties are loaded by a filter: at once and without fail, all entries whose names
begin with the path of the locator, or all there are, each under its name or what stands behind the path, in
their order; only those of whose names nothing is left are missing. -/
theorem selections_filter {π : Type} (strip showSecrets : Bool) (cx : LoadContext) (l : Locator) :
    (∃ m, Gives ((ofVariables strip showSecrets : Loader π).load cx l) m ∧
      IsFilterOf m cx.environment.vars l.path strip) ∧
    ∃ m, Gives ((ofSystem strip : Loader π).load cx l) m ∧ IsFilterOf m cx.environment.system l.path strip := by
  constructor
  · exact ⟨_, ⟨rfl, fun _ _ => rfl⟩, isFilterOf_selected cx.environment.vars l.path strip⟩
  · exact ⟨_, ⟨rfl, fun _ _ => rfl⟩, isFilterOf_selected cx.environment.system l.path strip⟩

end Selection
end LiveConfig
