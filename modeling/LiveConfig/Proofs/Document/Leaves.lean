import LiveConfig.Document.Basic
import LiveConfig.Proofs.Text.Cutting
import LiveConfig.Proofs.TextMap.Lookup
import Mathlib.Data.List.Nodup

/-!
The leaves of a document, and the properties it has for them.

A leaf is a value without parts, or a list of such values, at the end of a path of keys and indices.  Each
leaf has one property, whose key is its path, and there are no others.  No two leaves can have the same key
as long as keys are not empty and have no point in them, so that a path can be read off its text.
-/
namespace LiveConfig.Document

inductive Step where
  | key (k : String)
  | index (i : Nat)

def Step.text : Step → String
  | .key k => k
  | .index i => toString i

def pathText (path : List Step) : String := String.intercalate "." (path.map Step.text)

inductive LeafAt : Document → List Step → Document → Prop where
  | scalar {d : Document} (plain : d.isScalar = true) (present : d ≠ .null) : LeafAt d [] d
  | list {items : List Document} (flat : ∀ item ∈ items, item.isScalar = true) :
      LeafAt (.list items) [] (.list items)
  | item {items : List Document} {i : Nat} {item leaf : Document} {path : List Step}
      (nested : ∃ item ∈ items, item.isScalar = false) (there : items[i]? = some item)
      (below : LeafAt item path leaf) : LeafAt (.list items) (.index i :: path) leaf
  | entry {entries : List (String × Document)} {key : String} {value leaf : Document} {path : List Step}
      (there : (key, value) ∈ entries) (below : LeafAt value path leaf) :
      LeafAt (.table entries) (.key key :: path) leaf

def leafText : Document → String
  | .list items => String.intercalate "," (items.filterMap scalarText?)
  | d => d.scalarText?.getD ""

/-- Whether all keys, at any depth, can stand in a path: no table has one twice, none is empty, and none has
a point in it. -/
inductive HasPathKeys : Document → Prop where
  | scalar {d : Document} (plain : d.isScalar = true) : HasPathKeys d
  | list {items : List Document} (parts : ∀ item ∈ items, HasPathKeys item) : HasPathKeys (.list items)
  | table {entries : List (String × Document)} (distinct : (entries.map Prod.fst).Nodup)
      (named : ∀ e ∈ entries, e.1 ≠ "" ∧ '.' ∉ e.1.toList) (parts : ∀ e ∈ entries, HasPathKeys e.2) :
      HasPathKeys (.table entries)

def keyBelow (start : String) (path : List Step) : String :=
  path.foldl (fun here step => pathBelow here step.text) start

private theorem leafAt_scalar_iff {d leaf : Document} {path : List Step} (plain : d.isScalar = true) :
    LeafAt d path leaf ↔ path = [] ∧ leaf = d ∧ d ≠ .null := by
  constructor
  · intro at_leaf
    cases at_leaf with
    | scalar _ present => exact ⟨rfl, rfl, present⟩
    | list | item | entry => exact nomatch plain
  · rintro ⟨rfl, rfl, present⟩
    exact .scalar plain present

private theorem leafAt_list_iff {items : List Document} {leaf : Document} {path : List Step} :
    LeafAt (.list items) path leaf ↔
      ((∀ item ∈ items, item.isScalar = true) ∧ path = [] ∧ leaf = .list items) ∨
      (∃ item ∈ items, item.isScalar = false) ∧
        ∃ i item rest, items[i]? = some item ∧ path = .index i :: rest ∧ LeafAt item rest leaf := by
  constructor
  · intro at_leaf
    cases at_leaf with
    | scalar plain => exact nomatch plain
    | list flat => exact .inl ⟨flat, rfl, rfl⟩
    | item nested there below => exact .inr ⟨nested, _, _, _, there, rfl, below⟩
  · rintro (⟨flat, rfl, rfl⟩ | ⟨nested, i, item, rest, there, rfl, below⟩)
    · exact .list flat
    · exact .item nested there below

private theorem leafAt_table_iff {entries : List (String × Document)} {leaf : Document} {path : List Step} :
    LeafAt (.table entries) path leaf ↔
      ∃ key value rest, (key, value) ∈ entries ∧ path = .key key :: rest ∧ LeafAt value rest leaf := by
  constructor
  · intro at_leaf
    cases at_leaf with
    | scalar plain => exact nomatch plain
    | entry there below => exact ⟨_, _, _, there, rfl, below⟩
  · rintro ⟨key, value, rest, there, rfl, below⟩
    exact .entry there below

mutual
/-- The leaves are found in the order of the document, whatever its keys are. -/
theorem mem_leavesAt (start : String) (d : Document) (e : String × String) :
    e ∈ leavesAt start d ↔ ∃ path leaf, LeafAt d path leaf ∧ e = (keyBelow start path, leaf.leafText) := by
  cases d with
  | null => simp [leavesAt, leafAt_scalar_iff (d := .null) rfl]
  | bool b => simp [leavesAt, leafAt_scalar_iff (d := .bool b) rfl, keyBelow, leafText, scalarText?]
  | integer n => simp [leavesAt, leafAt_scalar_iff (d := .integer n) rfl, keyBelow, leafText, scalarText?]
  | double bits => simp [leavesAt, leafAt_scalar_iff (d := .double bits) rfl, keyBelow, leafText, scalarText?]
  | text s => simp [leavesAt, leafAt_scalar_iff (d := .text s) rfl, keyBelow, leafText, scalarText?]
  | list items =>
    rw [leavesAt]
    split
    · next flat =>
      rw [List.all_eq_true] at flat
      constructor
      · intro mem
        exact ⟨[], .list items, .list flat, List.mem_singleton.mp mem⟩
      · rintro ⟨path, leaf, at_leaf, rfl⟩
        rcases leafAt_list_iff.mp at_leaf with ⟨-, rfl, rfl⟩ | ⟨⟨item, mem, nested⟩, -⟩
        · exact List.mem_singleton.mpr rfl
        · rw [flat item mem] at nested
          cases nested
    · next not_flat =>
      have nested : ∃ item ∈ items, item.isScalar = false := by simpa using not_flat
      rw [mem_leavesOfItems]
      constructor
      · rintro ⟨i, item, path, leaf, there, below, rfl⟩
        exact ⟨.index i :: path, leaf, .item nested there below, by simp [keyBelow, Step.text]⟩
      · rintro ⟨path, leaf, at_leaf, rfl⟩
        rcases leafAt_list_iff.mp at_leaf with ⟨flat, -⟩ | ⟨-, i, item, rest, there, rfl, below⟩
        · exact absurd (List.all_eq_true.mpr flat) not_flat
        · exact ⟨i, item, rest, leaf, there, below, by simp [keyBelow, Step.text]⟩
  | table entries =>
    rw [leavesAt, mem_leavesOfEntries]
    constructor
    · rintro ⟨key, value, path, leaf, there, below, rfl⟩
      exact ⟨.key key :: path, leaf, .entry there below, rfl⟩
    · rintro ⟨path, leaf, at_leaf, rfl⟩
      obtain ⟨key, value, rest, there, rfl, below⟩ := leafAt_table_iff.mp at_leaf
      exact ⟨key, value, rest, leaf, there, below, rfl⟩

theorem mem_leavesOfItems (start : String) (n : Nat) (items : List Document) (e : String × String) :
    e ∈ leavesOfItems start n items ↔ ∃ i item path leaf, items[i]? = some item ∧ LeafAt item path leaf ∧
      e = (keyBelow (pathBelow start (toString (n + i))) path, leaf.leafText) := by
  cases items with
  | nil => simp [leavesOfItems]
  | cons item rest =>
    rw [leavesOfItems, List.mem_append, mem_leavesAt, mem_leavesOfItems]
    constructor
    · rintro (⟨path, leaf, below, rfl⟩ | ⟨i, other, path, leaf, there, below, rfl⟩)
      · exact ⟨0, item, path, leaf, rfl, below, rfl⟩
      · exact ⟨i + 1, other, path, leaf, there, below, by rw [Nat.add_assoc, Nat.add_comm 1 i]⟩
    · rintro ⟨i, other, path, leaf, there, below, rfl⟩
      cases i with
      | zero =>
        obtain rfl := Option.some.inj there
        exact .inl ⟨path, leaf, below, rfl⟩
      | succ i => exact .inr ⟨i, other, path, leaf, there, below, by rw [Nat.add_assoc, Nat.add_comm 1 i]⟩

theorem mem_leavesOfEntries (start : String) (entries : List (String × Document)) (e : String × String) :
    e ∈ leavesOfEntries start entries ↔ ∃ key value path leaf, (key, value) ∈ entries ∧
      LeafAt value path leaf ∧ e = (keyBelow (pathBelow start key) path, leaf.leafText) := by
  match entries with
  | [] => simp [leavesOfEntries]
  | (key, value) :: rest =>
    rw [leavesOfEntries, List.mem_append, mem_leavesAt, mem_leavesOfEntries]
    constructor
    · rintro (⟨path, leaf, below, rfl⟩ | ⟨k, v, path, leaf, there, below, rfl⟩)
      · exact ⟨key, value, path, leaf, List.mem_cons_self, below, rfl⟩
      · exact ⟨k, v, path, leaf, List.mem_cons_of_mem _ there, below, rfl⟩
    · rintro ⟨k, v, path, leaf, there, below, rfl⟩
      rcases List.mem_cons.mp there with same | there
      · obtain ⟨rfl, rfl⟩ := Prod.mk.inj same
        exact .inl ⟨path, leaf, below, rfl⟩
      · exact .inr ⟨k, v, path, leaf, there, below, rfl⟩
end

def StandsInPath (s : String) : Prop := s ≠ "" ∧ '.' ∉ s.toList

private theorem standsInPath_toString (n : Nat) : StandsInPath (toString n) := by
  change StandsInPath n.repr
  constructor
  · intro none_there
    have digits := congrArg String.toList none_there
    rw [Nat.toList_repr] at digits
    exact Nat.toDigits_ne_nil digits
  · rw [Nat.toList_repr]
    intro mem
    have digit := Nat.isDigit_of_mem_toDigits (by decide) (by decide) mem
    exact nomatch digit

private theorem HasPathKeys.standsInPath {d leaf : Document} {path : List Step} (keyed : d.HasPathKeys)
    (at_leaf : LeafAt d path leaf) : ∀ step ∈ path, StandsInPath step.text := by
  induction at_leaf with
  | scalar | list => exact nofun
  | @item items i item _ path _ there _ ih =>
    cases keyed with
    | scalar plain => exact nomatch plain
    | list parts =>
      rw [List.forall_mem_cons]
      exact ⟨standsInPath_toString i, ih (parts item (List.mem_of_getElem? there))⟩
  | entry there _ ih =>
    cases keyed with
    | scalar plain => exact nomatch plain
    | table _ named parts =>
      rw [List.forall_mem_cons]
      exact ⟨named _ there, ih (parts _ there)⟩

private theorem pathBelow_of_ne {path : String} (inside : path ≠ "") (step : String) :
    pathBelow path step = path ++ "." ++ step := by
  simp [pathBelow, inside]

theorem keyBelow_of_ne {start : String} (inside : start ≠ "") (path : List Step) :
    keyBelow start path = String.intercalate "." (start :: path.map Step.text) := by
  induction path generalizing start with
  | nil => simp [keyBelow]
  | cons step path ih =>
    have further : start ++ "." ++ step.text ≠ "" := by simp [String.append_eq_empty_iff]
    change keyBelow (pathBelow start step.text) path = _
    rw [pathBelow_of_ne inside, ih further]
    simp

private theorem keyBelow_root {path : List Step} (stands : ∀ step ∈ path, StandsInPath step.text) :
    keyBelow "" path = pathText path := by
  cases path with
  | nil => simp [keyBelow, pathText]
  | cons step path => exact keyBelow_of_ne (stands step List.mem_cons_self).1 path

private theorem splitOn_path {steps : List String} (some_there : steps ≠ []) (stands : ∀ s ∈ steps, StandsInPath s) :
    Text.splitOn ".".toList (String.intercalate "." steps).toList = steps.map String.toList :=
  Text.splitOn_intercalate rfl (fun s mem => (stands s mem).2) some_there

private theorem intercalate_ne_empty {steps : List String} (some_there : steps ≠ [])
    (stands : ∀ s ∈ steps, StandsInPath s) : String.intercalate "." steps ≠ "" := by
  intro none_there
  have split := splitOn_path some_there stands
  rw [none_there] at split
  cases steps with
  | nil => exact some_there rfl
  | cons s rest =>
    have first : s.toList = [] := (List.cons.inj split).1.symm
    exact (stands s List.mem_cons_self).1 (String.toList_eq_nil_iff.mp first)

/-- A path is read off its text. -/
private theorem intercalate_inj {xs ys : List String} (left : ∀ x ∈ xs, StandsInPath x)
    (right : ∀ y ∈ ys, StandsInPath y) (same : String.intercalate "." xs = String.intercalate "." ys) : xs = ys := by
  by_cases no_left : xs = []
  · by_contra differ
    have some_right : ys ≠ [] := fun no_right => differ (no_left.trans no_right.symm)
    rw [no_left, String.intercalate_nil] at same
    exact intercalate_ne_empty some_right right same.symm
  · by_cases no_right : ys = []
    · rw [no_right, String.intercalate_nil] at same
      exact absurd same (intercalate_ne_empty no_left left)
    · have split := splitOn_path no_left left
      rw [same, splitOn_path no_right right] at split
      exact List.map_injective_iff.mpr (fun _ _ => String.toList_injective) split.symm

/-- Two leaves with the same steps are the same leaf. -/
theorem LeafAt.unique {d leaf leaf' : Document} {path path' : List Step} (keyed : d.HasPathKeys)
    (at_leaf : LeafAt d path leaf) (at_leaf' : LeafAt d path' leaf')
    (same : path.map Step.text = path'.map Step.text) : path = path' ∧ leaf = leaf' := by
  induction at_leaf generalizing path' with
  | scalar plain =>
    obtain ⟨rfl, rfl, -⟩ := (leafAt_scalar_iff plain).mp at_leaf'
    exact ⟨rfl, rfl⟩
  | list flat =>
    rcases leafAt_list_iff.mp at_leaf' with ⟨-, rfl, rfl⟩ | ⟨-, i, item, rest, -, rfl, -⟩
    · exact ⟨rfl, rfl⟩
    · exact nomatch same
  | @item items i item _ path _ there _ ih =>
    rcases leafAt_list_iff.mp at_leaf' with ⟨-, rfl, -⟩ | ⟨-, j, other, rest, there', rfl, below'⟩
    · exact nomatch same
    · obtain ⟨first, later⟩ := List.cons.inj same
      obtain rfl : i = j := by
        have digits : Nat.toDigits 10 i = Nat.toDigits 10 j := by
          simpa [Step.text] using congrArg String.toList first
        simpa using congrArg (Nat.ofDigitChars 10 · 0) digits
      obtain rfl := Option.some.inj (there.symm.trans there')
      cases keyed with
      | scalar plain => exact nomatch plain
      | list parts =>
        obtain ⟨rfl, rfl⟩ := ih (parts item (List.mem_of_getElem? there)) below' later
        exact ⟨rfl, rfl⟩
  | @entry entries key value _ path there _ ih =>
    obtain ⟨key', value', rest, there', rfl, below'⟩ := leafAt_table_iff.mp at_leaf'
    obtain ⟨first, later⟩ := List.cons.inj same
    obtain rfl : key = key' := first
    cases keyed with
    | scalar plain => exact nomatch plain
    | table distinct _ parts =>
      obtain rfl : value = value' := by
        have := List.inj_on_of_nodup_map distinct there there' rfl
        exact (Prod.mk.inj this).2
      obtain ⟨rfl, rfl⟩ := ih (parts _ there) below' later
      exact ⟨rfl, rfl⟩

private theorem LeafAt.eq_of_pathText_eq {d leaf leaf' : Document} {path path' : List Step} (keyed : d.HasPathKeys)
    (at_leaf : LeafAt d path leaf) (at_leaf' : LeafAt d path' leaf') (same : pathText path = pathText path') :
    path = path' ∧ leaf = leaf' := by
  have stands : ∀ {path leaf}, LeafAt d path leaf → ∀ s ∈ path.map Step.text, StandsInPath s := by
    intro path leaf at_leaf s mem
    obtain ⟨step, there, rfl⟩ := List.mem_map.mp mem
    exact keyed.standsInPath at_leaf step there
  exact at_leaf.unique keyed at_leaf' (intercalate_inj (stands at_leaf) (stands at_leaf') same)

private theorem mem_leavesAt_root {d : Document} (keyed : d.HasPathKeys) {key value : String} :
    (key, value) ∈ leavesAt "" d ↔
      ∃ path leaf, LeafAt d path leaf ∧ key = pathText path ∧ value = leaf.leafText := by
  rw [mem_leavesAt]
  constructor
  · rintro ⟨path, leaf, at_leaf, eq⟩
    obtain ⟨rfl, rfl⟩ := Prod.mk.inj eq
    exact ⟨path, leaf, at_leaf, keyBelow_root (keyed.standsInPath at_leaf), rfl⟩
  · rintro ⟨path, leaf, at_leaf, rfl, rfl⟩
    exact ⟨path, leaf, at_leaf, by rw [keyBelow_root (keyed.standsInPath at_leaf)]⟩

theorem get?_flatten_eq_some_iff {d : Document} (keyed : d.HasPathKeys) {key value : String} :
    d.flatten.get? key = some value ↔
      ∃ path leaf, LeafAt d path leaf ∧ key = pathText path ∧ value = leaf.leafText := by
  unfold flatten
  rw [TextMap.get?_ofList_eq_some_iff, mem_leavesAt_root keyed]
  rintro ⟨key, value⟩ mem ⟨key', value'⟩ mem' (rfl : key = key')
  obtain ⟨path, leaf, at_leaf, eq, rfl⟩ := (mem_leavesAt_root keyed).mp mem
  obtain ⟨path', leaf', at_leaf', eq', rfl⟩ := (mem_leavesAt_root keyed).mp mem'
  obtain ⟨-, rfl⟩ := at_leaf.eq_of_pathText_eq keyed at_leaf' (eq.symm.trans eq')
  rfl

/-- A document whose keys are not empty, have no points in them and differ within each table has one property
for each leaf and no other, under the path of the leaf, and no two leaves have the same path.  A leaf is a
value without parts other than `null`, or a list of values without parts, which may be empty; so `null` and
the empty table come to nothing. -/
theorem flatten_by_leaves {d : Document} (keyed : d.HasPathKeys) :
    (∀ key value, d.flatten.get? key = some value ↔
      ∃ path leaf, LeafAt d path leaf ∧ key = pathText path ∧ value = leaf.leafText) ∧
    (∀ path leaf path' leaf', LeafAt d path leaf → LeafAt d path' leaf' → pathText path = pathText path' →
      path = path' ∧ leaf = leaf') :=
  ⟨fun _ _ => get?_flatten_eq_some_iff keyed,
    fun _ _ _ _ at_leaf at_leaf' => at_leaf.eq_of_pathText_eq keyed at_leaf'⟩

def mixed : Document :=
  .table [("a", .list [.bool true, .table [("b", .list [.integer 1, .null, .text "x"]), ("c", .null)]]),
    ("d", .list []), ("e", .table [])]

theorem mixed_by_leaves :
    mixed.HasPathKeys ∧ mixed.flatten.get? "a.1.b" = some "1,x" ∧
      (∀ path leaf, LeafAt mixed path leaf → pathText path = "a.1.b" →
        path = [.key "a", .index 1, .key "b"]) ∧
      mixed.flatten.entries = [("a.0", "true"), ("a.1.b", "1,x"), ("d", "")] := by
  have scalars : ∀ items : List Document, (∀ item ∈ items, item.isScalar = true) →
      ∀ item ∈ items, HasPathKeys item := fun items plain item mem => .scalar (plain item mem)
  have inner : HasPathKeys (.table [("b", .list [.integer 1, .null, .text "x"]), ("c", .null)]) := by
    refine .table (by decide) (by decide) ?_
    rw [List.forall_mem_cons, List.forall_mem_singleton]
    exact ⟨.list (scalars _ (by decide)), .scalar rfl⟩
  have keyed : mixed.HasPathKeys := by
    refine .table (by decide) (by decide) ?_
    rw [List.forall_mem_cons, List.forall_mem_cons, List.forall_mem_singleton]
    refine ⟨.list ?_, .list nofun, .table (by decide) nofun nofun⟩
    rw [List.forall_mem_cons, List.forall_mem_singleton]
    exact ⟨.scalar rfl, inner⟩
  have leaf : LeafAt mixed [.key "a", .index 1, .key "b"] (.list [.integer 1, .null, .text "x"]) :=
    .entry List.mem_cons_self (.item ⟨_, List.mem_cons_of_mem _ List.mem_cons_self, rfl⟩ rfl
      (.entry List.mem_cons_self (.list (by decide))))
  obtain ⟨listed, apart⟩ := flatten_by_leaves keyed
  refine ⟨keyed, (listed _ _).mpr ⟨_, _, leaf, ?_, ?_⟩, ?_, ?_⟩
  · decide
  · decide
  · intro path other at_other same
    exact (apart _ _ _ _ at_other leaf (same.trans (by decide))).1
  · decide

end LiveConfig.Document
