import LiveConfig.Conversion.Basic
import LiveConfig.Proofs.Document.Leaves
import LiveConfig.Proofs.Number.Numeral
import LiveConfig.Proofs.Text.Cutting
import Mathlib.Data.String.Basic

/-!
Lists of documents are read back as collections.

A document joins the values of a list with commas, and conversion cuts the text at its commas again.  Neither knows of
the other.  They agree on texts without commas in them and without white space around them, except that one empty text
alone joins to nothing and so is no value at all.
-/
namespace LiveConfig

open Text (isBlank isBlankText)

structure StandsInList (s : String) : Prop where
  no_comma : ',' ∉ s.toList
  started : ∀ c, s.toList.head? = some c → isBlank c = false
  ended : ∀ c, s.toList.getLast? = some c → isBlank c = false

private theorem StandsInList.of_forall_mem {s : String} (visible : ∀ c ∈ s.toList, c ≠ ',' ∧ isBlank c = false) :
    StandsInList s where
  no_comma mem := (visible ',' mem).1 rfl
  started c first := (visible c (List.mem_of_head? first)).2
  ended c last := (visible c (List.mem_of_getLast? last)).2

private theorem StandsInList.of_isNumeral {s : String} (written : Number.IsNumeral s) : StandsInList s :=
  .of_forall_mem fun c mem => Number.visible_of_isNumeralChar (written.numeral c mem)

private theorem StandsInList.trimmed_eq {s : String} (stands : StandsInList s) : Text.trimmed s = s := by
  rw [Text.trimmed, Text.trim_eq_self stands.started stands.ended, String.ofList_toList]

private theorem StandsInList.eq_empty {s : String} (stands : StandsInList s) (blank : isBlankText s = true) :
    s = "" := by
  cases shape : s.toList with
  | nil => exact String.toList_eq_nil_iff.mp shape
  | cons c cs =>
    have here := List.all_eq_true.mp blank c (by simp [shape])
    have other := stands.started c (by simp [shape])
    exact nomatch here.symm.trans other

private theorem isBlankText_intercalate {texts : List String} (stands : ∀ s ∈ texts, StandsInList s)
    (some_there : texts ≠ []) (not_lone : texts ≠ [""]) : isBlankText (String.intercalate "," texts) = false := by
  rw [Bool.eq_false_iff]
  intro blank
  match texts with
  | [] => exact some_there rfl
  | [s] =>
    rw [String.intercalate_singleton] at blank
    exact not_lone (congrArg ([·]) ((stands s List.mem_cons_self).eq_empty blank))
  | s :: t :: rest =>
    have comma := List.all_eq_true.mp blank ',' (by simp [String.intercalate_cons_cons])
    exact nomatch comma

namespace ConversionContext

variable {σ : Type}

private theorem tokens_intercalate (name : String) {texts : List String} (stands : ∀ s ∈ texts, StandsInList s)
    (not_lone : texts ≠ [""]) :
    (plain name : ConversionContext σ).tokens (String.intercalate "," texts) = pure texts := by
  by_cases none_there : texts = []
  · subst none_there
    rfl
  · have cut : (Text.splitOn ",".toList (String.intercalate "," texts).toList).map
        (fun t => String.ofList (Text.trim t)) = texts := by
      rw [Text.splitOn_intercalate rfl (fun s mem => (stands s mem).no_comma) none_there, List.map_map]
      refine (List.map_congr_left fun s mem => ?_).trans (List.map_id texts)
      exact (stands s mem).trimmed_eq
    have visible := isBlankText_intercalate stands none_there not_lone
    unfold tokens
    simp only [plain, visible]
    exact congrArg pure cut

private theorem convertTokens_eq_pure (cx : ConversionContext σ) (target : String)
    {convert : String → Conversion σ Value}
    {value : String → Value} (converts : ∀ token, convert token = pure (value token)) (tokens : List String) :
    cx.convertTokens target convert tokens = pure (tokens.map value) := by
  induction tokens with
  | nil => rfl
  | cons token rest ih =>
    rw [convertTokens, converts, ih]
    rfl

/-- Texts are read from a list of texts with commas between them. -/
theorem convert_texts (name : String) {texts : List String} (stands : ∀ s ∈ texts, StandsInList s)
    (not_lone : texts ≠ [""]) :
    (Target.collection .vector (.scalar .text)).convert .builtIn (plain name : ConversionContext σ)
      (String.intercalate "," texts) = pure (.items (texts.map .text)) := by
  have whole : (plain name : ConversionContext σ).convertWhole? (.collection .vector (.scalar .text))
      (String.intercalate "," texts) = pure none := rfl
  have text : ∀ token, (Target.scalar .text).convert .builtIn (plain name : ConversionContext σ) token =
      pure (.text token) := fun _ => rfl
  unfold Target.convert collect
  rw [whole, pure_bind]
  dsimp only
  rw [tokens_intercalate name stands not_lone, pure_bind, convertTokens_eq_pure _ _ text, pure_bind]
  rfl

end ConversionContext

namespace Document

def isNull : Document → Bool
  | .null => true
  | _ => false

def present (items : List Document) : List Document := items.filter fun item => !item.isNull

variable {d : Document} {items : List Document}

private theorem filterMap_scalarText? (plain : ∀ item ∈ items, item.isScalar = true) :
    items.filterMap scalarText? = (present items).map leafText := by
  induction items with
  | nil => rfl
  | cons item rest ih =>
    obtain ⟨first, later⟩ := List.forall_mem_cons.mp plain
    have rest_eq := ih later
    cases item with
    | list | table => exact nomatch first
    | null => exact rest_eq
    | bool | integer | double | text => exact congrArg (List.cons _) rest_eq

private theorem eq_text_of_leafText (plain : d.isScalar = true) (there : d ≠ .null) (none_there : d.leafText = "") :
    d = .text "" := by
  cases d with
  | list | table => exact nomatch plain
  | null => exact absurd rfl there
  | bool b => cases b <;> exact nomatch none_there
  | integer n => exact absurd none_there (Number.isNumeral_toString n).ne_empty
  | double bits => exact absurd none_there (Number.isNumeral_documentText bits).ne_empty
  | text s => exact congrArg Document.text none_there

private theorem standsInList_leafText (plain : d.isScalar = true) (there : d ≠ .null)
    (stands : ∀ s, d = .text s → StandsInList s) : StandsInList d.leafText := by
  cases d with
  | list | table => exact nomatch plain
  | null => exact absurd rfl there
  | bool b =>
    apply StandsInList.of_forall_mem
    cases b
    · simp [leafText, scalarText?, isBlank]
    · simp [leafText, scalarText?, isBlank]
  | integer n => exact .of_isNumeral (Number.isNumeral_toString n)
  | double bits => exact .of_isNumeral (Number.isNumeral_documentText bits)
  | text s => exact stands s rfl

private theorem mem_present {item : Document} : item ∈ present items ↔ item ∈ items ∧ item ≠ .null := by
  rw [present, List.mem_filter]
  cases item <;> simp [isNull]

/-- Only an empty text that is alone in its list joins to an empty text. -/
private theorem map_leafText_ne (plain : ∀ item ∈ items, item.isScalar = true) (not_lone : present items ≠ [.text ""]) :
    (present items).map leafText ≠ [""] := by
  intro joined
  obtain ⟨item, alone, none_there⟩ := List.map_eq_singleton_iff.mp joined
  obtain ⟨mem, there⟩ := mem_present.mp (alone ▸ List.mem_singleton.mpr rfl : item ∈ present items)
  rw [eq_text_of_leafText (plain item mem) there none_there] at alone
  exact not_lone alone

private theorem convert_leafText {σ : Type} (name : String) (plain : ∀ item ∈ items, item.isScalar = true)
    (stands : ∀ s, .text s ∈ items → StandsInList s) (not_lone : present items ≠ [.text ""]) :
    (Target.collection .vector (.scalar .text)).convert .builtIn (.plain name : ConversionContext σ)
      (leafText (.list items)) = pure (.items ((present items).map fun item => .text item.leafText)) := by
  have texts : ∀ s ∈ (present items).map leafText, StandsInList s := by
    intro s mem
    obtain ⟨item, there, rfl⟩ := List.mem_map.mp mem
    obtain ⟨mem, there⟩ := mem_present.mp there
    exact standsInList_leafText (plain item mem) there fun s eq => stands s (eq ▸ mem)
  rw [leafText, filterMap_scalarText? plain,
    ConversionContext.convert_texts name texts (map_leafText_ne plain not_lone), List.map_map]
  rfl

/-- A value that a document has under a key: an entry of the outermost table, whose other entries may be anything, or a
leaf at any depth, under its path, as long as no key in the document reads like a path. -/
inductive HoldsAt : Document → String → Document → Prop where
  | entry {entries : List (String × Document)} {key : String} {value : Document} (ascending : Ascending entries)
      (there : (key, value) ∈ entries) (named : StandsInPath key) : HoldsAt (.table entries) key value
  | leaf {d leaf : Document} {path : List Step} (keyed : d.HasPathKeys) (there : LeafAt d path leaf) :
      HoldsAt d (pathText path) leaf

private theorem leavesOfEntries_append (start : String) (front back : List (String × Document)) :
    leavesOfEntries start (front ++ back) = leavesOfEntries start front ++ leavesOfEntries start back := by
  induction front with
  | nil => rfl
  | cons entry front ih =>
    obtain ⟨key, value⟩ := entry
    rw [List.cons_append, leavesOfEntries, leavesOfEntries, ih, List.append_assoc]

/-- Below a greater key nothing has the path `key`. -/
private theorem keyBelow_ne {key other : String} (named : StandsInPath key) (above : key < other) (path : List Step) :
    keyBelow (pathBelow "" other) path ≠ key := by
  have some_there : other ≠ "" := by
    rintro rfl
    rw [String.lt_iff_toList_lt] at above
    exact List.not_lt_nil _ above
  intro same
  change keyBelow other path = key at same
  rw [keyBelow_of_ne some_there] at same
  cases path with
  | nil =>
    obtain rfl : other = key := by simpa using same
    exact String.lt_irrefl _ above
  | cons step path =>
    apply named.2
    rw [← same, List.map_cons, String.intercalate_cons_cons]
    simp

private theorem entryOf?_leaves_above {key : String} (named : StandsInPath key) {entries : List (String × Document)}
    (above : ∀ e ∈ entries, key < e.1) : entryOf? key (leavesOfEntries "" entries).reverse = none := by
  rw [entryOf?_eq_none_iff]
  intro e mem
  obtain ⟨other, value, path, leaf, there, -, rfl⟩ := (mem_leavesOfEntries "" entries e).mp (List.mem_reverse.mp mem)
  exact keyBelow_ne named (above (other, value) there) path

private theorem get?_flatten_of_holdsAt {key : String} (plain : ∀ item ∈ items, item.isScalar = true)
    (holds : HoldsAt d key (.list items)) : d.flatten.get? key = some (leafText (.list items)) := by
  cases holds with
  | leaf keyed there => exact (get?_flatten_eq_some_iff keyed).mpr ⟨_, _, there, rfl, rfl⟩
  | @entry entries _ _ ascending there named =>
    obtain ⟨front, back, rfl⟩ := List.append_of_mem there
    have own : leavesAt key (.list items) = [(key, leafText (.list items))] := by
      rw [leavesAt, if_pos (List.all_eq_true.mpr plain), leafText]
    have above : ∀ e ∈ back, key < e.1 := (List.pairwise_cons.mp (List.pairwise_append.mp ascending).2.1).1
    rw [flatten, leavesAt, leavesOfEntries_append, leavesOfEntries, TextMap.get?_ofList]
    -- The leaves in front may have this key too, but the last one counts, and those behind have other keys.
    change entryOf? key (leavesOfEntries "" front ++ (leavesAt key (.list items) ++ leavesOfEntries "" back)).reverse = _
    rw [List.reverse_append, List.reverse_append, List.append_assoc, entryOf?_append,
      entryOf?_leaves_above named above, own]
    simp [entryOf?]

/-- A list of values without parts has a property, which is read back as the texts of the values other than `null`, in
their order, as long as no text has a comma in it or white space around it and an empty text is not alone. -/
theorem list_read_back {key : String} (plain : ∀ item ∈ items, item.isScalar = true)
    (stands : ∀ s, .text s ∈ items → StandsInList s) (not_lone : present items ≠ [.text ""])
    (holds : HoldsAt d key (.list items)) :
    ∃ raw, d.flatten.get? key = some raw ∧ ∀ (σ : Type) (name : String) (s : σ),
      ((Target.collection .vector (.scalar .text)).convert .builtIn (.plain name) raw).run s =
        (.ok (.items ((present items).map fun item => .text item.leafText)), s) := by
  refine ⟨_, get?_flatten_of_holdsAt plain holds, fun σ name s => ?_⟩
  rw [convert_leafText name plain stands not_lone]
  rfl

def assorted : List Document := [.text "", .null, .integer 1, .text "x y"]

def overlapping : Document := .table [("", .table [("a", .text "lost")]), ("a", .list assorted)]

theorem overlapping_read_back :
    overlapping.flatten.get? "a" = some ",1,x y" ∧ ∀ (σ : Type) (s : σ),
      ((Target.collection .vector (.scalar .text)).convert .builtIn (.plain "a") ",1,x y").run s =
        (.ok (.items [.text "", .text "1", .text "x y"]), s) := by
  have stands : ∀ s, .text s ∈ assorted → StandsInList s := by
    intro s mem
    simp only [assorted, List.mem_cons, Document.text.injEq, reduceCtorEq, List.not_mem_nil, false_or, or_false] at mem
    rcases mem with rfl | rfl
    · apply StandsInList.of_forall_mem
      simp
    · refine ⟨by simp, fun c first => ?_, fun c last => ?_⟩
      · obtain rfl : c = 'x' := (Option.some.inj first).symm
        rfl
      · obtain rfl : c = 'y' := (Option.some.inj last).symm
        rfl
  have holds : HoldsAt overlapping "a" (.list assorted) := by
    apply HoldsAt.entry
    · rw [Ascending, List.pairwise_pair]
      exact String.lt_iff_toList_lt.mpr (by decide)
    · simp
    · simp [StandsInPath]
  have not_lone : present assorted ≠ [.text ""] := by simp [present, assorted, isNull]
  obtain ⟨raw, found, read⟩ := list_read_back (by simp [assorted, isScalar]) stands not_lone holds
  obtain rfl : ",1,x y" = raw := Option.some.inj ((by decide : _ = overlapping.flatten.get? "a").trans found)
  exact ⟨found, fun σ s => read σ "a" s⟩

end Document
end LiveConfig
