import LiveConfig.Text.Blank
import LiveConfig.Text.Cut
import Mathlib.Data.List.Basic
import Mathlib.Data.List.Induction

/-!
White space at the ends of a text, and the pieces of a text between separators.
-/
namespace LiveConfig.Text

private theorem trimEnd_concat (cs : List Char) (c : Char) :
    trimEnd (cs ++ [c]) = if isBlank c then trimEnd cs else cs ++ [c] := by
  unfold trimEnd dropEndWhile
  rw [List.reverse_concat]
  cases blank : isBlank c with
  | true => rw [List.dropWhile_cons_of_pos blank, if_pos rfl]
  | false => rw [List.dropWhile_cons_of_neg (by simp [blank])]; simp

theorem trimEnd_eq_self {cs : List Char} (ended : ∀ c, cs.getLast? = some c → isBlank c = false) :
    trimEnd cs = cs := by
  rcases List.eq_nil_or_concat' cs with rfl | ⟨front, c, rfl⟩
  · rfl
  · rw [trimEnd_concat, ended c List.getLast?_concat]
    rfl

theorem trim_eq_self {cs : List Char} (started : ∀ c, cs.head? = some c → isBlank c = false)
    (ended : ∀ c, cs.getLast? = some c → isBlank c = false) : trim cs = cs := by
  have start : trimStart cs = cs := by
    cases cs with
    | nil => rfl
    | cons c cs => exact List.dropWhile_cons_of_neg (by simp [started c rfl])
  unfold trim
  rw [start]
  exact trimEnd_eq_self ended

theorem trimEnd_isBeginning (cs : List Char) : trimEnd cs <+: cs := by
  induction cs using List.reverseRecOn with
  | nil => exact List.prefix_rfl
  | append_singleton cs c ih =>
    rw [trimEnd_concat]
    split
    · exact ih.trans (List.prefix_append _ _)
    · exact List.prefix_rfl

theorem isBlank_getLast?_trimEnd {cs : List Char} {c : Char} (last : (trimEnd cs).getLast? = some c) :
    isBlank c = false := by
  induction cs using List.reverseRecOn with
  | nil => exact nomatch last
  | append_singleton cs d ih =>
    rw [trimEnd_concat] at last
    split at last
    · exact ih last
    · next visible =>
      rw [List.getLast?_concat] at last
      exact Option.some.inj last ▸ Bool.eq_false_iff.mpr visible

theorem trimEnd_append_cons (front : List Char) {c : Char} (visible : isBlank c = false) (cs : List Char) :
    trimEnd (front ++ c :: cs) = front ++ c :: trimEnd cs := by
  induction cs using List.reverseRecOn with
  | nil => rw [trimEnd_concat, visible]; rfl
  | append_singleton cs d ih =>
    rw [trimEnd_concat, ← List.cons_append, ← List.append_assoc, trimEnd_concat, ih]
    split <;> simp

private theorem pieces_singleton (sep : Char) (piece cs : List Char) :
    pieces [sep] 0 piece cs = List.splitOnPPrepend (· == sep) cs piece := by
  induction cs generalizing piece with
  | nil => rfl
  | cons c cs ih =>
    rw [pieces, List.splitOnPPrepend_cons_eq_if, List.splitOnP]
    by_cases here : c = sep
    · simp [here, List.isPrefixOf, ih]
    · simp [here, List.isPrefixOf, Ne.symm here, ih]

private theorem splitOn_singleton (sep : Char) (cs : List Char) : splitOn [sep] cs = List.splitOn sep cs :=
  pieces_singleton sep [] cs

/-- Texts are read back from between separators that they do not have in them. -/
theorem splitOn_intercalate {sep : String} {c : Char} (single : sep.toList = [c]) {texts : List String}
    (apart : ∀ s ∈ texts, c ∉ s.toList) (some_there : texts ≠ []) :
    splitOn sep.toList (sep.intercalate texts).toList = texts.map String.toList := by
  rw [String.toList_intercalate, single, splitOn_singleton]
  apply List.splitOn_intercalate
  · intro l mem
    obtain ⟨s, there, rfl⟩ := List.mem_map.mp mem
    exact apart s there
  · simpa using some_there

end LiveConfig.Text
