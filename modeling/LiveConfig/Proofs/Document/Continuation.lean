import LiveConfig.Document.PropertyText
import Mathlib.Algebra.Group.Nat.Even
import Mathlib.Data.List.DropRight
import Mathlib.Data.List.Induction

/-!
Logical lines, told physical line by physical line.

Whether a logical line goes on is tested on all that was joined so far.  That text always ends in an even number
of backslashes, since an odd one was taken off before the next line came.  So it makes no difference that these
stand next to the backslashes of the next line, or at the end again where the next line is blank: the test is one
on the line that came last.  A logical line takes up physical lines as far as the first that ends in an even number
of backslashes by itself.
-/
namespace LiveConfig.PropertyText

open Text (isBlank trimStart)

theorem isContinued_concat {c : Char} (no_backslash : c ≠ '\\') (line : List Char) :
    isContinued (line ++ [c]) = false := by
  simp [isContinued, no_backslash]

private theorem isContinued_backslash (line : List Char) :
    isContinued (line ++ ['\\']) = !isContinued line := by
  unfold isContinued
  rw [List.reverse_append, List.reverse_singleton, List.singleton_append,
    List.takeWhile_cons_of_pos (by simp), List.length_cons]
  by_cases odd : (line.reverse.takeWhile (· = '\\')).length % 2 = 1
  · simp [odd, show ((line.reverse.takeWhile (· = '\\')).length + 1) % 2 ≠ 1 by omega]
  · simp [odd, show ((line.reverse.takeWhile (· = '\\')).length + 1) % 2 = 1 by omega]

/-- A line that has lost the backslash that left it open ends in an even number of them. -/
theorem isContinued_dropLast {line : List Char} (continued : isContinued line = true) :
    isContinued line.dropLast = false := by
  rcases List.eq_nil_or_concat line with rfl | ⟨front, c, rfl⟩
  · rfl
  · rw [List.concat_eq_append] at continued ⊢
    rw [List.dropLast_concat]
    by_cases backslash : c = '\\'
    · rw [backslash, isContinued_backslash] at continued
      simpa using continued
    · rw [isContinued_concat backslash] at continued
      exact nomatch continued

/-- Behind a text that does not go on, only what comes last decides. -/
theorem isContinued_append {before : List Char} (whole : isContinued before = false) (line : List Char) :
    isContinued (before ++ line) = isContinued line := by
  induction line using List.reverseRecOn with
  | nil =>
    rw [List.append_nil, whole]
    rfl
  | append_singleton line c ih =>
    rw [← List.append_assoc]
    by_cases backslash : c = '\\'
    · rw [backslash, isContinued_backslash, isContinued_backslash, ih]
    · rw [isContinued_concat backslash, isContinued_concat backslash]

theorem isContinued_trimStart (line : List Char) : isContinued (trimStart line) = isContinued line := by
  have blanks : isContinued (line.takeWhile isBlank) = false := by
    rcases List.eq_nil_or_concat (line.takeWhile isBlank) with none_there | ⟨front, c, ends⟩
    · rw [none_there]
      rfl
    · rw [List.concat_eq_append] at ends
      have blank : isBlank c = true := List.mem_takeWhile_imp (ends ▸ List.mem_concat_self)
      have no_backslash : c ≠ '\\' := by
        rintro rfl
        exact nomatch blank
      rw [ends]
      exact isContinued_concat no_backslash front
  calc isContinued (trimStart line)
      = isContinued (line.takeWhile isBlank ++ trimStart line) := (isContinued_append blanks _).symm
    _ = isContinued line := by rw [trimStart, List.takeWhile_append_dropWhile]

def backslashes (line : List Char) : Nat := (line.rtakeWhile (· = '\\')).length

def isClosing (next : List Char) : Bool := Even (backslashes (trimStart next))

def addition (next : List Char) : List Char :=
  if isClosing next then trimStart next else (trimStart next).dropLast

/-- How many physical lines the logical line at the beginning takes up: those up to the first closing one, or, if
none is, more than there are. -/
def extent (lines : List (List Char)) : Nat := lines.findIdx isClosing + 1

private theorem isContinued_iff (line : List Char) : isContinued line = true ↔ ¬ Even (backslashes line) := by
  unfold isContinued backslashes List.rtakeWhile
  rw [decide_eq_true_iff, List.length_reverse, Nat.not_even_iff]

private theorem isContinued_next (next : List Char) : isContinued (trimStart next) = !isClosing next := by
  rw [Bool.eq_iff_iff, isContinued_iff]
  simp [isClosing]

private theorem extent_of_closing {next : List Char} (closing : isClosing next = true) (rest : List (List Char)) :
    extent (next :: rest) = 1 := by
  simp [extent, List.findIdx_cons, closing]

private theorem extent_of_open {next : List Char} (goes_on : isClosing next = false) (rest : List (List Char)) :
    extent (next :: rest) = extent rest + 1 := by
  simp [extent, List.findIdx_cons, goes_on]

/-- An open line takes up physical lines as far as the first closing one.  In between it never ends in an odd
number of backslashes itself. -/
theorem joinLines_open {line : List Char} (whole : isContinued line = false) (rest : List (List Char)) :
    joinLines (some line) rest =
      (line ++ (rest.take (extent rest)).flatMap addition) :: joinLines none (rest.drop (extent rest)) := by
  induction rest generalizing line with
  | nil => simp [joinLines]
  | cons next rest ih =>
    have test : isContinued (line ++ trimStart next) = !isClosing next := by
      rw [isContinued_append whole, isContinued_next]
    cases closing : isClosing next with
    | true =>
      rw [extent_of_closing closing]
      simp [joinLines, test, closing, addition]
    | false =>
      have continued : isContinued (line ++ trimStart next) = true := by rw [test, closing]; rfl
      -- A blank line would close the open one, so the backslash that is dropped stands in the line that came last.
      have some_there : trimStart next ≠ [] := by
        intro blank
        rw [blank, List.append_nil, whole] at continued
        exact nomatch continued
      have shortened : (line ++ trimStart next).dropLast = line ++ addition next := by
        rw [List.dropLast_append_of_ne_nil some_there, addition, if_neg (by simp [closing])]
      have joined := ih (isContinued_dropLast continued)
      rw [shortened] at joined
      rw [extent_of_open closing, List.take_succ_cons, List.flatMap_cons, List.drop_succ_cons, ← List.append_assoc,
        ← joined, ← shortened]
      simp [joinLines, continued]

/-- A logical line that begins with a line that is neither blank nor a comment takes up the physical lines up to
the first that ends in an even number of backslashes, or all lines if there is none.  It consists of these lines
without the blanks ahead, each without its last backslash if it ends in an odd number of them. -/
theorem joinLines_by_line {first : List Char} (meant : isIgnored (trimStart first) = false) (rest : List (List Char)) :
    let lines := first :: rest
    joinLines none lines =
      (lines.take (extent lines)).flatMap addition :: joinLines none (lines.drop (extent lines)) := by
  intro lines
  have begun : joinLines none lines = joinLines (some []) lines := by
    simp [lines, joinLines, meant]
  rw [begun, joinLines_open rfl lines, List.nil_append]

/-- Backslashes of one line stand next to those of the second, and a blank line has them at the end again. -/
theorem joinLines_through_blank :
    let first := " k=\\\\\\".toList
    let rest := [" \\".toList, " ".toList, "x".toList]
    isIgnored (trimStart first) = false ∧ extent (first :: rest) = 3 ∧
      joinLines none (first :: rest) = ["k=\\\\".toList, "x".toList] := by
  have meant : isIgnored (trimStart " k=\\\\\\".toList) = false := by decide
  exact ⟨meant, by decide, (joinLines_by_line meant _).trans (by decide)⟩

end LiveConfig.PropertyText
