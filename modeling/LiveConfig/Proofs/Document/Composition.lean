import LiveConfig.Proofs.Document.PropertyRoundTrip

/-!
Texts in the line notation one below the other.

Lines come in one after another, and all that is carried from one to the next is the logical line that is
still open.  So a text that leaves none open can be followed by any other, and what both write is what the
first writes, overridden by what the second writes.
-/
namespace LiveConfig.PropertyText

open Text (isBlank trimStart)

def openAfter (open? : Option (List Char)) (next : List Char) : Option (List Char) :=
  let line := open?.getD [] ++ trimStart next
  if open?.isNone && isIgnored line then none
  else if isContinued line then some line.dropLast
  else none

def openLine? (lines : List (List Char)) : Option (List Char) := lines.foldl openAfter none

def LeftOpen (text : String) : Prop :=
  text.toList.getLast? = some '\\' ∧ (openLine? (physicalLines text.toList)).isSome = true

def IsRemark (text : String) : Prop :=
  ∀ line ∈ physicalLines text.toList, isIgnored (trimStart line) = true

/-- What one physical line completes does not hang on those that follow. -/
theorem joinLines_cons (open? : Option (List Char)) (next : List Char) :
    ∃ done, ∀ rest, joinLines open? (next :: rest) = done ++ joinLines (openAfter open? next) rest := by
  cases open? with
  | none =>
    by_cases ignored : isIgnored (trimStart next) = true
    · exact ⟨[], fun rest => by simp [joinLines, openAfter, ignored]⟩
    · by_cases continued : isContinued (trimStart next) = true
      · exact ⟨[], fun rest => by simp [joinLines, openAfter, ignored, continued]⟩
      · exact ⟨[trimStart next], fun rest => by simp [joinLines, openAfter, ignored, continued]⟩
  | some line =>
    by_cases continued : isContinued (line ++ trimStart next) = true
    · exact ⟨[], fun rest => by simp [joinLines, openAfter, continued]⟩
    · exact ⟨[line ++ trimStart next], fun rest => by simp [joinLines, openAfter, continued]⟩

private theorem joinLines_append (open? : Option (List Char)) (lines : List (List Char)) :
    ∃ done, ∀ rest, joinLines open? (lines ++ rest) = done ++ joinLines (lines.foldl openAfter open?) rest := by
  induction lines generalizing open? with
  | nil => exact ⟨[], fun rest => rfl⟩
  | cons next lines ih =>
    obtain ⟨here, step⟩ := joinLines_cons open? next
    obtain ⟨later, run⟩ := ih (openAfter open? next)
    refine ⟨here ++ later, fun rest => ?_⟩
    rw [List.cons_append, step, run, List.append_assoc, List.foldl_cons]

private theorem isContinued_of_openAfter {open? : Option (List Char)} {next line : List Char}
    (waits : openAfter open? next = some line) : isContinued line = false := by
  simp only [openAfter] at waits
  split at waits
  · exact nomatch waits
  · split at waits
    · next continued =>
      obtain rfl := Option.some.inj waits
      exact isContinued_dropLast continued
    · exact nomatch waits

private theorem openLine?_concat (lines : List (List Char)) (next : List Char) :
    openLine? (lines ++ [next]) = openAfter (openLine? lines) next :=
  List.foldl_append

private theorem isContinued_of_openLine? {lines : List (List Char)} {line : List Char}
    (waits : openLine? lines = some line) : isContinued line = false := by
  rcases List.eq_nil_or_concat lines with rfl | ⟨front, next, rfl⟩
  · exact nomatch waits
  · rw [List.concat_eq_append, openLine?_concat] at waits
    exact isContinued_of_openAfter waits

/-- Only a backslash at its end leaves a line open. -/
private theorem openLine?_concat_eq_none {c : Char} (no_backslash : c ≠ '\\') (lines : List (List Char))
    (next : List Char) : openLine? (lines ++ [next ++ [c]]) = none := by
  have closed : isContinued (trimStart (next ++ [c])) = false := by
    rw [isContinued_trimStart]
    exact isContinued_concat no_backslash next
  rw [openLine?_concat, openAfter]
  cases before : openLine? lines with
  | none => simp [closed]
  | some line => simp [isContinued_append (isContinued_of_openLine? before), closed]

/-- A blank line closes the open line as it is. -/
private theorem joinLines_blank {open? : Option (List Char)} (rest : List (List Char))
    (whole : ∀ line, open? = some line → isContinued line = false) :
    joinLines open? ([] :: rest) = joinLines open? [] ++ joinLines none rest := by
  cases open? with
  | none => simp [joinLines, trimStart, isIgnored]
  | some line => simp [joinLines, trimStart, whole line rfl]

private theorem linesFrom_append_newline (current a b : List Char) :
    linesFrom current (a ++ '\n' :: b) = linesFrom current (a ++ ['\n']) ++ linesFrom [] b := by
  induction a generalizing current with
  | nil => simp [linesFrom]
  | cons c cs ih =>
    by_cases newline : c = '\n'
    · subst newline
      simp [linesFrom, ih]
    · rw [List.cons_append, List.cons_append, linesFrom_cons newline, linesFrom_cons newline, ih]

/-- A text that does not end in a newline ends in a line, which loses a carriage return when a newline
comes. -/
private theorem linesFrom_concat {c : Char} (inside : c ≠ '\n') (current a : List Char) :
    ∃ before last, linesFrom current (a ++ [c]) = before ++ [last ++ [c]] ∧
      ∀ b, linesFrom current (a ++ c :: '\n' :: b) =
        before ++ (if c = '\r' then last else last ++ [c]) :: linesFrom [] b := by
  induction a generalizing current with
  | nil =>
    refine ⟨[], current.reverse, ?_, fun b => ?_⟩
    · rw [List.nil_append, linesFrom_cons inside]
      simp [linesFrom]
    · rw [List.nil_append, linesFrom_cons inside]
      by_cases carriage : c = '\r'
      · subst carriage
        simp [linesFrom]
      · rw [linesFrom, if_pos rfl, if_neg carriage, List.reverse_cons, List.nil_append]
        rintro before eq
        exact carriage (List.cons.inj eq).1
  | cons d a ih =>
    by_cases newline : d = '\n'
    · subst newline
      obtain ⟨before, last, whole, followed⟩ := ih []
      simp only [List.cons_append, linesFrom, if_true, whole, followed]
      exact ⟨_ :: before, last, rfl, fun b => rfl⟩
    · obtain ⟨before, last, whole, followed⟩ := ih (d :: current)
      refine ⟨before, last, ?_, fun b => ?_⟩
      · rw [List.cons_append, linesFrom_cons newline, whole]
      · rw [List.cons_append, linesFrom_cons newline, followed]

/-- The lines of two texts of which the first ends in a line without carriage return, or else in a newline
or nothing at all. -/
theorem physicalLines_append (a b : List Char) :
    (∃ before last c, c ≠ '\n' ∧ a.getLast? = some c ∧ physicalLines a = before ++ [last ++ [c]] ∧
      physicalLines (a ++ '\n' :: b) =
        before ++ (if c = '\r' then last else last ++ [c]) :: physicalLines b) ∨
    physicalLines (a ++ '\n' :: b) = physicalLines a ++ [] :: physicalLines b := by
  unfold physicalLines
  rcases List.eq_nil_or_concat a with rfl | ⟨front, c, rfl⟩
  · right
    simp [linesFrom]
  · rw [List.concat_eq_append, List.append_assoc, List.singleton_append]
    by_cases newline : c = '\n'
    · subst newline
      right
      rw [linesFrom_append_newline]
      simp [linesFrom]
    · left
      obtain ⟨before, last, whole, followed⟩ := linesFrom_concat newline [] front
      exact ⟨before, last, c, newline, List.getLast?_concat, whole, followed b⟩

private theorem logicalLines_append {a : List Char} (no_return : a.getLast? ≠ some '\r')
    (closed : ¬ (a.getLast? = some '\\' ∧ (openLine? (physicalLines a)).isSome = true)) (b : List Char) :
    logicalLines (a ++ '\n' :: b) = logicalLines a ++ logicalLines b := by
  unfold logicalLines
  obtain ⟨done, run⟩ : ∃ done, ∀ rest, joinLines none (physicalLines a ++ rest) =
      done ++ joinLines (openLine? (physicalLines a)) rest := joinLines_append none (physicalLines a)
  have alone := run []
  rw [List.append_nil] at alone
  rcases physicalLines_append a b with ⟨before, last, c, -, ends, lines, followed⟩ | blank
  · have no_carriage : c ≠ '\r' := fun same => no_return (same ▸ ends)
    have none_open : openLine? (physicalLines a) = none := by
      by_cases backslash : c = '\\'
      · subst backslash
        simpa [ends] using closed
      · rw [lines]
        exact openLine?_concat_eq_none backslash before last
    have together : physicalLines (a ++ '\n' :: b) = physicalLines a ++ physicalLines b := by
      rw [followed, lines, if_neg no_carriage, List.append_assoc, List.singleton_append]
    rw [together, run, alone, none_open]
    simp [joinLines]
  · rw [blank, run, alone, joinLines_blank _ fun line => isContinued_of_openLine?, List.append_assoc]

private theorem isIgnored_of_concat {line : List Char} {c : Char}
    (ignored : isIgnored (trimStart (line ++ [c])) = true) : isIgnored (trimStart line) = true := by
  unfold trimStart at ignored ⊢
  rw [List.dropWhile_append] at ignored
  cases begins : line.dropWhile isBlank with
  | nil => rfl
  | cons d rest => simpa [begins, isIgnored] using ignored

private theorem joinLines_remark {lines : List (List Char)}
    (ignored : ∀ line ∈ lines, isIgnored (trimStart line) = true) (rest : List (List Char)) :
    joinLines none (lines ++ rest) = joinLines none rest := by
  induction lines with
  | nil => rfl
  | cons line lines ih =>
    rw [List.forall_mem_cons] at ignored
    rw [List.cons_append, joinLines]
    simp [ignored.1, ih ignored.2]

private theorem logicalLines_remark {c : List Char}
    (ignored : ∀ line ∈ physicalLines c, isIgnored (trimStart line) = true) (b : List Char) :
    logicalLines (c ++ '\n' :: b) = logicalLines b := by
  unfold logicalLines
  rcases physicalLines_append c b with ⟨before, last, d, -, -, lines, followed⟩ | blank
  · rw [lines, List.forall_mem_append, List.forall_mem_singleton] at ignored
    rw [followed, joinLines_remark ignored.1, ← List.singleton_append, joinLines_remark]
    rw [List.forall_mem_singleton]
    split
    · exact isIgnored_of_concat ignored.2
    · exact ignored.2
  · rw [blank, joinLines_remark ignored]
    simp [joinLines, trimStart, isIgnored]

private theorem parse_append_of_closed {a : String} (no_return : a.toList.getLast? ≠ some '\r')
    (closed : ¬ LeftOpen a) (b : String) :
    parse (a ++ "\n" ++ b) = (parse a).overriddenBy (parse b) := by
  have lines : (a ++ "\n" ++ b).toList = a.toList ++ '\n' :: b.toList := by simp
  unfold parse
  rw [lines, logicalLines_append no_return closed, List.map_append, TextMap.ofList_append]

private theorem parse_remark_append {c : String} (remark : IsRemark c) (b : String) :
    parse (c ++ "\n" ++ b) = parse b := by
  have lines : (c ++ "\n" ++ b).toList = c.toList ++ '\n' :: b.toList := by simp
  unfold parse
  rw [lines, logicalLines_remark remark]

/-- A text that does not end in a carriage return and leaves no logical line open at its end writes the
same in front of any other: the entries of the second text override its own.  So texts of this kind can be
put between logical lines with the effect of their entries, and comments and blank lines without any. -/
theorem parse_append {a : String} (no_return : a.toList.getLast? ≠ some '\r') (closed : ¬ LeftOpen a)
    (b : String) :
    parse (a ++ "\n" ++ b) = (parse a).overriddenBy (parse b) ∧
    (∀ c : String, c.toList.getLast? ≠ some '\r' → ¬ LeftOpen c →
      parse (a ++ "\n" ++ c ++ "\n" ++ b) = ((parse a).overriddenBy (parse c)).overriddenBy (parse b)) ∧
    (∀ c, IsRemark c → parse (a ++ "\n" ++ c ++ "\n" ++ b) = parse (a ++ "\n" ++ b)) := by
  have nested : ∀ c, a ++ "\n" ++ c ++ "\n" ++ b = a ++ "\n" ++ (c ++ "\n" ++ b) := by
    intro c
    simp only [String.append_assoc]
  refine ⟨parse_append_of_closed no_return closed b, ?_, ?_⟩
  · intro c no_return' closed'
    rw [nested, parse_append_of_closed no_return closed, parse_append_of_closed no_return' closed',
      TextMap.overriddenBy_assoc]
  · intro c remark
    rw [nested, parse_append_of_closed no_return closed, parse_append_of_closed no_return closed,
      parse_remark_append remark]

instance (text : String) : Decidable (LeftOpen text) := inferInstanceAs (Decidable (_ ∧ _))

instance (text : String) : Decidable (IsRemark text) :=
  inferInstanceAs (Decidable (∀ line ∈ physicalLines text.toList, isIgnored (trimStart line) = true))

/-- A continued line, a comment that ends in a backslash, and an entry that takes the place of the first. -/
theorem parse_append_continued :
    ("a=1\\\n 2".toList.getLast? ≠ some '\r' ∧ ¬ LeftOpen "a=1\\\n 2" ∧ IsRemark " # b=1\\") ∧
      parse ("a=1\\\n 2" ++ "\n" ++ "a:3\nc") = (parse "a=1\\\n 2").overriddenBy (parse "a:3\nc") ∧
      parse ("a=1\\\n 2" ++ "\n" ++ " # b=1\\" ++ "\n" ++ "a:3\nc") =
        parse ("a=1\\\n 2" ++ "\n" ++ "a:3\nc") ∧
      (parse "a=1\\\n 2").entries = [("a", "12")] ∧
      (parse ("a=1\\\n 2" ++ "\n" ++ "a:3\nc")).entries = [("a", "3"), ("c", "")] := by
  have no_return : "a=1\\\n 2".toList.getLast? ≠ some '\r' := by decide
  have closed : ¬ LeftOpen "a=1\\\n 2" := by decide
  have remark : IsRemark " # b=1\\" := by decide
  obtain ⟨overrides, -, inserts⟩ := parse_append no_return closed "a:3\nc"
  exact ⟨⟨no_return, closed, remark⟩, overrides, inserts _ remark, by decide, by decide⟩

end LiveConfig.PropertyText
