import LiveConfig.Proofs.Document.PropertyRoundTrip
import LiveConfig.Text.Bytes

/-!
The grammar of escapes in keys and values, and how far reading follows it.

The grammar wants four hexadecimal digits after `\u`.  Reading takes the next four characters, or what is
left of them at the end of the text, and asks whether they are a number in sixteen; so a shorter number at
the end and one with a plus sign ahead pass for codes too.  Nothing else sets the two apart.
-/
namespace LiveConfig

open Text (hexDigit?)

def hexValue? (digits : List Char) : Option Nat :=
  digits.foldlM (fun n c => (hexDigit? c).map (n * 16 + ·)) 0

private theorem hexValue?_cons_eq_none {c : Char} (no_digit : hexDigit? c = none) (cs : List Char) :
    hexValue? (c :: cs) = none := by
  simp [hexValue?, no_digit]

namespace Number

private theorem digitOf?_sixteen (c : Char) : digitOf? 16 c = hexDigit? c := by
  have between : ∀ a b : Char, (a ≤ c && c ≤ b) = (a.toNat ≤ c.toNat && c.toNat ≤ b.toNat) :=
    fun _ _ => rfl
  have bound : ∀ n, n < 16 → (if n < 16 then some n else none) = some n := fun n lt => if_pos lt
  simp only [digitOf?, hexDigit?, between, Bool.and_eq_true, decide_eq_true_eq, Char.reduceToNat]
  split
  · exact bound _ (by omega)
  · split
    · exact bound _ (by omega)
    · split
      · exact bound _ (by omega)
      · rfl

private theorem lt_of_hexDigit? {c : Char} {d : Nat} (digit : hexDigit? c = some d) : d < 16 := by
  rw [← digitOf?_sixteen] at digit
  unfold digitOf? at digit
  simp only [Option.ite_none_right_eq_some, Option.some.injEq] at digit
  omega

/-- Digits that cannot overflow are read as the number they write. -/
private theorem toOption_readMagnitude (overflow : IntegerError) {limit acc : Nat} {cs : List Char}
    (fits : (acc + 1) * 16 ^ cs.length ≤ limit + 1) :
    (readMagnitude 16 limit overflow acc cs).toOption =
      cs.foldlM (fun n c => (hexDigit? c).map (n * 16 + ·)) acc := by
  induction cs generalizing acc with
  | nil => rfl
  | cons c cs ih =>
    rw [readMagnitude, digitOf?_sixteen, List.foldlM_cons]
    cases digit : hexDigit? c with
    | none => rfl
    | some d =>
      have lt := lt_of_hexDigit? digit
      have later : (acc * 16 + d + 1) * 16 ^ cs.length ≤ limit + 1 := by
        rw [List.length_cons, Nat.pow_succ', ← Nat.mul_assoc] at fits
        exact Nat.le_trans (Nat.mul_le_mul_right _ (by omega)) fits
      have here : acc * 16 + d ≤ limit := by
        have := Nat.le_mul_of_pos_right (acc * 16 + d + 1) (Nat.pow_pos (n := cs.length) (by omega : 0 < 16))
        omega
      simpa [here] using ih later

end Number

namespace PropertyText

def FourDigits (window : List Char) (c : Char) : Prop :=
  window.length = 4 ∧ hexValue? window = some c.toNat

def numeral? : List Char → Option Nat
  | [] | ['+'] => none
  | '+' :: digits => hexValue? digits
  | digits => hexValue? digits

def Numeral (window : List Char) (c : Char) : Prop := numeral? window = some c.toNat

def letters : List (Char × Char) := [('t', '\t'), ('n', '\n'), ('r', '\r'), ('f', '\x0c')]

/-- How a text with escapes is read from left to right, where `Code` says which of the up to four
characters after `\u` are the code of a character.  If they are none, they stay as they are. -/
inductive Reads (Code : List Char → Char → Prop) : List Char → List Char → Prop where
  | nothing : Reads Code [] []
  | plain {c : Char} {rest out : List Char} (itself : c ≠ '\\') (read : Reads Code rest out) :
      Reads Code (c :: rest) (c :: out)
  | letter {l c : Char} {rest out : List Char} (stands : (l, c) ∈ letters) (read : Reads Code rest out) :
      Reads Code ('\\' :: l :: rest) (c :: out)
  | code {c : Char} {rest out : List Char} (known : Code (rest.take 4) c) (read : Reads Code (rest.drop 4) out) :
      Reads Code ('\\' :: 'u' :: rest) (c :: out)
  | malformed {rest out : List Char} (unknown : ∀ c, ¬ Code (rest.take 4) c)
      (read : Reads Code (rest.drop 4) out) :
      Reads Code ('\\' :: 'u' :: rest) ('\\' :: 'u' :: (rest.take 4 ++ out))
  | other {c : Char} {rest out : List Char} (no_code : c ≠ 'u') (no_letter : c ∉ letters.map Prod.fst)
      (read : Reads Code rest out) : Reads Code ('\\' :: c :: rest) (c :: out)
  | lone : Reads Code ['\\'] []

def codeWindows : List Char → List (List Char)
  | '\\' :: 'u' :: rest => rest.take 4 :: codeWindows (rest.drop 4)
  | '\\' :: _ :: rest => codeWindows rest
  | _ :: rest => codeWindows rest
  | [] => []
termination_by cs => cs.length
decreasing_by all_goals simp only [List.length_cons, List.length_drop]; omega

private theorem numeral?_of_four {window : List Char} {n : Nat} (length : window.length = 4)
    (value : hexValue? window = some n) : numeral? window = some n := by
  unfold numeral?
  split
  · simp at length
  · simp at length
  · rw [hexValue?_cons_eq_none (by decide)] at value
    exact nomatch value
  · exact value

private theorem FourDigits.numeral {window : List Char} {c : Char} (four : FourDigits window c) :
    Numeral window c :=
  numeral?_of_four four.1 four.2

private theorem toOption_parseInteger {window : List Char} (short : window.length ≤ 4) :
    (Number.parseInteger ⟨false, 32⟩ 16 window).toOption = (numeral? window).map Int.ofNat := by
  have reads : ∀ cs : List Char, cs.length ≤ 4 →
      (Int.ofNat <$> Number.readMagnitude 16 (Number.Range.top ⟨false, 32⟩) .tooLarge 0 cs).toOption =
        (hexValue? cs).map Int.ofNat := by
    intro cs short
    have fits : (0 + 1) * 16 ^ cs.length ≤ Number.Range.top ⟨false, 32⟩ + 1 :=
      Nat.le_trans (by simpa using Nat.pow_le_pow_right (by omega) short) (by decide : 16 ^ 4 ≤ _)
    unfold hexValue?
    rw [← Number.toOption_readMagnitude .tooLarge fits]
    cases Number.readMagnitude 16 (Number.Range.top ⟨false, 32⟩) .tooLarge 0 cs with
    | error e => rfl
    | ok n => rfl
  unfold Number.parseInteger
  split
  · rfl
  · rfl
  · rfl
  · next digits more =>
    rw [reads _ (by simp at short; omega), numeral?]
    exact more
  · rw [numeral?, hexValue?_cons_eq_none (by decide)]
    all_goals simp
    rfl
  · next empty plus minus signed _ =>
    rw [reads _ short, numeral?]
    · exact empty
    · exact plus
    · exact signed

/-- Numbers of at most four digits fit every width, so only a code that no character has keeps one from
being read. -/
theorem decodeUnicode_eq {window : List Char} (short : window.length ≤ 4) :
    (∃ c, Numeral window c ∧ decodeUnicode window = [c]) ∨
      (∀ c, ¬ Numeral window c) ∧ decodeUnicode window = '\\' :: 'u' :: window := by
  have value := toOption_parseInteger short
  unfold decodeUnicode Numeral
  cases read : Number.parseInteger ⟨false, 32⟩ 16 window with
  | error e =>
    rw [read] at value
    have none_there : numeral? window = none := Option.map_eq_none_iff.mp value.symm
    exact .inr ⟨fun c => by simp [none_there], rfl⟩
  | ok i =>
    rw [read] at value
    obtain ⟨n, there, rfl⟩ := Option.map_eq_some_iff.mp value.symm
    rw [there]
    by_cases valid : n.isValidChar
    · refine .inl ⟨Char.ofNat n, ?_, if_pos valid⟩
      unfold Char.ofNat
      rw [dif_pos valid]
      rfl
    · refine .inr ⟨fun c same => ?_, if_neg valid⟩
      rw [Option.some.inj same] at valid
      exact valid c.valid

private theorem unescape_code (rest : List Char) :
    unescape ('\\' :: 'u' :: rest) = decodeUnicode (rest.take 4) ++ unescape (rest.drop 4) := by
  match rest with
  | a :: b :: c :: d :: rest => simp [unescape]
  | [] | [_] | [_, _] | [_, _, _] => simp [unescape]

private theorem decodeLetter_of_letter {l c : Char} (stands : (l, c) ∈ letters) : l ≠ 'u' ∧ decodeLetter l = c := by
  simp only [letters, List.mem_cons, Prod.mk.injEq, List.not_mem_nil, or_false] at stands
  rcases stands with ⟨rfl, rfl⟩ | ⟨rfl, rfl⟩ | ⟨rfl, rfl⟩ | ⟨rfl, rfl⟩ <;> decide

private theorem decodeLetter_of_other {c : Char} (no_letter : c ∉ letters.map Prod.fst) : decodeLetter c = c := by
  simp only [letters, List.map_cons, List.map_nil, List.mem_cons, List.not_mem_nil, or_false, not_or]
    at no_letter
  simp [decodeLetter, no_letter]

private theorem codeWindows_code (rest : List Char) :
    codeWindows ('\\' :: 'u' :: rest) = rest.take 4 :: codeWindows (rest.drop 4) := by
  rw [codeWindows]

private theorem codeWindows_letter {c : Char} (letter : c ≠ 'u') (rest : List Char) :
    codeWindows ('\\' :: c :: rest) = codeWindows rest := by
  rw [codeWindows]
  simp [letter]

private theorem codeWindows_plain {c : Char} (itself : c ≠ '\\') (rest : List Char) :
    codeWindows (c :: rest) = codeWindows rest := by
  rw [codeWindows]
  all_goals simp [itself]

private theorem unescape_of_reads {raw out : List Char} (read : Reads Numeral raw out) : unescape raw = out := by
  induction read with
  | nothing => simp [unescape]
  | plain itself _ ih => rw [unescape_plain itself, ih]
  | letter stands _ ih =>
    obtain ⟨no_code, decoded⟩ := decodeLetter_of_letter stands
    rw [unescape_escaped no_code, decoded, ih]
  | @code c rest _ known _ ih =>
    rw [unescape_code, ih]
    rcases decodeUnicode_eq (List.length_take_le 4 rest) with ⟨d, numeral, decoded⟩ | ⟨unknown, -⟩
    · have same : d = c := Char.toNat_inj.mp (Option.some.inj (numeral.symm.trans known))
      rw [decoded, same, List.singleton_append]
    · exact absurd known (unknown c)
  | @malformed rest _ unknown _ ih =>
    rw [unescape_code, ih]
    rcases decodeUnicode_eq (List.length_take_le 4 rest) with ⟨d, numeral, -⟩ | ⟨-, kept⟩
    · exact absurd numeral (unknown d)
    · rw [kept, List.cons_append, List.cons_append]
  | other no_code no_letter _ ih => rw [unescape_escaped no_code, decodeLetter_of_other no_letter, ih]
  | lone => simp [unescape]

/-- Every text has a reading, whatever the codes are. -/
theorem exists_reads (Code : List Char → Char → Prop) (raw : List Char) : ∃ out, Reads Code raw out := by
  induction size : raw.length using Nat.strongRecOn generalizing raw with
  | ind n ih =>
    have later : ∀ rest : List Char, rest.length < n → ∃ out, Reads Code rest out :=
      fun rest lt => ih rest.length lt rest rfl
    cases raw with
    | nil => exact ⟨[], .nothing⟩
    | cons c cs =>
      rw [List.length_cons] at size
      by_cases backslash : c = '\\'
      · subst backslash
        cases cs with
        | nil => exact ⟨[], .lone⟩
        | cons l rest =>
          rw [List.length_cons] at size
          obtain ⟨out, read⟩ := later rest (by omega)
          obtain ⟨behind, read_behind⟩ := later (rest.drop 4) (by rw [List.length_drop]; omega)
          by_cases escape : l = 'u'
          · subst escape
            by_cases known : ∃ c, Code (rest.take 4) c
            · obtain ⟨c, known⟩ := known
              exact ⟨_, .code known read_behind⟩
            · exact ⟨_, .malformed (fun c code => known ⟨c, code⟩) read_behind⟩
          · by_cases letter : l ∈ letters.map Prod.fst
            · obtain ⟨⟨_, c⟩, stands, rfl⟩ := List.mem_map.mp letter
              exact ⟨_, .letter stands read⟩
            · exact ⟨_, .other escape letter read⟩
      · obtain ⟨out, read⟩ := later cs (by omega)
        exact ⟨_, .plain backslash read⟩

/-- Grammars whose codes agree wherever a text is asked for one read it alike. -/
private theorem Reads.congr {Code Code' : List Char → Char → Prop} {raw out : List Char} (read : Reads Code raw out)
    (agree : ∀ window ∈ codeWindows raw, ∀ c, Code window c ↔ Code' window c) : Reads Code' raw out := by
  induction read with
  | nothing => exact .nothing
  | plain itself _ ih =>
    rw [codeWindows_plain itself] at agree
    exact .plain itself (ih agree)
  | letter stands _ ih =>
    rw [codeWindows_letter (decodeLetter_of_letter stands).1] at agree
    exact .letter stands (ih agree)
  | code known _ ih =>
    rw [codeWindows_code, List.forall_mem_cons] at agree
    exact .code ((agree.1 _).mp known) (ih agree.2)
  | malformed unknown _ ih =>
    rw [codeWindows_code, List.forall_mem_cons] at agree
    exact .malformed (fun c known => unknown c ((agree.1 c).mpr known)) (ih agree.2)
  | other no_code no_letter _ ih =>
    rw [codeWindows_letter no_code] at agree
    exact .other no_code no_letter (ih agree)
  | lone => exact .lone

/-- A text gets shorter by every code that the grammar does not know. -/
private theorem length_unescape_le {raw out : List Char} (read : Reads FourDigits raw out) :
    (unescape raw).length ≤ out.length ∧ ((unescape raw).length = out.length →
      ∀ window ∈ codeWindows raw, ∀ c, Numeral window c → FourDigits window c) := by
  induction read with
  | nothing => simp [unescape, codeWindows]
  | plain itself _ ih =>
    rw [unescape_plain itself, codeWindows_plain itself]
    simpa using ih
  | letter stands _ ih =>
    have no_code := (decodeLetter_of_letter stands).1
    rw [unescape_escaped no_code, codeWindows_letter no_code]
    simpa using ih
  | @code c rest out known _ ih =>
    rw [unescape_code, codeWindows_code, List.forall_mem_cons]
    rcases decodeUnicode_eq (List.length_take_le 4 rest) with ⟨d, numeral, decoded⟩ | ⟨unknown, -⟩
    · rw [decoded, List.singleton_append, List.length_cons, List.length_cons]
      refine ⟨by omega, fun same => ⟨?_, ih.2 (by omega)⟩⟩
      intro e numeral
      rwa [← Char.toNat_inj.mp (Option.some.inj (known.numeral.symm.trans numeral))]
    · exact absurd known.numeral (unknown c)
  | @malformed rest out unknown _ ih =>
    rw [unescape_code, codeWindows_code, List.forall_mem_cons]
    rcases decodeUnicode_eq (List.length_take_le 4 rest) with ⟨d, numeral, decoded⟩ | ⟨unknown, kept⟩
    · rw [decoded]
      simp only [List.singleton_append, List.length_cons, List.length_append]
      exact ⟨by omega, fun same => by omega⟩
    · rw [kept]
      simp only [List.cons_append, List.length_cons, List.length_append]
      exact ⟨by omega, fun same => ⟨fun c numeral => absurd numeral (unknown c), ih.2 (by omega)⟩⟩
  | other no_code _ _ ih =>
    rw [unescape_escaped no_code, codeWindows_letter no_code]
    simpa using ih
  | lone => simp [unescape, codeWindows]

/-- Escapes are read as the grammar says, with any number that fits the next four characters for a code.
So the reading is the one with codes of four digits exactly for the texts that have no other number where a
code may stand: no shorter one at their end, and none with a plus sign ahead. -/
theorem unescape_reads (raw : List Char) :
    (∀ out, unescape raw = out ↔ Reads Numeral raw out) ∧
    ((∀ out, unescape raw = out ↔ Reads FourDigits raw out) ↔
      ∀ window ∈ codeWindows raw, ∀ c, Numeral window c → FourDigits window c) := by
  have reads : ∀ out, unescape raw = out ↔ Reads Numeral raw out := by
    intro out
    constructor
    · rintro rfl
      obtain ⟨out, read⟩ := exists_reads Numeral raw
      rwa [unescape_of_reads read]
    · exact unescape_of_reads
  refine ⟨reads, ?_, ?_⟩
  · intro strict
    exact (length_unescape_le ((strict _).mp rfl)).2 rfl
  · intro clean out
    have agree : ∀ window ∈ codeWindows raw, ∀ c, Numeral window c ↔ FourDigits window c :=
      fun window mem c => ⟨clean window mem c, FourDigits.numeral⟩
    rw [reads out]
    exact ⟨fun read => read.congr agree, fun read => read.congr fun window mem c => (agree window mem c).symm⟩

/-- A letter by two digits at the end of a value, and by three digits behind a plus sign.  The grammar leaves
both as they are. -/
theorem loose_codes_read :
    (unescape ['\\', 'u', '4', '1'] = ['A'] ∧ ¬ Reads FourDigits ['\\', 'u', '4', '1'] ['A'] ∧
      Reads FourDigits ['\\', 'u', '4', '1'] ['\\', 'u', '4', '1']) ∧
    unescape ['\\', 'u', '+', '0', '4', '1'] = ['A'] ∧
      ¬ Reads FourDigits ['\\', 'u', '+', '0', '4', '1'] ['A'] ∧
      Reads FourDigits ['\\', 'u', '+', '0', '4', '1'] ['\\', 'u', '+', '0', '4', '1'] := by
  have short : ∀ c, ¬ FourDigits ['4', '1'] c := fun c four => nomatch four.1
  have signed : ∀ c, ¬ FourDigits ['+', '0', '4', '1'] c := fun c four => nomatch four.2
  refine ⟨⟨by decide, fun read => ?_, .malformed short .nothing⟩,
    by decide, fun read => ?_, .malformed signed .nothing⟩
  · cases read with
    | letter stands => exact (decodeLetter_of_letter stands).1 rfl
    | code known => exact short _ known
  · cases read with
    | letter stands => exact (decodeLetter_of_letter stands).1 rfl
    | code known => exact signed _ known

end PropertyText
end LiveConfig
