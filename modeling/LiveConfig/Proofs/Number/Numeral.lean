import LiveConfig.Number.Shortest
import LiveConfig.Text.Blank

/-!
The characters that numbers are written with in a document.

Whatever the digits of a number are and wherever its point is, its text is not empty, and nothing in it could be taken
for a separator or for white space.
-/
namespace LiveConfig.Number

open Text (isBlank)

def isNumeralChar (c : Char) : Bool := c.isDigit || c = '-' || c = '+' || c = '.' || c = 'e'

private theorem isNumeralChar_of_mem_toDigits {n : Nat} {c : Char} (mem : c ∈ Nat.toDigits 10 n) :
    isNumeralChar c = true := by
  have digit := Nat.isDigit_of_mem_toDigits (by decide) (by decide) mem
  simp [isNumeralChar, digit]

theorem visible_of_isNumeralChar {c : Char} (numeral : isNumeralChar c = true) : c ≠ ',' ∧ isBlank c = false := by
  simp only [isNumeralChar, Bool.or_eq_true, decide_eq_true_eq] at numeral
  rcases numeral with (((digit | rfl) | rfl) | rfl) | rfl
  · simp only [Char.isDigit, Bool.and_eq_true, decide_eq_true_eq, ge_iff_le, UInt32.le_iff_toNat_le] at digit
    have low : 48 ≤ c.toNat := digit.1
    have high : c.toNat ≤ 57 := digit.2
    constructor
    · rintro rfl
      exact nomatch low
    · unfold isBlank
      simp
      omega
  all_goals decide

structure IsNumeral (s : String) : Prop where
  ne_empty : s ≠ ""
  numeral : ∀ c ∈ s.toList, isNumeralChar c = true

private theorem IsNumeral.of_sign {sign : String} {body : List Char} (signed : sign = "" ∨ sign = "-")
    (some_there : body ≠ [])
    (numeral : ∀ c ∈ body, isNumeralChar c = true) : IsNumeral (sign ++ String.ofList body) where
  ne_empty := by simp [String.append_eq_empty_iff, some_there]
  numeral := by
    rw [String.toList_append, String.toList_ofList, List.forall_mem_append]
    refine ⟨?_, numeral⟩
    rcases signed with rfl | rfl
    · simp
    · simp [isNumeralChar]

theorem isNumeral_toString (n : Int) : IsNumeral (toString n) := by
  have signed : ∃ sign m, (sign = "" ∨ sign = "-") ∧ toString n = sign ++ String.ofList (Nat.toDigits 10 m) := by
    cases n with
    | ofNat m => exact ⟨"", m, .inl rfl, String.empty_append.symm⟩
    | negSucc m => exact ⟨"-", m + 1, .inr rfl, rfl⟩
  obtain ⟨sign, m, signed, eq⟩ := signed
  rw [eq]
  exact .of_sign signed Nat.toDigits_ne_nil fun c => isNumeralChar_of_mem_toDigits

theorem isNumeral_documentText (bits : Nat) : IsNumeral (documentText bits) := by
  have signed : (if bits / Nat.pow 2 63 % 2 = 1 then "-" else "") = "" ∨
      (if bits / Nat.pow 2 63 % 2 = 1 then "-" else "") = "-" := by
    split
    · exact .inr rfl
    · exact .inl rfl
  unfold documentText
  dsimp only
  -- Which digits there are, and where the point is, does not matter from here on.
  generalize (if bits / Nat.pow 2 63 % 2 = 1 then "-" else "") = sign at signed
  generalize decodeDouble bits = decoded
  generalize shortestDecimal decoded.1 decoded.2 = shortest
  generalize shortest.1 = n
  generalize ((Nat.toDigits 10 n).length : Int) + shortest.2 = point
  have digits : ∀ c ∈ Nat.toDigits 10 n, isNumeralChar c = true := fun c => isNumeralChar_of_mem_toDigits
  have front : ∀ k, ∀ c ∈ (Nat.toDigits 10 n).take k, isNumeralChar c = true :=
    fun k c mem => digits c (List.mem_of_mem_take mem)
  have back : ∀ k, ∀ c ∈ (Nat.toDigits 10 n).drop k, isNumeralChar c = true :=
    fun k c mem => digits c (List.mem_of_mem_drop mem)
  have zeros : ∀ k, ∀ c ∈ List.replicate k '0', isNumeralChar c = true := by
    intro k c mem
    rw [List.eq_of_mem_replicate mem]
    rfl
  split
  · exact .of_sign signed (List.cons_ne_nil '0' ['.', '0']) (by simp [isNumeralChar])
  · apply IsNumeral.of_sign signed
    · repeat' split
      all_goals simp
    · split
      · split
        · simp only [List.forall_mem_append, List.forall_mem_cons]
          exact ⟨⟨digits, zeros _⟩, rfl, rfl, nofun⟩
        · split
          · simp only [List.forall_mem_append, List.forall_mem_cons]
            exact ⟨front _, rfl, back _⟩
          · simp only [List.forall_mem_append, List.forall_mem_cons]
            exact ⟨⟨rfl, rfl, zeros _⟩, digits⟩
      · simp only [List.forall_mem_append]
        refine ⟨⟨⟨front 1, ?_⟩, ?_⟩, fun c => isNumeralChar_of_mem_toDigits⟩
        · split
          · exact nofun
          · rw [List.forall_mem_cons]
            exact ⟨rfl, back 1⟩
        · split
          · simp [isNumeralChar]
          · simp [isNumeralChar]

end LiveConfig.Number
