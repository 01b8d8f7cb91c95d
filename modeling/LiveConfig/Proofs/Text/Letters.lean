/-!
ASCII letters by their codes, and their lower case.
-/
namespace LiveConfig.Text

variable {c : Char}

private theorem isUpper_iff : c.isUpper = true ↔ 0x41 ≤ c.toNat ∧ c.toNat ≤ 0x5A := decide_eq_true_iff

private theorem isLower_iff : c.isLower = true ↔ 0x61 ≤ c.toNat ∧ c.toNat ≤ 0x7A := by
  constructor
  · intro lower
    obtain ⟨above, below⟩ := Bool.and_eq_true_iff.mp lower
    exact ⟨of_decide_eq_true above, of_decide_eq_true below⟩
  · rintro ⟨above, below⟩
    exact Bool.and_eq_true_iff.mpr ⟨decide_eq_true above, decide_eq_true below⟩

private theorem isAlpha_iff : c.isAlpha = true ↔ c.isUpper = true ∨ c.isLower = true := Bool.or_eq_true_iff

theorem isAlphanum_iff : c.isAlphanum = true ↔ c.isAlpha = true ∨ c.isDigit = true := Bool.or_eq_true_iff

private theorem toLower_of_not_isUpper (upper : c.isUpper = false) : c.toLower = c :=
  dif_neg (of_decide_eq_false upper)

private theorem toNat_toLower (upper : c.isUpper = true) : c.toLower.toNat = c.toNat + 0x20 := by
  have moved : c.toLower.val = c.val + 0x20 := congrArg Char.val (dif_pos (of_decide_eq_true upper))
  have bounds := isUpper_iff.mp upper
  calc c.toLower.toNat = (c.val + 0x20).toNat := congrArg UInt32.toNat moved
    _ = (c.toNat + 0x20) % UInt32.size := UInt32.toNat_add c.val 0x20
    _ = c.toNat + 0x20 := Nat.mod_eq_of_lt (Nat.lt_of_le_of_lt (Nat.add_le_add_right bounds.2 _) (by decide))

private theorem isLower_toLower (upper : c.isUpper = true) : c.toLower.isLower = true := by
  have bounds := isUpper_iff.mp upper
  have moved := toNat_toLower upper
  exact isLower_iff.mpr (by omega)

theorem isAlpha_toLower (c : Char) : c.toLower.isAlpha = c.isAlpha := by
  cases upper : c.isUpper with
  | true => rw [isAlpha_iff.mpr (.inr (isLower_toLower upper)), isAlpha_iff.mpr (.inl upper)]
  | false => rw [toLower_of_not_isUpper upper]

private theorem isUpper_toLower (c : Char) : c.toLower.isUpper = false := by
  cases upper : c.isUpper with
  | true =>
    apply Bool.eq_false_iff.mpr
    intro still
    have above := isUpper_iff.mp still
    have below := isLower_iff.mp (isLower_toLower upper)
    omega
  | false => rwa [toLower_of_not_isUpper upper]

theorem toLower_toLower (c : Char) : c.toLower.toLower = c.toLower := toLower_of_not_isUpper (isUpper_toLower c)

/-- The characters of the name of a scheme. -/
theorem toNat_of_letter (letter : (c.isAlphanum || c = '+' || c = '-' || c = '.') = true) :
    0x20 < c.toNat ∧ c.toNat < 0x80 ∧ c ≠ ':' := by
  have other : c.toNat ≠ 0x3A → c ≠ ':' := fun apart eq => apart (eq ▸ rfl)
  simp only [Bool.or_eq_true, decide_eq_true_eq] at letter
  rcases letter with ((letter | rfl) | rfl) | rfl
  · have bounds : (0x30 ≤ c.toNat ∧ c.toNat ≤ 0x39) ∨ (0x41 ≤ c.toNat ∧ c.toNat < 0x80) := by
      rcases isAlphanum_iff.mp letter with letter | digit
      · rcases isAlpha_iff.mp letter with upper | lower
        · have := isUpper_iff.mp upper
          omega
        · have := isLower_iff.mp lower
          omega
      · exact .inl (Char.isDigit_iff_toNat.mp digit)
    exact ⟨by omega, by omega, other (by omega)⟩
  all_goals decide

theorem letter_toLower (c : Char) :
    (c.toLower.isAlphanum || c.toLower = '+' || c.toLower = '-' || c.toLower = '.') =
      (c.isAlphanum || c = '+' || c = '-' || c = '.') := by
  cases upper : c.isUpper with
  | true =>
    have alpha : c.isAlpha = true := isAlpha_iff.mpr (.inl upper)
    rw [isAlphanum_iff.mpr (.inl alpha), isAlphanum_iff.mpr (.inl ((isAlpha_toLower c).trans alpha))]
    rfl
  | false => rw [toLower_of_not_isUpper upper]

end LiveConfig.Text
