import LiveConfig.Text.Bytes
import Mathlib.Tactic.Push
import Mathlib.Tactic.SplitIfs

/-!
Percent signs, blanks and slashes in texts that are written with percent signs and read back.

Reading bytes as text makes no ASCII character that was not a byte before.  Reading a text with percent signs
makes no percent sign or blank either, and each slash that it makes costs a percent sign.
-/
namespace LiveConfig.Text

def isSign (c : Char) : Bool := c = '%' || c = ' '

def isSignByte (b : UInt8) : Bool := b = 0x25 || b = 0x20

def isSlashByte (b : UInt8) : Bool := b = 0x2F || b = 0x5C

def weight (bs : List UInt8) : Nat := bs.countP isSignByte + if bs.head?.any isSlashByte then 1 else 0

private theorem toNat_ofNat_of_le {n : Nat} (le : 0x80 ≤ n) :
    (Char.ofNat n).toNat = 0 ∨ 0x80 ≤ (Char.ofNat n).toNat := by
  by_cases valid : n.isValidChar
  · right
    have same : (Char.ofNat n).toNat = n := congrArg Char.toNat (dif_pos valid)
    omega
  · left
    exact congrArg Char.toNat (dif_neg valid)

def IsWide : Option (Nat × Nat × Nat × Nat) → Prop
  | none => True
  | some (code, left, low, _) => 0x80 ≤ low ∧ (2 ≤ code ∨ 1 ≤ left ∧ (1 ≤ code ∨ 0x90 ≤ low))

private theorem isWide_of_leadByte? {b code left low high : Nat}
    (lead : leadByte? b = some (code, left + 1, low, high)) :
    IsWide (some (code, left, low, high)) := by
  unfold leadByte? at lead
  unfold IsWide
  split_ifs at lead <;> simp_all <;> omega

def IsForeign (c : Option Char) : Prop := (c.getD replacement).toNat = 0 ∨ 0x80 ≤ (c.getD replacement).toNat

private theorem IsForeign.isSign_eq_false {c : Option Char} (h : IsForeign c) :
    isSign (c.getD replacement) = false := by
  unfold isSign
  rw [Bool.or_eq_false_iff, decide_eq_false_iff_not, decide_eq_false_iff_not]
  constructor
  all_goals
    intro eq
    rw [IsForeign, eq] at h
    revert h
    decide

private theorem isForeign_none : IsForeign none := .inr (by decide)

private theorem leadByte?_ne_zero {b code low high : Nat} : leadByte? b ≠ some (code, 0, low, high) := by
  unfold leadByte?
  split_ifs <;> simp

private theorem isForeign_of_le {n : Nat} (le : 0x80 ≤ n) : IsForeign (some (Char.ofNat n)) := toNat_ofNat_of_le le

/-- What is read of a character that was begun and what its state is then. -/
private theorem IsWide.foreign {code low high b : Nat} (wide : IsWide (some (code, 0, low, high))) (le : low ≤ b) :
    IsForeign (some (Char.ofNat (code * 64 + (b - 0x80)))) := by
  unfold IsWide at wide
  exact isForeign_of_le (by omega)

private theorem IsWide.next {code left low high b high' : Nat} (wide : IsWide (some (code, left + 1, low, high)))
    (le : low ≤ b) : IsWide (some (code * 64 + (b - 0x80), left, 0x80, high')) := by
  unfold IsWide at wide ⊢
  omega

def signsRead (cs : List (Option Char)) : Nat := cs.countP fun c => isSign (c.getD replacement)

private theorem signsRead_cons_le {c : Option Char} {cs : List (Option Char)} {b : UInt8} {bs : List UInt8}
    (same : isSign (c.getD replacement) = isSignByte b) (le : signsRead cs ≤ bs.countP isSignByte) :
    signsRead (c :: cs) ≤ (b :: bs).countP isSignByte := by
  unfold signsRead at le ⊢
  rw [List.countP_cons, List.countP_cons, same]
  omega

private theorem signsRead_foreign {c : Option Char} (cs : List (Option Char)) (foreign : IsForeign c) :
    signsRead (c :: cs) = signsRead cs := by
  unfold signsRead
  rw [List.countP_cons, foreign.isSign_eq_false]
  rfl

private theorem isSign_ofNat (b : UInt8) (ascii : b.toNat < 0x80) :
    isSign (Char.ofNat b.toNat) = isSignByte b := by
  have all : ∀ n < 0x80, isSign (Char.ofNat n) = isSignByte (UInt8.ofNat n) := by decide
  have same := all b.toNat ascii
  rwa [UInt8.ofNat_toNat] at same

private theorem signsRead_decodeFrom_le (state : Option (Nat × Nat × Nat × Nat)) (wide : IsWide state)
    (bs : List UInt8) : signsRead (decodeFrom state bs) ≤ bs.countP isSignByte := by
  have later : ∀ (b : UInt8) (bs : List UInt8), bs.countP isSignByte ≤ (b :: bs).countP isSignByte :=
    fun b bs => (List.sublist_cons_self b bs).countP_le
  fun_induction decodeFrom state bs with
  | case1 => exact Nat.le_refl _
  | case2 => exact Nat.le_of_eq (signsRead_foreign [] isForeign_none)
  | case3 b bs ascii ih => exact signsRead_cons_le (isSign_ofNat b ascii) (ih trivial)
  | case4 b bs _ code low high lead ih => exact absurd lead leadByte?_ne_zero
  | case5 b bs _ code left low high lead ih => exact Nat.le_trans (ih (isWide_of_leadByte? lead)) (later b bs)
  | case6 b bs _ lead ih =>
    rw [signsRead_foreign _ isForeign_none]
    exact Nat.le_trans (ih trivial) (later b bs)
  | case7 code low high b bs inside next ih =>
    rw [signsRead_foreign _ (wide.foreign (by simp at inside; omega))]
    exact Nat.le_trans (ih trivial) (later b bs)
  | case8 code low high b bs inside next left ih =>
    exact Nat.le_trans (ih (wide.next (by simp at inside; omega))) (later b bs)
  | case9 code left low high b bs outside ascii ih =>
    rw [signsRead_foreign _ isForeign_none]
    exact signsRead_cons_le (isSign_ofNat b ascii) (ih trivial)
  | case10 code left low high b bs outside _ code' low' high' lead ih => exact absurd lead leadByte?_ne_zero
  | case11 code left low high b bs outside _ code' left' low' high' lead ih =>
    rw [signsRead_foreign _ isForeign_none]
    exact Nat.le_trans (ih (isWide_of_leadByte? lead)) (later b bs)
  | case12 code left low high b bs outside _ lead ih =>
    rw [signsRead_foreign _ isForeign_none, signsRead_foreign _ isForeign_none]
    exact Nat.le_trans (ih trivial) (later b bs)

theorem countP_decodeLossy_le (bs : List UInt8) :
    (decodeLossy bs).countP isSign ≤ bs.countP isSignByte := by
  unfold decodeLossy
  rw [List.countP_map]
  exact signsRead_decodeFrom_le none trivial bs

theorem decodeLossy_cons {b : UInt8} (bs : List UInt8) (ascii : b.toNat < 0x80) :
    decodeLossy (b :: bs) = Char.ofNat b.toNat :: decodeLossy bs := by
  unfold decodeLossy
  rw [decodeFrom, if_pos ascii]
  rfl

private theorem exists_foreign_of_wide {code left low high : Nat} (wide : IsWide (some (code, left, low, high)))
    (bs : List UInt8) :
    ∃ c rest, decodeFrom (some (code, left, low, high)) bs = c :: rest ∧ IsForeign c := by
  induction bs generalizing code left low high with
  | nil => exact ⟨none, [], rfl, isForeign_none⟩
  | cons b bs ih =>
    unfold decodeFrom
    split
    · next inside =>
      have le : low ≤ b.toNat := by simp at inside; omega
      cases left with
      | zero => exact ⟨_, _, rfl, wide.foreign le⟩
      | succ left => exact ih (wide.next le)
    · split
      · exact ⟨_, _, rfl, isForeign_none⟩
      · split <;> exact ⟨_, _, rfl, isForeign_none⟩

/-- A text that begins with an ASCII character was read from bytes that begin with it. -/
theorem exists_byte_of_decodeLossy {bs : List UInt8} {c : Char} {rest : List Char}
    (read : decodeLossy bs = c :: rest) (ascii : c.toNat < 0x80) (nonnull : c.toNat ≠ 0) :
    ∃ b more, bs = b :: more ∧ b.toNat < 0x80 ∧ Char.ofNat b.toNat = c := by
  have domestic : ∀ d : Option Char, IsForeign d → d.getD replacement ≠ c := by
    intro d foreign eq
    unfold IsForeign at foreign
    rw [eq] at foreign
    omega
  cases bs with
  | nil => exact nomatch read
  | cons b bs =>
    by_cases small : b.toNat < 0x80
    · rw [decodeLossy_cons bs small] at read
      exact ⟨b, bs, rfl, small, (List.cons.inj read).1⟩
    · exfalso
      unfold decodeLossy decodeFrom at read
      rw [if_neg small] at read
      split at read
      · next lead => exact leadByte?_ne_zero lead
      · next lead =>
        obtain ⟨d, more, eq, foreign⟩ := exists_foreign_of_wide (isWide_of_leadByte? lead) bs
        rw [eq] at read
        exact domestic d foreign (List.cons.inj read).1
      · exact domestic none isForeign_none (List.cons.inj read).1

theorem percentDecode_cons {c : Char} (cs : List Char) (other : c ≠ '%') :
    percentDecode (c :: cs) = String.utf8EncodeChar c ++ percentDecode cs := by
  rw [percentDecode]
  intro a b rest percent
  exact absurd percent other

private theorem percentDecode_digits {a b : Char} {x y : Nat} (cs : List Char) (high : hexDigit? a = some x)
    (low : hexDigit? b = some y) :
    percentDecode ('%' :: a :: b :: cs) = UInt8.ofNat (16 * x + y) :: percentDecode cs := by
  rw [percentDecode, high, low]

def IsBare (cs : List Char) : Prop :=
  ∀ a b rest, cs = a :: b :: rest → hexDigit? a = none ∨ hexDigit? b = none

private theorem percentDecode_bare {cs : List Char} (bare : IsBare cs) :
    percentDecode ('%' :: cs) = 0x25 :: percentDecode cs := by
  match cs with
  | [] => decide
  | [a] => rfl
  | a :: b :: rest =>
    rw [percentDecode]
    rcases bare a b rest rfl with none_there | none_there
    · rw [none_there]
    · rw [none_there]
      cases hexDigit? a <;> rfl

/-- The ways a text can begin, for one that reads percent signs. -/
private theorem percent_induction {motive : List Char → Prop} (nil : motive [])
    (plain : ∀ c cs, c ≠ '%' → motive cs → motive (c :: cs))
    (digits : ∀ a b x y cs, hexDigit? a = some x → hexDigit? b = some y → motive cs →
      motive ('%' :: a :: b :: cs))
    (bare : ∀ cs, IsBare cs → motive cs → motive ('%' :: cs)) (cs : List Char) : motive cs := by
  induction size : cs.length using Nat.strongRecOn generalizing cs with
  | ind n ih =>
    cases cs with
    | nil => exact nil
    | cons c cs =>
      have later : ∀ rest : List Char, rest.length ≤ cs.length → motive rest := fun rest le =>
        ih rest.length (by rw [← size, List.length_cons]; omega) rest rfl
      by_cases percent : c = '%'
      · subst percent
        by_cases none_there : IsBare cs
        · exact bare cs none_there (later cs (Nat.le_refl _))
        · unfold IsBare at none_there
          push Not at none_there
          obtain ⟨a, b, rest, rfl, high, low⟩ := none_there
          obtain ⟨x, high⟩ := Option.ne_none_iff_exists'.mp high
          obtain ⟨y, low⟩ := Option.ne_none_iff_exists'.mp low
          exact digits a b x y rest high low (later rest (by simp only [List.length_cons]; omega))
      · exact plain c cs percent (later cs (Nat.le_refl _))

/-- A slash ends whatever a percent sign begins. -/
theorem percentDecode_append_slash (cs more : List Char) :
    percentDecode (cs ++ '/' :: more) = percentDecode cs ++ 0x2F :: percentDecode more := by
  have slash : hexDigit? '/' = none := by decide
  induction cs using percent_induction with
  | nil => exact percentDecode_cons more (by decide)
  | plain c cs other ih =>
    rw [List.cons_append, percentDecode_cons _ other, percentDecode_cons _ other, ih, List.append_assoc]
  | digits a b x y cs high low ih =>
    simp only [List.cons_append]
    rw [percentDecode_digits _ high low, percentDecode_digits _ high low, ih, List.cons_append]
  | bare cs none_there ih =>
    have still : IsBare (cs ++ '/' :: more) := by
      intro a b rest eq
      match cs with
      | [] => exact .inl ((List.cons.inj eq).1 ▸ slash)
      | [c] => exact .inr ((List.cons.inj (List.cons.inj eq).2).1 ▸ slash)
      | c :: d :: cs =>
        simp only [List.cons_append, List.cons.injEq] at eq
        obtain ⟨rfl, rfl, -⟩ := eq
        exact none_there _ _ cs rfl
    rw [List.cons_append, percentDecode_bare still, percentDecode_bare none_there, ih, List.cons_append]

theorem hexDigit?_hexUpper (b : UInt8) : ∃ high low, hexUpper b = [high, low] ∧
    hexDigit? high = some (b.toNat / 16) ∧ hexDigit? low = some (b.toNat % 16) := by
  have digit : ∀ n < 16, hexDigit? (if n < 10 then Char.ofNat (0x30 + n) else Char.ofNat (0x37 + n)) = some n := by
    decide
  have lt := b.toNat_lt
  exact ⟨_, _, rfl, digit _ (by omega), digit _ (by omega)⟩

/-- Bytes that are written with percent signs are read back. -/
theorem percentDecode_encoded (bs : List UInt8) (cs : List Char) :
    percentDecode (bs.flatMap (fun b => '%' :: hexUpper b) ++ cs) = bs ++ percentDecode cs := by
  induction bs with
  | nil => rfl
  | cons b bs ih =>
    obtain ⟨high, low, eq, first, second⟩ := hexDigit?_hexUpper b
    rw [List.flatMap_cons, eq]
    simp only [List.cons_append, List.nil_append]
    rw [percentDecode_digits _ first second, ih, Nat.div_add_mod, UInt8.ofNat_toNat]

theorem le_weight (bs : List UInt8) : bs.countP isSignByte ≤ weight bs := Nat.le_add_right _ _

theorem weight_cons (b : UInt8) (bs : List UInt8) :
    weight (b :: bs) = (if isSignByte b || isSlashByte b then 1 else 0) + bs.countP isSignByte := by
  have apart : isSignByte b = true → isSlashByte b = false := by
    unfold isSignByte isSlashByte
    simp only [Bool.or_eq_true, decide_eq_true_eq]
    rintro (rfl | rfl) <;> decide
  unfold weight
  rw [List.countP_cons, List.head?_cons, Option.any_some]
  cases mark : isSignByte b with
  | true =>
    rw [apart mark]
    simp [Nat.add_comm]
  | false => cases isSlashByte b <;> simp [Nat.add_comm]

private theorem utf8EncodeChar_of_ascii {c : Char} (ascii : c.toNat < 0x80) :
    String.utf8EncodeChar c = [UInt8.ofNat c.toNat] :=
  if_pos (Nat.le_of_lt_succ ascii)

private theorem utf8EncodeChar_of_wide {c : Char} (wide : 0x80 ≤ c.toNat) :
    ∃ b bs, String.utf8EncodeChar c = b :: bs ∧ ∀ d ∈ b :: bs, 0x80 ≤ d.toNat := by
  unfold String.utf8EncodeChar
  dsimp only
  have wide : 0x80 ≤ c.val.toNat := wide
  rw [if_neg (Nat.not_le.mpr wide)]
  split_ifs
  all_goals
    refine ⟨_, _, rfl, ?_⟩
    simp only [List.forall_mem_cons, List.not_mem_nil, false_implies, implies_true, and_true,
      UInt8.toNat_ofNat']
    omega

theorem exists_cons_percentDecode {cs : List Char} (some_there : cs ≠ []) :
    ∃ b bs, percentDecode cs = b :: bs := by
  induction cs using percent_induction with
  | nil => exact absurd rfl some_there
  | plain c cs other ih =>
    rw [percentDecode_cons cs other]
    rcases Nat.lt_or_ge c.toNat 0x80 with ascii | wide
    · exact ⟨_, _, by rw [utf8EncodeChar_of_ascii ascii]; rfl⟩
    · obtain ⟨b, bs, eq, -⟩ := utf8EncodeChar_of_wide wide
      exact ⟨_, _, by rw [eq]; rfl⟩
  | digits a b x y cs high low ih => exact ⟨_, _, percentDecode_digits cs high low⟩
  | bare cs none_there ih => exact ⟨_, _, percentDecode_bare none_there⟩

private theorem isSignByte_eq_false {b : UInt8} (wide : 0x80 ≤ b.toNat) : isSignByte b = false := by
  unfold isSignByte
  rw [Bool.or_eq_false_iff, decide_eq_false_iff_not, decide_eq_false_iff_not]
  constructor <;> rintro rfl <;> revert wide <;> decide

private theorem isSlashByte_eq_false {b : UInt8} (wide : 0x80 ≤ b.toNat) : isSlashByte b = false := by
  unfold isSlashByte
  rw [Bool.or_eq_false_iff, decide_eq_false_iff_not, decide_eq_false_iff_not]
  constructor <;> rintro rfl <;> revert wide <;> decide

/-- The bytes of a character that is no slash. -/
theorem weight_utf8EncodeChar_append {c : Char} (slash : c ≠ '/') (backslash : c ≠ '\\') (bs : List UInt8) :
    weight (String.utf8EncodeChar c ++ bs) = (if isSign c then 1 else 0) + bs.countP isSignByte := by
  rcases Nat.lt_or_ge c.toNat 0x80 with ascii | wide
  · have all : ∀ n < 0x80, Char.ofNat n ≠ '/' → Char.ofNat n ≠ '\\' →
        (isSignByte (UInt8.ofNat n) || isSlashByte (UInt8.ofNat n)) = isSign (Char.ofNat n) := by decide
    rw [utf8EncodeChar_of_ascii ascii, List.singleton_append, weight_cons]
    rw [all c.toNat ascii (by rwa [Char.ofNat_toNat]) (by rwa [Char.ofNat_toNat]), Char.ofNat_toNat]
  · obtain ⟨b, more, eq, high⟩ := utf8EncodeChar_of_wide wide
    have none_there : more.countP isSignByte = 0 :=
      List.countP_eq_zero.mpr fun d mem => by simp [isSignByte_eq_false (high d (List.mem_cons_of_mem b mem))]
    have none_here : isSign c = false := by
      unfold isSign
      rw [Bool.or_eq_false_iff, decide_eq_false_iff_not, decide_eq_false_iff_not]
      constructor <;> rintro rfl <;> revert wide <;> decide
    rw [eq, List.cons_append, weight_cons, List.countP_append, none_there, none_here,
      isSignByte_eq_false (high b List.mem_cons_self), isSlashByte_eq_false (high b List.mem_cons_self)]
    simp

structure KeepsPercent (escape : Char → Bool) : Prop where
  percent : escape '%' = false
  digits : ∀ c x, hexDigit? c = some x → escape c = false

variable {escape : Char → Bool}

theorem toNat_of_hexDigit? {c : Char} {x : Nat} (digit : hexDigit? c = some x) :
    0x30 ≤ c.toNat ∧ c.toNat ≤ 0x66 := by
  unfold hexDigit? at digit
  have number : ∀ d : Char, d ≤ c ↔ d.toNat ≤ c.toNat := fun d => Iff.rfl
  have number' : ∀ d : Char, c ≤ d ↔ c.toNat ≤ d.toNat := fun d => Iff.rfl
  simp only [Bool.and_eq_true, decide_eq_true_eq, number, number'] at digit
  have bounds : '0'.toNat = 0x30 ∧ '9'.toNat = 0x39 ∧ 'a'.toNat = 0x61 ∧ 'f'.toNat = 0x66 ∧
    'A'.toNat = 0x41 ∧ 'F'.toNat = 0x46 := by decide
  split_ifs at digit <;> omega

private theorem percentEncodeChar_of_digit (keeps : KeepsPercent escape) {c : Char} {x : Nat}
    (digit : hexDigit? c = some x) : percentEncodeChar escape c = [c] := by
  have bounds := toNat_of_hexDigit? digit
  unfold percentEncodeChar
  rw [keeps.digits c x digit, if_neg]
  simp
  omega

private theorem percentEncodeChar_eq (escape : Char → Bool) (c : Char) :
    percentEncodeChar escape c = [c] ∨ ∃ more, percentEncodeChar escape c = '%' :: more := by
  unfold percentEncodeChar
  split
  · right
    rcases Nat.lt_or_ge c.toNat 0x80 with ascii | wide
    · exact ⟨_, by rw [utf8EncodeChar_of_ascii ascii]; rfl⟩
    · obtain ⟨b, bs, eq, -⟩ := utf8EncodeChar_of_wide wide
      exact ⟨_, by rw [eq]; rfl⟩
  · exact .inl rfl

private theorem isBare_percentEncode {cs : List Char} (bare : IsBare cs) :
    IsBare (cs.flatMap (percentEncodeChar escape)) := by
  have percent : hexDigit? '%' = none := by decide
  intro a b rest eq
  match cs with
  | [] => exact nomatch eq
  | c :: cs =>
    rw [List.flatMap_cons] at eq
    rcases percentEncodeChar_eq escape c with same | ⟨more, encoded⟩
    · simp only [same, List.singleton_append, List.cons.injEq] at eq
      obtain ⟨rfl, eq⟩ := eq
      match cs with
      | [] => exact nomatch eq
      | d :: cs =>
        rw [List.flatMap_cons] at eq
        rcases percentEncodeChar_eq escape d with same | ⟨more, encoded⟩
        · simp only [same, List.singleton_append, List.cons.injEq] at eq
          obtain ⟨rfl, -⟩ := eq
          exact bare _ _ cs rfl
        · simp only [encoded, List.cons_append, List.cons.injEq] at eq
          obtain ⟨rfl, -⟩ := eq
          exact .inr percent
    · simp only [encoded, List.cons_append, List.cons.injEq] at eq
      obtain ⟨rfl, -⟩ := eq
      exact .inl percent

private theorem percentDecode_percentEncodeChar {c : Char} (other : c ≠ '%') (cs : List Char) :
    percentDecode (percentEncodeChar escape c ++ cs) = String.utf8EncodeChar c ++ percentDecode cs := by
  unfold percentEncodeChar
  split
  · exact percentDecode_encoded _ cs
  · exact percentDecode_cons cs other

/-- Text without slashes that was written with percent signs is read without more percent signs and blanks;
if a slash comes first, with fewer. -/
theorem weight_percentDecode_le (keeps : KeepsPercent escape) {cs : List Char}
    (plain : ∀ c ∈ cs, c ≠ '/' ∧ c ≠ '\\') :
    weight (percentDecode (percentEncode escape cs)) ≤ cs.countP isSign := by
  have percent : percentEncodeChar escape '%' = ['%'] := by
    unfold percentEncodeChar
    rw [keeps.percent]
    rfl
  unfold percentEncode
  induction cs using percent_induction with
  | nil => exact Nat.le_refl 0
  | plain c cs other ih =>
    obtain ⟨slash, backslash⟩ := plain c List.mem_cons_self
    have later := ih fun d mem => plain d (List.mem_cons_of_mem c mem)
    rw [List.flatMap_cons, percentDecode_percentEncodeChar other,
      weight_utf8EncodeChar_append slash backslash, List.countP_cons]
    have le := le_weight (percentDecode (cs.flatMap (percentEncodeChar escape)))
    omega
  | digits a b x y cs high low ih =>
    have later := ih fun d mem =>
      plain d (List.mem_cons_of_mem _ (List.mem_cons_of_mem _ (List.mem_cons_of_mem _ mem)))
    simp only [List.flatMap_cons, percentEncodeChar_of_digit keeps high, percentEncodeChar_of_digit keeps low,
      percent, List.singleton_append]
    rw [percentDecode_digits _ high low, weight_cons, List.countP_cons, if_pos (show isSign '%' = true by decide)]
    have le := le_weight (percentDecode (cs.flatMap (percentEncodeChar escape)))
    have sublist : cs.countP isSign ≤ (a :: b :: cs).countP isSign :=
      ((List.sublist_cons_self b cs).trans (List.sublist_cons_self a _)).countP_le
    split <;> omega
  | bare cs none_there ih =>
    have later := ih fun d mem => plain d (List.mem_cons_of_mem _ mem)
    rw [List.flatMap_cons, percent, List.singleton_append, percentDecode_bare (isBare_percentEncode none_there),
      weight_cons, if_pos (by decide), List.countP_cons, if_pos (show isSign '%' = true by decide)]
    have le := le_weight (percentDecode (cs.flatMap (percentEncodeChar escape)))
    omega

end LiveConfig.Text
