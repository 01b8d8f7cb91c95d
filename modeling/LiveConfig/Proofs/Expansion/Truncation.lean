import LiveConfig.Expansion
import Mathlib.Data.String.Lemmas

/-!
A text that is cut at a number of bytes: what is left of it is its longest beginning that fits.

Such a beginning is unique, so cutting may be put off or repeated: nothing changes if text behind the cut
is added later, or if a part of the text was cut at the same number of bytes before.
-/
namespace LiveConfig

/-- `t` is the longest beginning of `s` that has at most `limit` bytes.  It ends with a whole character. -/
structure IsLongestBeginning (limit : Nat) (s t : String) : Prop where
  begins : t.toList <+: s.toList
  fits : t.utf8ByteSize ≤ limit
  longest : ∀ u : String, u.toList <+: s.toList → u.utf8ByteSize ≤ limit → u.toList <+: t.toList

variable {limit : Nat} {s t u : String}

theorem utf8ByteSize_ofList_cons (c : Char) (cs : List Char) :
    (String.ofList (c :: cs)).utf8ByteSize = c.utf8Size + (String.ofList cs).utf8ByteSize := by
  simp

private theorem exists_append_of_begins (begins : t.toList <+: s.toList) : ∃ rest, t ++ rest = s := by
  obtain ⟨rest, eq⟩ := begins
  refine ⟨String.ofList rest, ?_⟩
  rw [← String.toList_inj, String.toList_append, String.toList_ofList, eq]

private theorem utf8ByteSize_le_of_begins (begins : t.toList <+: s.toList) : t.utf8ByteSize ≤ s.utf8ByteSize := by
  obtain ⟨rest, rfl⟩ := exists_append_of_begins begins
  rw [String.utf8ByteSize_append]
  exact Nat.le_add_right _ _

private theorem eq_of_begins_of_size_le (begins : t.toList <+: s.toList) (le : s.utf8ByteSize ≤ t.utf8ByteSize) :
    t = s := by
  obtain ⟨rest, rfl⟩ := exists_append_of_begins begins
  rw [String.utf8ByteSize_append] at le
  have empty : rest.utf8ByteSize = 0 := by omega
  rw [String.utf8ByteSize_eq_zero_iff.mp empty, String.append_empty]

theorem IsLongestBeginning.unique (first : IsLongestBeginning limit s t)
    (second : IsLongestBeginning limit s u) : t = u :=
  eq_of_begins_of_size_le (second.longest t first.begins first.fits)
    (utf8ByteSize_le_of_begins (first.longest u second.begins second.fits))

/-- What fits into `room` bytes is taken up to the first character that does not. -/
theorem takeBytes_eq (room : Nat) (taken cs : List Char) :
    ∃ more, takeBytes room taken cs = taken.reverse ++ more ∧
      IsLongestBeginning room (String.ofList cs) (String.ofList more) := by
  induction cs generalizing room taken with
  | nil =>
    refine ⟨[], by simp [takeBytes], ⟨by simp, by simp, ?_⟩⟩
    intro u begins _
    simpa using begins
  | cons c cs ih =>
    unfold takeBytes
    split
    · next fits =>
      obtain ⟨more, eq, longest⟩ := ih (room - c.utf8Size) (c :: taken)
      refine ⟨c :: more, by simp [eq], ⟨?_, ?_, ?_⟩⟩
      · have begins := longest.begins
        rw [String.toList_ofList, String.toList_ofList] at begins ⊢
        exact List.cons_prefix_cons.mpr ⟨rfl, begins⟩
      · have short := longest.fits
        rw [utf8ByteSize_ofList_cons]
        omega
      · intro u begins short
        obtain ⟨us, rfl⟩ : ∃ us, u = String.ofList us := ⟨u.toList, String.ofList_toList.symm⟩
        rw [String.toList_ofList, String.toList_ofList] at begins ⊢
        cases us with
        | nil => exact List.nil_prefix
        | cons d us =>
          obtain ⟨rfl, begins⟩ := List.cons_prefix_cons.mp begins
          rw [utf8ByteSize_ofList_cons] at short
          have inner := longest.longest (String.ofList us) (by simpa using begins) (by omega)
          rw [String.toList_ofList, String.toList_ofList] at inner
          exact List.cons_prefix_cons.mpr ⟨rfl, inner⟩
    · next wide =>
      refine ⟨[], by simp, ⟨by simp, by simp, ?_⟩⟩
      intro u begins short
      obtain ⟨us, rfl⟩ : ∃ us, u = String.ofList us := ⟨u.toList, String.ofList_toList.symm⟩
      rw [String.toList_ofList, String.toList_ofList] at begins ⊢
      cases us with
      | nil => exact List.nil_prefix
      | cons d us =>
        obtain ⟨rfl, -⟩ := List.cons_prefix_cons.mp begins
        rw [utf8ByteSize_ofList_cons] at short
        omega

theorem truncated_of_le (short : s.utf8ByteSize ≤ limit) : truncated limit s = s := if_pos short

theorem isLongestBeginning_truncated (limit : Nat) (s : String) :
    IsLongestBeginning limit s (truncated limit s) := by
  unfold truncated
  split
  · next short => exact ⟨List.prefix_rfl, short, fun u begins _ => begins⟩
  · obtain ⟨more, eq, longest⟩ := takeBytes_eq limit [] s.toList
    rw [String.ofList_toList] at longest
    rw [eq, List.reverse_nil, List.nil_append]
    exact longest

/-- Text behind the cut makes no difference. -/
theorem IsLongestBeginning.append_right (h : IsLongestBeginning limit s t) (long : limit < s.utf8ByteSize)
    (u : String) : IsLongestBeginning limit (s ++ u) t := by
  refine ⟨?_, h.fits, ?_⟩
  · rw [String.toList_append]
    exact h.begins.trans (List.prefix_append _ _)
  · intro v begins short
    rw [String.toList_append] at begins
    rcases List.prefix_or_prefix_of_prefix begins (List.prefix_append s.toList u.toList) with within | beyond
    · exact h.longest v within short
    · have := utf8ByteSize_le_of_begins beyond
      omega

theorem truncated_append (long : limit < s.utf8ByteSize) (u : String) :
    truncated limit (s ++ u) = truncated limit s :=
  (isLongestBeginning_truncated limit (s ++ u)).unique
    ((isLongestBeginning_truncated limit s).append_right long u)

/-- Cutting a part first makes no difference. -/
theorem truncated_append_truncated (s t : String) :
    truncated limit (s ++ truncated limit t) = truncated limit (s ++ t) := by
  have part := isLongestBeginning_truncated limit t
  have whole := isLongestBeginning_truncated limit (s ++ truncated limit t)
  refine (isLongestBeginning_truncated limit (s ++ t)).unique ⟨?_, whole.fits, ?_⟩ |>.symm
  · refine whole.begins.trans ?_
    rw [String.toList_append, String.toList_append]
    exact (List.prefix_append_right_inj _).mpr part.begins
  · intro v begins short
    apply whole.longest v _ short
    rw [String.toList_append] at begins ⊢
    rcases List.prefix_or_prefix_of_prefix begins (List.prefix_append s.toList t.toList) with within | beyond
    · exact within.trans (List.prefix_append _ _)
    · obtain ⟨rest, rfl⟩ := exists_append_of_begins beyond
      rw [String.toList_append] at begins ⊢
      rw [String.utf8ByteSize_append] at short
      have inside := (List.prefix_append_right_inj _).mp begins
      exact (List.prefix_append_right_inj _).mpr (part.longest rest inside (by omega))

/-- Text in front of a beginning that leaves room for it. -/
theorem IsLongestBeginning.append_left {front : String} (h : IsLongestBeginning limit s t)
    (room : front.utf8ByteSize + t.utf8ByteSize ≤ limit) :
    IsLongestBeginning limit (front ++ s) (front ++ t) := by
  refine ⟨?_, ?_, ?_⟩
  · rw [String.toList_append, String.toList_append]
    exact (List.prefix_append_right_inj _).mpr h.begins
  · rw [String.utf8ByteSize_append]
    exact room
  · intro v begins short
    rw [String.toList_append] at begins ⊢
    rcases List.prefix_or_prefix_of_prefix begins (List.prefix_append front.toList s.toList) with within | beyond
    · exact within.trans (List.prefix_append _ _)
    · obtain ⟨rest, rfl⟩ := exists_append_of_begins beyond
      rw [String.toList_append] at begins ⊢
      rw [String.utf8ByteSize_append] at short
      have inside := (List.prefix_append_right_inj _).mp begins
      exact (List.prefix_append_right_inj _).mpr (h.longest rest inside (by omega))

theorem utf8ByteSize_eq_of_same_sizes {cs ds : List Char} (sizes : cs.map Char.utf8Size = ds.map Char.utf8Size) :
    (String.ofList cs).utf8ByteSize = (String.ofList ds).utf8ByteSize := by
  induction cs generalizing ds with
  | nil =>
    obtain rfl : ds = [] := List.map_eq_nil_iff.mp sizes.symm
    rfl
  | cons c cs ih =>
    cases ds with
    | nil => exact nomatch sizes
    | cons d ds =>
      obtain ⟨size, sizes⟩ := List.cons.inj sizes
      rw [utf8ByteSize_ofList_cons, utf8ByteSize_ofList_cons, size, ih sizes]

private theorem takeBytes_of_same_sizes {cs ds : List Char} (sizes : cs.map Char.utf8Size = ds.map Char.utf8Size)
    (room : Nat) (taken taken' : List Char) :
    ∃ n, takeBytes room taken cs = taken.reverse ++ cs.take n ∧
      takeBytes room taken' ds = taken'.reverse ++ ds.take n := by
  induction cs generalizing ds room taken taken' with
  | nil =>
    obtain rfl : ds = [] := List.map_eq_nil_iff.mp sizes.symm
    exact ⟨0, by simp [takeBytes], by simp [takeBytes]⟩
  | cons c cs ih =>
    cases ds with
    | nil => exact nomatch sizes
    | cons d ds =>
      obtain ⟨size, sizes⟩ := List.cons.inj sizes
      unfold takeBytes
      rw [← size]
      split
      · obtain ⟨n, left, right⟩ := ih sizes (room - c.utf8Size) (c :: taken) (d :: taken')
        exact ⟨n + 1, by simp [left], by simp [right]⟩
      · exact ⟨0, by simp, by simp⟩

/-- Texts whose characters take the same bytes, one by one, are cut behind the same character. -/
theorem exists_take_truncated {cs ds : List Char} (sizes : cs.map Char.utf8Size = ds.map Char.utf8Size) (limit : Nat) :
    ∃ n, truncated limit (.ofList cs) = .ofList (cs.take n) ∧ truncated limit (.ofList ds) = .ofList (ds.take n) := by
  have lengths : cs.length = ds.length := by simpa using congrArg List.length sizes
  unfold truncated
  rw [utf8ByteSize_eq_of_same_sizes sizes, String.toList_ofList, String.toList_ofList]
  split
  · exact ⟨cs.length, by rw [List.take_length], by rw [lengths, List.take_length]⟩
  · obtain ⟨n, left, right⟩ := takeBytes_of_same_sizes sizes limit [] []
    exact ⟨n, congrArg String.ofList left, congrArg String.ofList right⟩

end LiveConfig
