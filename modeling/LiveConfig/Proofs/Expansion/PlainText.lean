import LiveConfig.Proofs.Expansion.Limit
import LiveConfig.Proofs.Placeholder.Occurrence

/-!
Texts without placeholders.

A text without an opening mark is given back at once, and one whose opening marks are all left open is copied as
a whole.  Only the copy is held to the length limit, so a text that is too long is cut if a mark occurs in it.
-/
namespace LiveConfig

open Placeholder

variable {σ : Type}

namespace ExpansionRun

def tooLongLine : LogLine :=
  ⟨.warn, "expanded value too long, truncating", [("limit", .number maxExpandedSize)]⟩

/-- The first text that is too long. -/
theorem limit_of_lt {r : ExpansionRun σ} {text : String} (long : maxExpandedSize < text.utf8ByteSize)
    (whole : r.overflowed = false) :
    r.limit text = (truncated maxExpandedSize text,
      { r with cuts := r.cuts + 1, overflowed := true, log := tooLongLine :: r.log }) := by
  unfold limit
  rw [if_neg (Nat.not_le.mpr long), whole]
  rfl

end ExpansionRun

namespace Expander

theorem expand_of_unmarked (e : Expander σ) {value : String}
    (unmarked : Text.occursIn ['$', '\x7b'] value.toList = false) (plugins : σ) :
    e.expand value plugins = ⟨value, [], plugins⟩ := by
  simp [expand, expandText, unmarked, ExpansionRun.start]

/-- Copying a text without placeholders. -/
theorem fill_of_no_placeholder (resolve : String → ExpansionRun σ → String × ExpansionRun σ) {value : String}
    (no_placeholder : ¬ HasPlaceholder value.toList) (r : ExpansionRun σ) :
    fill resolve (segments value.toList) "" r = r.limit value := by
  rw [segments_of_no_placeholder no_placeholder]
  unfold plainSegment
  split
  · next empty =>
    have nothing : value = "" := by simpa using empty
    rw [nothing, fill]
  · rw [List.reverse_reverse, fill, fill, String.empty_append, String.ofList_toList]

private theorem expandText_of_no_placeholder (resolve : String → ExpansionRun σ → String × ExpansionRun σ)
    {value : String} (no_placeholder : ¬ HasPlaceholder value.toList) (short : value.utf8ByteSize ≤ maxExpandedSize)
    (r : ExpansionRun σ) : expandText resolve value r = (value, r) := by
  unfold expandText
  dsimp only
  rw [fill_of_no_placeholder resolve no_placeholder, r.limit_of_le short, ite_self]

private theorem expand_of_long (e : Expander σ) {value : String} (no_placeholder : ¬ HasPlaceholder value.toList)
    (marked : Text.occursIn ['$', '\x7b'] value.toList = true) (long : maxExpandedSize < value.utf8ByteSize)
    (plugins : σ) :
    e.expand value plugins = ⟨truncated maxExpandedSize value, [ExpansionRun.tooLongLine], plugins⟩ := by
  unfold expand expandText
  dsimp only
  rw [if_pos marked, fill_of_no_placeholder _ no_placeholder, ExpansionRun.limit_of_lt long rfl]
  rfl

/-- A text without placeholders is at most cut. -/
theorem expand_eq_of_no_placeholder (e : Expander σ) {value : String} (no_placeholder : ¬ HasPlaceholder value.toList)
    (plugins : σ) :
    e.expand value plugins =
      if Text.occursIn ['$', '\x7b'] value.toList ∧ maxExpandedSize < value.utf8ByteSize then
        ⟨truncated maxExpandedSize value, [ExpansionRun.tooLongLine], plugins⟩
      else ⟨value, [], plugins⟩ := by
  split
  · next cut => exact e.expand_of_long no_placeholder cut.1 cut.2 plugins
  · next whole =>
    rcases Decidable.not_and_iff_or_not.mp whole with unmarked | short
    · exact e.expand_of_unmarked (Bool.eq_false_iff.mpr unmarked) plugins
    · unfold expand
      rw [expandText_of_no_placeholder _ no_placeholder (Nat.not_lt.mp short)]
      rfl

/-- A text without placeholders stays as it is if no opening mark occurs in it, however long it is, and if it is
not too long: then the copy is the same as what is given back at once.  A longer text with an opening mark is cut
at the length limit. -/
theorem expand_of_no_placeholder (e : Expander σ) {value : String}
    (no_placeholder : ¬ HasPlaceholder value.toList) (plugins : σ) :
    (Text.occursIn ['$', '\x7b'] value.toList = false ∨ value.utf8ByteSize ≤ maxExpandedSize →
      e.expand value plugins = ⟨value, [], plugins⟩) ∧
    (value.utf8ByteSize ≤ maxExpandedSize → ∀ resolve (r : ExpansionRun σ),
      fill resolve (segments value.toList) "" r = (value, r) ∧ expandText resolve value r = (value, r)) ∧
    (Text.occursIn ['$', '\x7b'] value.toList = true → maxExpandedSize < value.utf8ByteSize →
      ∃ cut, IsLongestBeginning maxExpandedSize value cut ∧
        e.expand value plugins = ⟨cut, [ExpansionRun.tooLongLine], plugins⟩) := by
  refine ⟨?_, ?_, ?_⟩
  · rintro (unmarked | short)
    · exact e.expand_of_unmarked unmarked plugins
    · unfold expand
      rw [expandText_of_no_placeholder _ no_placeholder short]
      rfl
  · intro short resolve r
    refine ⟨?_, expandText_of_no_placeholder resolve no_placeholder short r⟩
    rw [fill_of_no_placeholder resolve no_placeholder, r.limit_of_le short]
  · intro marked long
    exact ⟨_, isLongestBeginning_truncated _ _, e.expand_of_long no_placeholder marked long plugins⟩

/-- Openings that are empty, spaced or broken by a line end are no placeholders. -/
theorem openings_expand :
    let value := "$ \x7ba\x7d$\x7b\x7d$\x7bb\n\x7d$"
    ¬ HasPlaceholder value.toList ∧ Text.occursIn ['$', '\x7b'] value.toList = true ∧
      mutualReferences.expand value () = ⟨value, [], ()⟩ := by
  have no_placeholder : ¬ HasPlaceholder "$ \x7ba\x7d$\x7b\x7d$\x7bb\n\x7d$".toList := by
    intro has
    obtain ⟨inner, mem⟩ := hasPlaceholder_iff.mp has
    have parts : segments "$ \x7ba\x7d$\x7b\x7d$\x7bb\n\x7d$".toList =
        [.plain "$ \x7ba\x7d$\x7b\x7d$\x7bb\n\x7d$".toList] := by decide +kernel
    rw [parts] at mem
    exact nomatch List.mem_singleton.mp mem
  exact ⟨no_placeholder, by decide +kernel,
    (mutualReferences.expand_of_no_placeholder no_placeholder ()).1 (.inr (by decide +kernel))⟩

def leftOpen (size : Nat) : String := "$\x7b" ++ String.ofList (List.replicate size 'a')

private theorem toList_leftOpen (size : Nat) : (leftOpen size).toList = '$' :: '\x7b' :: List.replicate size 'a' := by
  simp [leftOpen]

private theorem no_placeholder_leftOpen (size : Nat) : ¬ HasPlaceholder (leftOpen size).toList := by
  rintro ⟨inner, -, -, inside⟩
  have closing : '\x7d' ∈ (leftOpen size).toList := inside.subset (by simp)
  simp [toList_leftOpen] at closing

private theorem marked_leftOpen (size : Nat) : Text.occursIn ['$', '\x7b'] (leftOpen size).toList = true := by
  rw [toList_leftOpen]
  simp [Text.occursIn, List.isPrefixOf]

private theorem expand_leftOpen_ne (e : Expander σ) {size : Nat} (long : maxExpandedSize < 2 + size) (plugins : σ) :
    (e.expand (leftOpen size) plugins).text ≠ leftOpen size := by
  have bytes : (leftOpen size).utf8ByteSize = 2 + size := by
    rw [leftOpen, String.utf8ByteSize_append, utf8ByteSize_replicate]
    exact congrArg (2 + ·) (Nat.mul_one size)
  rw [← bytes] at long
  rw [e.expand_of_long (no_placeholder_leftOpen size) (marked_leftOpen size) long]
  intro unchanged
  dsimp only at unchanged
  have fits := (isLongestBeginning_truncated maxExpandedSize (leftOpen size)).fits
  rw [unchanged] at fits
  exact absurd fits (Nat.not_le.mpr long)

/-- With one byte more than fits the text does not stay as it is. -/
theorem leftOpen_cut :
    ¬ HasPlaceholder (leftOpen 1048575).toList ∧
      (mutualReferences.expand (leftOpen 1048575) ()).text ≠ leftOpen 1048575 :=
  ⟨no_placeholder_leftOpen _, mutualReferences.expand_leftOpen_ne (by decide) ()⟩

end Expander
end LiveConfig
