import LiveConfig.Proofs.Expansion.PlainText
import LiveConfig.Proofs.Substitutor.Registration

/-!
What a placeholder with a colon means.

The text before the first colon is looked for among the registered names.  If it is one, its substitutor is
called, and the answer is not looked at again.  If it is none, the whole inner text is a key like any other.
-/
namespace LiveConfig

open Placeholder

variable {σ : Type}

def Placeholder.written (inner : String) : String := "$\x7b" ++ inner ++ "\x7d"

namespace Expanded

def ofRun (result : String × ExpansionRun σ) : Expanded σ := ⟨result.1, result.2.log.reverse, result.2.plugins⟩

def limited (x : Expanded σ) : Expanded σ :=
  if x.text.utf8ByteSize ≤ maxExpandedSize then x
  else ⟨truncated maxExpandedSize x.text, x.log ++ [ExpansionRun.tooLongLine], x.plugins⟩

end Expanded

namespace ExpansionRun

private theorem size_limit_le (r : ExpansionRun σ) (text : String) :
    (r.limit text).1.utf8ByteSize ≤ maxExpandedSize := by
  unfold limit
  split
  · next short => exact short
  · exact (isLongestBeginning_truncated _ text).fits

/-- A text that is held to the limit twice. -/
private theorem limit_limit (r : ExpansionRun σ) (text : String) :
    (r.limit text).2.limit (r.limit text).1 = r.limit text :=
  (r.limit text).2.limit_of_le (r.size_limit_le text)

private theorem ofRun_limit {result : String × ExpansionRun σ}
    (short : result.2.overflowed = true → result.1.utf8ByteSize ≤ maxExpandedSize) :
    Expanded.ofRun (result.2.limit result.1) = (Expanded.ofRun result).limited := by
  by_cases fits : result.1.utf8ByteSize ≤ maxExpandedSize
  · rw [result.2.limit_of_le fits]
    exact (if_pos fits).symm
  · have whole : result.2.overflowed = false := Bool.eq_false_iff.mpr fun beyond => fits (short beyond)
    have cut : (Expanded.ofRun result).limited =
        ⟨truncated maxExpandedSize result.1, result.2.log.reverse ++ [tooLongLine], result.2.plugins⟩ :=
      if_neg fits
    rw [limit_of_lt (Nat.not_le.mp fits) whole, cut]
    simp [Expanded.ofRun]

end ExpansionRun

namespace Expander

def expandWithin (e : Expander σ) (path : List String) (value : String) (plugins : σ) : Expanded σ :=
  .ofRun (expandText (e.resolve (maxExpansionDepth - path.length) path) value (.start plugins))

private theorem expand_eq_expandWithin (e : Expander σ) (value : String) (plugins : σ) :
    e.expand value plugins = e.expandWithin [] value plugins := rfl

variable {e : Expander σ} {resolve : String → ExpansionRun σ → String × ExpansionRun σ} {plugins : σ}

private theorem size_fill_le (parts : List Segment) (out : String) (r : ExpansionRun σ) :
    (fill resolve parts out r).1.utf8ByteSize ≤ maxExpandedSize := by
  induction parts generalizing out r with
  | nil => exact r.size_limit_le out
  | cons part rest ih =>
    cases part with
    | plain cs => exact ih _ r
    | placeholder inner =>
      simp only [fill]
      split
      · exact ExpansionRun.size_limit_le _ _
      · exact ih _ _

/-- Only a text without an opening mark may be too long, and nothing was cut for it. -/
theorem size_expandText_le (resolve : String → ExpansionRun σ → String × ExpansionRun σ) (value : String)
    (plugins : σ) (beyond : (expandText resolve value (.start plugins)).2.overflowed = true) :
    (expandText resolve value (.start plugins)).1.utf8ByteSize ≤ maxExpandedSize := by
  unfold expandText at beyond ⊢
  dsimp only at beyond ⊢
  split at beyond
  · next marked =>
    rw [if_pos marked]
    exact size_fill_le _ _ _
  · exact nomatch beyond

private theorem expand_written {inner : String} (h : IsInner inner.toList) :
    e.expand (written inner) plugins =
      let result := e.resolve maxExpansionDepth [] inner (.start plugins)
      .ofRun (result.2.limit result.1) := by
  have chars : (written inner).toList = '$' :: '\x7b' :: (inner.toList ++ '\x7d' :: []) := by
    simp [written]
  have marked : Text.occursIn ['$', '\x7b'] (written inner).toList = true := by
    rw [chars]
    simp [Text.occursIn, List.isPrefixOf]
  have parts : segments (written inner).toList = [.placeholder inner.toList] := by
    rw [chars, segments_placeholder h []]
    rfl
  rw [expand_eq_expandWithin]
  unfold expandWithin expandText
  dsimp only
  rw [if_pos marked, parts]
  simp only [fill, String.ofList_toList, String.empty_append, ExpansionRun.limit_limit, ite_self]
  rfl

private theorem isInner_named {name argument : String} (name_inside : '\x7d' ∉ name.toList ∧ '\n' ∉ name.toList)
    (argument_inside : '\x7d' ∉ argument.toList ∧ '\n' ∉ argument.toList) :
    IsInner (name ++ ":" ++ argument).toList := by
  have chars : (name ++ ":" ++ argument).toList = name.toList ++ ':' :: argument.toList := by simp
  rw [chars]
  refine ⟨by simp, by simp [name_inside, argument_inside], fun mem => ?_⟩
  have inside := List.mem_of_mem_tail mem
  simp [name_inside, argument_inside] at inside

private theorem call?_named {name : String} (no_colon : ':' ∉ name.toList) (argument : String) :
    e.call? (name ++ ":" ++ argument) = (e.substitutors.get? name).map fun s => (s, argument) := by
  have chars : (name ++ ":" ++ argument).toList = name.toList ++ ':' :: argument.toList := by simp
  have cut : Text.cutAt (· = ':') (name.toList ++ ':' :: argument.toList) =
      some (name.toList, argument.toList) := by
    apply Text.cutAt_append _ (by simp)
    intro c mem
    simpa using fun same : c = ':' => no_colon (same ▸ mem)
  unfold call?
  rw [chars, cut]
  simp

private theorem expand_written_of_call? {inner argument : String} {s : Substitutor σ} (h : IsInner inner.toList)
    (call : e.call? inner = some (s, argument)) :
    e.expand (written inner) plugins =
      Expanded.limited ⟨(s.apply argument plugins).1, [callLine s argument], (s.apply argument plugins).2⟩ := by
  have called : e.resolve maxExpansionDepth [] inner (.start plugins) =
      ((s.apply argument plugins).1,
        { (ExpansionRun.start plugins).note (callLine s argument) with
          plugins := (s.apply argument plugins).2 }) := by
    unfold resolve
    simp [call, ExpansionRun.start]
  rw [expand_written h, called]
  exact ExpansionRun.ofRun_limit fun beyond => absurd beyond Bool.false_ne_true

private theorem expand_written_of_lookup?_none {inner : String} (h : IsInner inner.toList) (call : e.call? inner = none)
    (missing : e.lookup? inner = none) :
    e.expand (written inner) plugins = ⟨"", [unresolvedLine inner], plugins⟩ := by
  have empty : e.resolve maxExpansionDepth [] inner (.start plugins) =
      ("", (ExpansionRun.start plugins).note (unresolvedLine inner)) := by
    unfold resolve
    simp [call, missing, ExpansionRun.start, entryOf?, maxExpansionDepth]
  rw [expand_written h, empty]
  dsimp only
  rw [ExpansionRun.limit_of_le _ (by decide)]
  rfl

private theorem resolve_of_lookup? {inner raw : String} (call : e.call? inner = none)
    (found : e.lookup? inner = some raw) (plugins : σ) :
    let result := e.resolve maxExpansionDepth [] inner (.start plugins)
    .ofRun result = e.expandWithin [inner] raw plugins ∧
      (result.2.overflowed = true → result.1.utf8ByteSize ≤ maxExpandedSize) := by
  have size := size_expandText_le (e.resolve (maxExpansionDepth - 1) [inner]) raw plugins
  have opened : e.resolve maxExpansionDepth [] inner (.start plugins) =
      let within := expandText (e.resolve (maxExpansionDepth - 1) [inner]) raw (.start plugins)
      (within.1, if within.2.cuts = 0 then { within.2 with kept := (inner, within.1) :: within.2.kept }
        else within.2) := by
    unfold resolve maxExpansionDepth
    simp only [ExpansionRun.start, Bool.false_eq_true, if_false, call, entryOf?, List.contains_nil, found,
      Nat.add_one_sub_one]
    rfl
  rw [opened]
  dsimp only
  -- whether the value is kept for later changes neither what is written nor what was met
  split
  · exact ⟨rfl, size⟩
  · exact ⟨rfl, size⟩

private theorem expand_written_of_lookup? {inner raw : String} (h : IsInner inner.toList) (call : e.call? inner = none)
    (found : e.lookup? inner = some raw) :
    e.expand (written inner) plugins = (e.expandWithin [inner] raw plugins).limited := by
  obtain ⟨expanded, size⟩ := resolve_of_lookup? call found plugins
  rw [expand_written h, ← expanded]
  exact ExpansionRun.ofRun_limit size

private theorem lookup?_eq_none_iff {key : String} :
    e.lookup? key = none ↔ ∀ layer ∈ e.layers, layer.get? key = none := by
  simp [lookup?]

/-- The value of the first layer that has the key. -/
private theorem lookup?_of_first {before after : List PropertyMap} {layer : PropertyMap} {key raw : String}
    (split : e.layers = before ++ layer :: after) (missing : ∀ other ∈ before, other.get? key = none)
    (found : layer.get? key = some raw) : e.lookup? key = some raw := by
  have skipped : before.findSome? (fun other => other.get? key) = none := List.findSome?_eq_none_iff.mpr missing
  simp [lookup?, split, List.findSome?_append, skipped, found]

/-- Every registered substitutor is reached through its name: it is called once, with everything behind the first
colon, and its answer is the text, whatever stands in it and whatever the layers say.  With any other name the
whole inner text is the key: it stands for nothing if no layer has it, and else for the value of the first layer
that has it, expanded while the key counts as being expanded. -/
theorem expand_dispatches {entries : List (Substitutor σ)} {registry : SubstitutorRegistry σ}
    (accepted : SubstitutorRegistry.ofList entries = .ok registry) (layers : List PropertyMap) {argument : String}
    (inside : '\x7d' ∉ argument.toList ∧ '\n' ∉ argument.toList) (plugins : σ) :
    let e : Expander σ := ⟨layers, registry⟩
    (∀ s ∈ entries, e.expand (written (s.name ++ ":" ++ argument)) plugins =
      Expanded.limited ⟨(s.apply argument plugins).1, [callLine s argument], (s.apply argument plugins).2⟩) ∧
    ∀ name : String, ':' ∉ name.toList → '\x7d' ∉ name.toList → '\n' ∉ name.toList →
      (∀ s ∈ entries, s.name ≠ name) →
      let key := name ++ ":" ++ argument
      ((∀ layer ∈ layers, layer.get? key = none) →
        e.expand (written key) plugins = ⟨"", [unresolvedLine key], plugins⟩) ∧
      ∀ before layer after raw, layers = before ++ layer :: after →
        (∀ other ∈ before, other.get? key = none) → layer.get? key = some raw →
        e.expand (written key) plugins = (e.expandWithin [key] raw plugins).limited := by
  intro e
  obtain ⟨valid, distinct, rfl⟩ := SubstitutorRegistry.ofList_eq_ok_iff.mp accepted
  constructor
  · intro s mem
    obtain ⟨no_colon, name_inside⟩ := SubstitutorRegistry.inside_of_isValidName (valid s mem)
    have call : e.call? (s.name ++ ":" ++ argument) = some (s, argument) := by
      rw [call?_named no_colon, SubstitutorRegistry.get?_of_mem distinct mem]
      rfl
    exact expand_written_of_call? (isInner_named name_inside inside) call
  · intro name no_colon no_brace no_end unregistered key
    have inner : IsInner key.toList := isInner_named ⟨no_brace, no_end⟩ inside
    have call : e.call? key = none := by
      rw [call?_named no_colon, SubstitutorRegistry.get?_eq_none_iff.mpr unregistered]
      rfl
    constructor
    · intro missing
      exact expand_written_of_lookup?_none inner call (lookup?_eq_none_iff.mpr missing)
    · intro before layer after raw split missing found
      exact expand_written_of_lookup? inner call (lookup?_of_first split missing found)

def wrapper : Substitutor Nat := ⟨"wrap", fun argument calls => (written argument, calls + 1)⟩

/-- The argument has a colon and an opening mark.  The layer has the text of the call as a key, and a key of the
same form whose value refers to it. -/
theorem wrapper_dispatches :
    let layer : PropertyMap := .ofList [
      ("wrap:a:$\x7bb", "shadowed"), ("a:$\x7bb", "again"), ("other:a:$\x7bb", "<$\x7bother:a:$\x7bb\x7d>")]
    let e : Expander Nat := ⟨[layer], ⟨[wrapper]⟩⟩
    SubstitutorRegistry.ofList [wrapper] = .ok e.substitutors ∧
      e.expand "$\x7bwrap:a:$\x7bb\x7d" 3 = ⟨"$\x7ba:$\x7bb\x7d", [callLine wrapper "a:$\x7bb"], 4⟩ ∧
      let other := e.expand "$\x7bother:a:$\x7bb\x7d" 3
      other.text = "<>" ∧ other.log = [cyclicLine "other:a:$\x7bb" ["other:a:$\x7bb"]] ∧ other.plugins = 3 := by
  intro layer e
  have accepted : SubstitutorRegistry.ofList [wrapper] = .ok e.substitutors := rfl
  have inside : '\x7d' ∉ "a:$\x7bb".toList ∧ '\n' ∉ "a:$\x7bb".toList := by decide +kernel
  obtain ⟨registered, unregistered⟩ := expand_dispatches accepted [layer] inside 3
  refine ⟨accepted, ?_, ?_⟩
  · have called := registered wrapper (List.mem_singleton_self _)
    have text : written (wrapper.name ++ ":" ++ "a:$\x7bb") = "$\x7bwrap:a:$\x7bb\x7d" := by decide +kernel
    rw [text] at called
    rw [called]
    have short : (written "a:$\x7bb").utf8ByteSize ≤ maxExpandedSize := by decide +kernel
    exact if_pos short
  · have other : ∀ s ∈ [wrapper], s.name ≠ "other" := by decide +kernel
    have found : layer.get? "other:a:$\x7bb" = some "<$\x7bother:a:$\x7bb\x7d>" := by decide +kernel
    have expanded :=
      (unregistered "other" (by decide) (by decide) (by decide) other).2 [] layer [] _ rfl nofun found
    have text : written ("other" ++ ":" ++ "a:$\x7bb") = "$\x7bother:a:$\x7bb\x7d" := by decide +kernel
    rw [text] at expanded
    dsimp only
    rw [expanded]
    decide +kernel

end Expander
end LiveConfig
