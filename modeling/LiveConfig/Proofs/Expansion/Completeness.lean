import LiveConfig.Proofs.Expansion.Neighbours
import LiveConfig.Proofs.Expansion.PlainText

/-!
Expansion leaves no dollar sign over.

In closed texts every dollar sign belongs to a placeholder.  What stands for a placeholder is nothing, the result
of a substitutor, or the expansion of a closed text, fresh or kept, and a text that is cut is a beginning of
another one.  So no dollar sign comes into the result, and there is nothing to expand in it.
-/
namespace LiveConfig

variable {σ : Type}

def SubstitutorRegistry.AnswersClearly (r : SubstitutorRegistry σ) : Prop :=
  ∀ s ∈ r.entries, ∀ argument plugins, '$' ∉ (s.apply argument plugins).1.toList

namespace Text

private theorem occursIn_cons_eq_false {c : Char} {word cs : List Char} (absent : c ∉ cs) :
    occursIn (c :: word) cs = false := occursIn_eq_false List.mem_cons_self absent

end Text

namespace ExpansionRun

def IsClear (r : ExpansionRun σ) : Prop := ∀ key text, entryOf? key r.kept = some text → '$' ∉ text.toList

private theorem isClear_start (plugins : σ) : (start plugins).IsClear := fun _ _ found => nomatch found

variable {r : ExpansionRun σ} {text : String}

private theorem IsClear.keep (h : r.IsClear) {key : String} (clear : '$' ∉ text.toList) :
    IsClear { r with kept := (key, text) :: r.kept } := by
  intro other value found
  by_cases same : key = other
  · obtain rfl : text = value := by simpa [entryOf?, same] using found
    exact clear
  · rw [entryOf?, if_neg same] at found
    exact h other value found

/-- A cut takes nothing in. -/
private theorem IsClear.limit (h : r.IsClear) (clear : '$' ∉ text.toList) :
    '$' ∉ (r.limit text).1.toList ∧ (r.limit text).2.IsClear := by
  unfold ExpansionRun.limit
  split
  · exact ⟨clear, h⟩
  · exact ⟨fun mem => clear ((isLongestBeginning_truncated _ text).begins.subset mem), h⟩

end ExpansionRun

namespace Expander

open ExpansionRun (IsClear)

def ResolvesClearly (resolve : String → ExpansionRun σ → String × ExpansionRun σ) : Prop :=
  ∀ inner r, r.IsClear → '$' ∉ (resolve inner r).1.toList ∧ (resolve inner r).2.IsClear

variable {e : Expander σ} {resolve : String → ExpansionRun σ → String × ExpansionRun σ} {r : ExpansionRun σ}

private theorem fill_clear (clearly : ResolvesClearly resolve) {parts : List Segment}
    (closed : ∀ part ∈ parts, part.isClosed = true) {out : String} (before : '$' ∉ out.toList)
    (clear : r.IsClear) : '$' ∉ (fill resolve parts out r).1.toList ∧ (fill resolve parts out r).2.IsClear := by
  induction parts generalizing out r with
  | nil => exact clear.limit before
  | cons part rest ih =>
    have later := fun other mem => closed other (List.mem_cons_of_mem part mem)
    cases part with
    | plain cs =>
      have here : '$' ∉ cs := by simpa [Segment.isClosed] using closed _ List.mem_cons_self
      apply ih later _ clear
      simp [before, here]
    | placeholder inner =>
      obtain ⟨text_clear, after_clear⟩ := clearly (String.ofList inner) r clear
      have joined : '$' ∉ (out ++ (resolve (String.ofList inner) r).1).toList := by
        simp [before, text_clear]
      obtain ⟨cut_clear, run_clear⟩ := after_clear.limit joined
      simp only [fill]
      split
      · exact ⟨cut_clear, run_clear⟩
      · exact ih later cut_clear run_clear

private theorem clear_of_unmarked {value : String} (closed : Closed value)
    (unmarked : Text.occursIn ['$', '\x7b'] value.toList = false) : '$' ∉ value.toList := by
  intro mem
  have plain : segments value.toList = [.plain value.toList] := by
    unfold segments
    rw [Placeholder.scan_of_unmarked [] unmarked, Placeholder.plainSegment, if_neg]
    · simp
    · simpa using List.ne_nil_of_mem mem
  have here : Segment.isClosed (.plain value.toList) = true := closed _ (plain ▸ List.mem_singleton_self _)
  simp [Segment.isClosed, mem] at here

private theorem expandText_clear (clearly : ResolvesClearly resolve) {value : String} (closed : Closed value)
    (clear : r.IsClear) :
    '$' ∉ (expandText resolve value r).1.toList ∧ (expandText resolve value r).2.IsClear := by
  unfold expandText
  dsimp only
  split
  · exact fill_clear clearly closed (by simp) clear
  · next unmarked => exact ⟨clear_of_unmarked closed (Bool.eq_false_iff.mpr unmarked), clear⟩

private theorem closed_of_lookup? (closed : ∀ layer ∈ e.layers, ∀ entry ∈ layer.entries, Closed entry.2)
    {key raw : String} (found : e.lookup? key = some raw) : Closed raw := by
  obtain ⟨layer, mem, value⟩ := List.exists_of_findSome?_eq_some found
  exact closed layer mem (key, raw) (mem_of_entryOf? value)

private theorem clear_empty : '$' ∉ ("" : String).toList := by simp

/-- One step of the expansion, if the values below it are expanded clearly. -/
theorem resolve_clear_of_below (answers : e.substitutors.AnswersClearly) {deeper : Nat} {path : List String}
    (below : ∀ d key raw, deeper = d + 1 → e.lookup? key = some raw → ∀ r : ExpansionRun σ, r.IsClear →
      '$' ∉ (expandText (e.resolve d (key :: path)) raw r).1.toList ∧
        (expandText (e.resolve d (key :: path)) raw r).2.IsClear) :
    ResolvesClearly (e.resolve deeper path) := by
  intro inner r clear
  unfold resolve
  split
  · exact ⟨clear_empty, clear⟩
  · split
    · next s argument call => exact ⟨answers s (mem_entries_of_call? call) argument r.plugins, clear⟩
    · split
      · next text kept => exact ⟨clear inner text kept, clear⟩
      · split
        · exact ⟨clear_empty, clear⟩
        · cases deeper with
          | zero => exact ⟨clear_empty, clear⟩
          | succ d =>
            cases found : e.lookup? inner with
            | none => exact ⟨clear_empty, clear⟩
            | some raw =>
              obtain ⟨text_clear, after_clear⟩ := below d inner raw rfl found r clear
              dsimp only
              split
              · exact ⟨text_clear, after_clear.keep text_clear⟩
              · exact ⟨text_clear, after_clear⟩

private theorem resolve_clear (closed : ∀ layer ∈ e.layers, ∀ entry ∈ layer.entries, Closed entry.2)
    (answers : e.substitutors.AnswersClearly) (deeper : Nat) (path : List String) :
    ResolvesClearly (e.resolve deeper path) := by
  induction deeper generalizing path with
  | zero =>
    apply resolve_clear_of_below answers
    intro d key raw eq
    exact nomatch eq
  | succ deeper ih =>
    apply resolve_clear_of_below answers
    intro d key raw eq found r clear
    obtain rfl : deeper = d := Nat.succ.inj eq
    exact expandText_clear (ih (key :: path)) (closed_of_lookup? closed found) clear

/-- No dollar sign is left over in the expansion of a closed text by closed values and clear answers, whatever was
cut on the way, and expanding the result once more changes nothing and asks for nothing. -/
theorem expand_leaves_nothing {value : String} (closed : Closed value)
    (closed_values : ∀ layer ∈ e.layers, ∀ entry ∈ layer.entries, Closed entry.2)
    (answers : e.substitutors.AnswersClearly) (plugins : σ) :
    '$' ∉ (e.expand value plugins).text.toList ∧
      ∀ (other : Expander σ) (later : σ), other.expand (e.expand value plugins).text later =
        ⟨(e.expand value plugins).text, [], later⟩ := by
  have clearly := resolve_clear closed_values answers maxExpansionDepth []
  have clear : '$' ∉ (e.expand value plugins).text.toList :=
    (expandText_clear clearly closed (ExpansionRun.isClear_start plugins)).1
  refine ⟨clear, ?_⟩
  intro other later
  exact other.expand_of_unmarked (Text.occursIn_cons_eq_false clear) later

/-- Two keys around a cycle, one that is missing, and a call whose argument has a dollar sign. -/
theorem mutualReferences_leave_nothing :
    let e : Expander Unit := ⟨mutualReferences.layers, (answering "hidden").substitutors⟩
    let value := "$\x7ba\x7d$\x7bnone\x7d$\x7btell:$\x7bb\x7d$\x7bc\x7d"
    Closed value ∧ (∀ layer ∈ e.layers, ∀ entry ∈ layer.entries, Closed entry.2) ∧
      e.substitutors.AnswersClearly ∧ (e.expand value ()).text = "<>hidden<><>" ∧
      e.expand "<>hidden<><>" () = ⟨"<>hidden<><>", [], ()⟩ := by
  intro e value
  have answers : e.substitutors.AnswersClearly := by
    intro s mem argument _
    rw [List.mem_singleton.mp mem]
    simp [teller]
  have closed : Closed value := by decide +kernel
  have closed_values : ∀ layer ∈ e.layers, ∀ entry ∈ layer.entries, Closed entry.2 := by decide +kernel
  have text : (e.expand value ()).text = "<>hidden<><>" := by decide +kernel
  refine ⟨closed, closed_values, answers, text, ?_⟩
  have again := (expand_leaves_nothing closed closed_values answers ()).2 e ()
  rw [text] at again
  exact again

end Expander
end LiveConfig
