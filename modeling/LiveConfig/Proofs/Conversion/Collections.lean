import LiveConfig.Proofs.Conversion.Determinism
import LiveConfig.Proofs.Conversion.Order
import LiveConfig.Stock.Plugins
import Mathlib.Data.List.Forall2

/-!
Collections and arrays of one type agree.

They read a text in the same way, token by token up to the first that cannot be converted.  So either all of
them hold what the tokens give, each in its own order and without what it takes for repetitions, or all of
them fail, and blame the same token.
-/
namespace LiveConfig

variable {σ α β : Type}

namespace Target

def isMany : Target → Bool
  | .collection _ _ | .array _ _ => true
  | .scalar _ | .option _ | .edited _ | .parsed _ => false

inductive IsSequenceOf (t : Target) : Target → Prop where
  | collection (c : Collection) : IsSequenceOf t (.collection c t)
  | array (n : Nat) : IsSequenceOf t (.array n t)

end Target

def ConversionContext.ConvertsOne (cx : ConversionContext σ) : Prop :=
  ∀ plugin, cx.converter = some plugin →
    ∀ s, ∃ k s', plugin.make s = (.ok k, s') ∧ k.output.isMany = false

namespace ConversionContext

private theorem steady_plain (key : String) : (plain key : ConversionContext σ).Steady :=
  ⟨fun _ declared => (nomatch declared), fun _ declared => (nomatch declared), fun _ _ _ enabled => (nomatch enabled)⟩

private theorem convertsOne_plain (key : String) : (plain key : ConversionContext σ).ConvertsOne :=
  fun _ declared => nomatch declared

open Stock (Journal Tokenization ConverterKind)

def stocked (tokenization : Tokenization) (kind : ConverterKind) : ConversionContext Journal :=
  { plain "k" with
    tokenizer := some (tokenization.plugin .factory)
    converter := some (kind.plugin .factory) }

private theorem steady_stocked (tokenization : Tokenization) (kind : ConverterKind) :
    (stocked tokenization kind).Steady := by
  refine ⟨fun plugin declared => ?_, fun plugin declared => ?_, fun editors t edit enabled => nomatch enabled⟩
  · obtain rfl := Option.some.inj declared
    exact fun s s' => .ok fun text j j' => rfl
  · obtain rfl := Option.some.inj declared
    exact fun s s' => .ok ⟨rfl, fun text j j' => rfl⟩

private theorem convertsOne_stocked (tokenization : Tokenization) {kind : ConverterKind}
    (single : kind.output.isMany = false) :
    (stocked tokenization kind).ConvertsOne := by
  intro plugin declared s
  obtain rfl := Option.some.inj declared
  exact ⟨_, _, rfl, single⟩

end ConversionContext

namespace Conversion

private theorem answer_retold (m : Conversion σ α) (words : Failure → Failure) (s : σ) :
    (tryCatch m fun e => throw (words e)).answer s = (m.answer s).mapError words := by
  unfold answer
  rw [run_retold]

/-- What follows a result goes on in some state. -/
private theorem answer_bind_of_ok {m : Conversion σ α} {a : α} {s : σ} (ok : m.answer s = .ok a)
    (f : α → Conversion σ β) :
    ∃ s', (m >>= f).answer s = (f a).answer s' := by
  refine ⟨(m.run s).2, ?_⟩
  have ran : m.run s = (.ok a, (m.run s).2) := Prod.ext ok rfl
  unfold answer
  rw [run_bind, ran]

private theorem answer_bind_of_error {m : Conversion σ α} {e : Failure} {s : σ} (error : m.answer s = .error e)
    (f : α → Conversion σ β) : (m >>= f).answer s = .error e := by
  have ran : m.run s = (.error e, (m.run s).2) := Prod.ext error rfl
  unfold answer
  rw [run_bind, ran]

end Conversion

namespace ConversionContext

open Conversion (answer_retold answer_bind_of_ok answer_bind_of_error)

variable {cx : ConversionContext σ} {read : String → Conversion σ Value}

private theorem convertTokens_cons (name : String) {token : String} {v : Value}
    (ok : ∀ s, (read token).answer s = .ok v) (rest : List String) (s : σ) :
    ∃ s', (cx.convertTokens name read (token :: rest)).answer s =
      (cx.convertTokens name read rest >>= fun vs => pure (v :: vs)).answer s' := by
  have told : (tryCatch (read token) fun e => throw (cx.inToken name token e)).answer s = .ok v := by
    rw [answer_retold, ok s]
    rfl
  exact answer_bind_of_ok told fun v => cx.convertTokens name read rest >>= fun vs => pure (v :: vs)

private theorem convertTokens_ok (name : String) {tokens : List String} {values : List Value}
    (each : List.Forall₂ (fun token v => ∀ s, (read token).answer s = .ok v) tokens values) (s : σ) :
    (cx.convertTokens name read tokens).answer s = .ok values := by
  induction each generalizing s with
  | nil => rfl
  | cons first _ ih =>
    obtain ⟨s₁, eq⟩ := convertTokens_cons name first _ s
    refine eq.trans ?_
    obtain ⟨s₂, eq⟩ := answer_bind_of_ok (ih s₁) _
    exact eq

private theorem convertTokens_error (name : String) {before after : List String} {token : String} {e : Failure}
    (earlier : ∀ x ∈ before, ∃ v, ∀ s, (read x).answer s = .ok v) (fails : ∀ s, (read token).answer s = .error e)
    (s : σ) :
    (cx.convertTokens name read (before ++ token :: after)).answer s = .error (cx.inToken name token e) := by
  induction before generalizing s with
  | nil =>
    refine answer_bind_of_error ?_ _
    rw [answer_retold, fails s]
    rfl
  | cons first rest ih =>
    obtain ⟨v, ok⟩ := earlier first List.mem_cons_self
    obtain ⟨s₁, eq⟩ := convertTokens_cons name ok (rest ++ token :: after) s
    refine eq.trans ?_
    exact answer_bind_of_error (ih (fun x mem => earlier x (List.mem_cons_of_mem _ mem)) s₁) _

/-- Nobody converts a whole text to a sequence. -/
private theorem ConvertsOne.convertWhole? (one : cx.ConvertsOne) {u : Target} (many : u.isMany = true) (raw : String)
    (s : σ) : (cx.convertWhole? u raw).answer s = .ok none := by
  unfold ConversionContext.convertWhole?
  cases declared : cx.converter with
  | none => rfl
  | some plugin =>
    obtain ⟨k, s', made, single⟩ := one plugin declared s
    have other : k.output ≠ u := by
      rintro rfl
      rw [many] at single
      exact nomatch single
    unfold Conversion.answer
    dsimp only
    rw [Conversion.run_bind, run_attempt, made]
    dsimp only [told]
    rw [if_pos other]
    rfl

section

variable (one : cx.ConvertsOne) {whole : Target} (many : whole.isMany = true) (c : Collection) (name : String)
  {raw : String}

include one many

private theorem collect_ok {tokens : List String} {values : List Value}
    (cut : ∀ s, (cx.tokens raw).answer s = .ok tokens)
    (each : List.Forall₂ (fun token v => ∀ s, (read token).answer s = .ok v) tokens values) (s : σ) :
    (cx.collect whole c name read raw).answer s = .ok (.items (c.arrange whole.element.compare values)) := by
  unfold collect
  obtain ⟨s₁, eq⟩ := answer_bind_of_ok (one.convertWhole? many raw s) _
  refine eq.trans ?_
  obtain ⟨s₂, eq⟩ := answer_bind_of_ok (cut s₁) _
  refine eq.trans ?_
  obtain ⟨s₃, eq⟩ := answer_bind_of_ok (convertTokens_ok name each s₂) _
  exact eq

private theorem collect_error {before after : List String} {token : String} {e : Failure}
    (cut : ∀ s, (cx.tokens raw).answer s = .ok (before ++ token :: after))
    (earlier : ∀ x ∈ before, ∃ v, ∀ s, (read x).answer s = .ok v) (fails : ∀ s, (read token).answer s = .error e)
    (s : σ) : (cx.collect whole c name read raw).answer s = .error (cx.inToken name token e) := by
  unfold collect
  obtain ⟨s₁, eq⟩ := answer_bind_of_ok (one.convertWhole? many raw s) _
  refine eq.trans ?_
  obtain ⟨s₂, eq⟩ := answer_bind_of_ok (cut s₁) _
  refine eq.trans ?_
  exact answer_bind_of_error (convertTokens_error name earlier fails s₂) _

private theorem collect_uncut {e : Failure} (uncut : ∀ s, (cx.tokens raw).answer s = .error e) (s : σ) :
    (cx.collect whole c name read raw).answer s = .error e := by
  unfold collect
  obtain ⟨s₁, eq⟩ := answer_bind_of_ok (one.convertWhole? many raw s) _
  refine eq.trans ?_
  exact answer_bind_of_error (uncut s₁) _

end
end ConversionContext

namespace Target

variable {rules : Rules} {cx : ConversionContext σ} {t u : Target} {raw : String}

private theorem convert_array_of_ok (one : cx.ConvertsOne) (n : Nat) {values : List Value}
    (collected : ∀ s, (cx.collect (.collection .vector t) .vector (array n t).name (t.convert rules cx) raw).answer s =
      .ok (.items values)) (s : σ) :
    ((array n t).convert rules cx raw).answer s = if values.length = n then .ok (.items values)
      else .error (.error (.unsupportedConversion cx.key (array n t).name (.wrongLength n values.length))) := by
  unfold convert
  obtain ⟨s₁, eq⟩ := Conversion.answer_bind_of_ok (one.convertWhole? (u := array n t) rfl raw s) _
  refine eq.trans ?_
  obtain ⟨s₂, eq⟩ := Conversion.answer_bind_of_ok (collected s₁) _
  refine eq.trans ?_
  by_cases fits : values.length = n
  · have counted : (Value.items values).count = n := fits
    rw [if_pos fits, if_pos counted]
    rfl
  · have counted : (Value.items values).count ≠ n := fits
    rw [if_neg fits, if_neg counted]
    rfl

private theorem IsSequenceOf.convert_error (one : cx.ConvertsOne) (sequence : IsSequenceOf t u) {e : Failure}
    (collected : ∀ whole c, whole.isMany = true → ∀ s,
      (cx.collect whole c u.name (t.convert rules cx) raw).answer s = .error e) (s : σ) :
    (u.convert rules cx raw).answer s = .error e := by
  cases sequence with
  | collection c => exact collected _ c rfl s
  | array n =>
    unfold convert
    obtain ⟨s₁, eq⟩ := Conversion.answer_bind_of_ok (one.convertWhole? (u := .array n t) rfl raw s) _
    refine eq.trans ?_
    exact Conversion.answer_bind_of_error (collected _ .vector rfl s₁) _

/-- All tokens convert, or there is a first one that does not. -/
theorem values_or_first_failure (element : String → Except Failure Value) (tokens : List String) :
    (∃ values, List.Forall₂ (fun token v => element token = .ok v) tokens values ∧
      ∀ token ∈ tokens, ∃ v, element token = .ok v) ∨
    ∃ before token after e, tokens = before ++ token :: after ∧ (∀ x ∈ before, ∃ v, element x = .ok v) ∧
      element token = .error e := by
  induction tokens with
  | nil => exact .inl ⟨[], .nil, fun _ mem => (List.not_mem_nil mem).elim⟩
  | cons first rest ih =>
    cases converted : element first with
    | error e => exact .inr ⟨[], first, rest, e, rfl, fun _ mem => (List.not_mem_nil mem).elim, converted⟩
    | ok v =>
      have first_ok : ∃ v, element first = .ok v := ⟨v, converted⟩
      rcases ih with ⟨values, each, all⟩ | ⟨before, token, after, e, rfl, earlier, fails⟩
      · exact .inl ⟨v :: values, .cons converted each, List.forall_mem_cons.mpr ⟨first_ok, all⟩⟩
      · exact .inr ⟨first :: before, token, after, e, rfl, List.forall_mem_cons.mpr ⟨first_ok, earlier⟩, fails⟩

section

variable (steady : cx.Steady) (one : cx.ConvertsOne) {s : σ}

include steady one

private theorem convert_of_values {tokens : List String} {values : List Value}
    (cut : (cx.tokens raw).answer s = .ok tokens)
    (each : List.Forall₂ (fun token v => (t.convert rules cx token).answer s = .ok v) tokens values) :
    (∀ c, ((collection c t).convert rules cx raw).answer s = .ok (.items (c.arrange t.compare values))) ∧
      ∀ n, ((array n t).convert rules cx raw).answer s = if values.length = n then .ok (.items values)
        else .error (.error (.unsupportedConversion cx.key (array n t).name (.wrongLength n values.length))) := by
  have cut' : ∀ s', (cx.tokens raw).answer s' = .ok tokens := (steady.tokens raw).everywhere cut
  have each' : List.Forall₂ (fun token v => ∀ s', (t.convert rules cx token).answer s' = .ok v) tokens values :=
    each.imp fun token v ok => (convert_alike rules steady t token).everywhere ok
  constructor
  · intro c
    unfold convert
    exact ConversionContext.collect_ok one rfl c _ cut' each' s
  · intro n
    have many : (collection .vector t).isMany = true := rfl
    exact convert_array_of_ok one n (ConversionContext.collect_ok one many .vector _ cut' each') s

private theorem convert_of_first_failure (sequence : IsSequenceOf t u) {before after : List String} {token : String}
    {e : Failure} (cut : (cx.tokens raw).answer s = .ok (before ++ token :: after))
    (earlier : ∀ x ∈ before, ∃ v, (t.convert rules cx x).answer s = .ok v)
    (fails : (t.convert rules cx token).answer s = .error e) :
    (u.convert rules cx raw).answer s = .error (cx.inToken u.name token e) := by
  have cut' : ∀ s', (cx.tokens raw).answer s' = .ok (before ++ token :: after) :=
    (steady.tokens raw).everywhere cut
  have earlier' : ∀ x ∈ before, ∃ v, ∀ s', (t.convert rules cx x).answer s' = .ok v := by
    intro x mem
    obtain ⟨v, ok⟩ := earlier x mem
    exact ⟨v, (convert_alike rules steady t x).everywhere ok⟩
  have fails' : ∀ s', (t.convert rules cx token).answer s' = .error e :=
    (convert_alike rules steady t token).everywhere fails
  exact sequence.convert_error one
    (fun whole c many => ConversionContext.collect_error one many c u.name cut' earlier' fails') s

private theorem convert_of_uncut (sequence : IsSequenceOf t u) {e : Failure}
    (uncut : (cx.tokens raw).answer s = .error e) :
    (u.convert rules cx raw).answer s = .error e := by
  have uncut' : ∀ s', (cx.tokens raw).answer s' = .error e := (steady.tokens raw).everywhere uncut
  exact sequence.convert_error one
    (fun whole c many => ConversionContext.collect_uncut one many c u.name uncut') s

end

/-- Where no plugin lets its state decide, and no converter gives a sequence, all collections and arrays of a
type agree on every text.  A collection is read exactly if the text is cut into tokens and each of these
converts.  Then sequences hold the values in order, sets hold what differs, in the order of the first
occurrences, in any order, or ascending; and an array holds the values if they are as many as it has, which
else is the error.  If a token cannot be converted, the first of these is blamed for the same error in all of
them, with its own error as the cause; but if it breaks off, so do they. -/
theorem collections_agree (rules : Rules) {cx : ConversionContext σ} (steady : cx.Steady) (one : cx.ConvertsOne)
    (t : Target) (raw : String) (s : σ) :
    (∀ c, (∃ v, ((collection c t).convert rules cx raw).answer s = .ok v) ↔
      ∃ tokens, (cx.tokens raw).answer s = .ok tokens ∧
        ∀ token ∈ tokens, ∃ v, (t.convert rules cx token).answer s = .ok v) ∧
    (∀ tokens values, (cx.tokens raw).answer s = .ok tokens →
      List.Forall₂ (fun token v => (t.convert rules cx token).answer s = .ok v) tokens values →
      (∀ c, ∃ content, ((collection c t).convert rules cx raw).answer s = .ok (.items content) ∧
        c.Holds t.compare values content) ∧
      ∀ n, ((array n t).convert rules cx raw).answer s = if values.length = n then .ok (.items values)
        else .error (.error (.unsupportedConversion cx.key (array n t).name (.wrongLength n values.length)))) ∧
    ∀ u, IsSequenceOf t u →
      (∀ before token after, (cx.tokens raw).answer s = .ok (before ++ token :: after) →
        (∀ x ∈ before, ∃ v, (t.convert rules cx x).answer s = .ok v) →
        (∀ cause, (t.convert rules cx token).answer s = .error (.error cause) →
          (u.convert rules cx raw).answer s =
            .error (.error (.unsupportedConversion cx.key u.name (.token token cause)))) ∧
        ∀ p, (t.convert rules cx token).answer s = .error (.panic p) →
          (u.convert rules cx raw).answer s = .error (.panic p)) ∧
      ∀ e, (cx.tokens raw).answer s = .error e → (u.convert rules cx raw).answer s = .error e := by
  refine ⟨fun c => ⟨?_, ?_⟩, fun tokens values cut each => ⟨fun c => ?_, ?_⟩, fun u sequence => ⟨?_, ?_⟩⟩
  · rintro ⟨v, read⟩
    cases cut : (cx.tokens raw).answer s with
    | error e =>
      rw [convert_of_uncut steady one (.collection c) cut] at read
      exact nomatch read
    | ok tokens =>
      refine ⟨tokens, rfl, ?_⟩
      rcases values_or_first_failure (fun token => (t.convert rules cx token).answer s) tokens with
        ⟨values, -, all⟩ | ⟨before, token, after, e, rfl, earlier, fails⟩
      · exact all
      · rw [convert_of_first_failure steady one (.collection c) cut earlier fails] at read
        exact nomatch read
  · rintro ⟨tokens, cut, all⟩
    rcases values_or_first_failure (fun token => (t.convert rules cx token).answer s) tokens with
      ⟨values, each, -⟩ | ⟨before, token, after, e, rfl, earlier, fails⟩
    · exact ⟨_, (convert_of_values steady one cut each).1 c⟩
    · obtain ⟨v, ok⟩ := all token (List.mem_append_right _ List.mem_cons_self)
      exact nomatch fails.symm.trans ok
  · exact ⟨_, (convert_of_values steady one cut each).1 c, c.holds_arrange t.compare values⟩
  · exact (convert_of_values steady one cut each).2
  · intro before token after cut earlier
    exact ⟨fun cause fails => convert_of_first_failure steady one sequence cut earlier fails,
      fun p breaks => convert_of_first_failure steady one sequence cut earlier breaks⟩
  · intro e uncut
    exact convert_of_uncut steady one sequence uncut

theorem spans_agree :
    let cx := ConversionContext.stocked .pipe .seconds
    let t : Target := .scalar .duration
    let values : List Value := [.duration ⟨2, 0⟩, .duration ⟨1, 0⟩, .duration ⟨2, 0⟩]
    (∀ c, ∃ content, ((collection c t).convert .builtIn cx "2| 1|2").answer .empty = .ok (.items content) ∧
      c.Holds t.compare values content) ∧
    ((array 3 t).convert .builtIn cx "2| 1|2").answer .empty = .ok (.items values) ∧
    ∀ u, IsSequenceOf t u → (u.convert .builtIn cx "2|x|y").answer .empty =
      .error (.error (.unsupportedConversion "k" u.name
        (.token "x" (.unsupportedConversion "k" t.name (.causedBy (.integer .invalidDigit)))))) := by
  intro cx t values
  have steady : cx.Steady := ConversionContext.steady_stocked .pipe .seconds
  have one : cx.ConvertsOne := ConversionContext.convertsOne_stocked .pipe rfl
  obtain ⟨-, agree, -⟩ := collections_agree .builtIn steady one t "2| 1|2" .empty
  obtain ⟨-, -, fail⟩ := collections_agree .builtIn steady one t "2|x|y" .empty
  have two : (t.convert .builtIn cx "2").answer .empty = .ok (.duration ⟨2, 0⟩) := rfl
  obtain ⟨collected, array⟩ := agree ["2", "1", "2"] values rfl (.cons two (.cons rfl (.cons two .nil)))
  have earlier : ∀ x ∈ ["2"], ∃ v, (t.convert .builtIn cx x).answer .empty = .ok v := by
    intro x mem
    obtain rfl := List.mem_singleton.mp mem
    exact ⟨_, two⟩
  refine ⟨collected, array 3, fun u sequence => ?_⟩
  exact ((fail u sequence).1 ["2"] "x" ["y"] rfl earlier).1 _ rfl

/-- A span of time whose parts are too long together breaks off, and takes with it every collection and array
that has it before a token that is only no span of time. -/
theorem overlong_span_breaks_off :
    let cx : ConversionContext Unit := .plain "k"
    let t : Target := .scalar .duration
    let raw := "18446744073709551615s 1000ms,x"
    (cx.tokens raw).answer () = .ok ["18446744073709551615s 1000ms", "x"] ∧
      (∃ fault, (t.convert .builtIn cx "x").answer () = .error (.error (.unsupportedConversion "k" "Duration" fault))) ∧
      ∀ u, IsSequenceOf t u → (u.convert .builtIn cx raw).answer () =
        .error (.panic ⟨some Time.DurationError.carry.message⟩) := by
  intro cx t raw
  have cut : ((ConversionContext.plain "k" : ConversionContext Unit).tokens
      "18446744073709551615s 1000ms,x").answer () = .ok ([] ++ "18446744073709551615s 1000ms" :: ["x"]) := rfl
  have breaks : ((scalar .duration).convert .builtIn (ConversionContext.plain "k" : ConversionContext Unit)
      "18446744073709551615s 1000ms").answer () = .error (.panic ⟨some Time.DurationError.carry.message⟩) := rfl
  refine ⟨cut, ⟨_, rfl⟩, fun u sequence => ?_⟩
  exact convert_of_first_failure (ConversionContext.steady_plain "k") (ConversionContext.convertsOne_plain "k")
    sequence cut (fun _ mem => (List.not_mem_nil mem).elim) breaks

end Target
end LiveConfig
