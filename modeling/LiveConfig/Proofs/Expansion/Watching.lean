import LiveConfig.Proofs.Expansion.Keeping

/-!
Expansions that are watched: what they ask for is written down, and the length limit can be lifted.

`Expander.watch true` goes on like `Expander.expand` and notes each substitutor that is called, each key
that is looked up or lies too deep, and the moment at which a text first proves too long: after a placeholder
in it, or at its end.  `Expander.watch false` is the same expansion, where no text is too long.
-/
namespace LiveConfig

inductive Sight where
  | called (name argument : String)
  | lookedUp (key : String)
  | tooDeep (key : String)
  | tooLong
  deriving DecidableEq, Repr

structure Watch (σ : Type) where
  run : ExpansionRun σ
  seen : List Sight

namespace Watch

variable {σ : Type}

def start (plugins : σ) : Watch σ := ⟨.start plugins, []⟩

def see (w : Watch σ) (sight : Sight) : Watch σ := { w with seen := sight :: w.seen }

def limit (capped : Bool) (w : Watch σ) (text : String) : String × Watch σ :=
  if capped then
    let (text, run) := w.run.limit text
    (text, ⟨run, if run.overflowed && !w.run.overflowed then .tooLong :: w.seen else w.seen⟩)
  else (text, w)

end Watch

namespace Expander

variable {σ : Type}

abbrev Resolver (α : Type) := String → α → String × α

def fillWatched (capped : Bool) (resolve : Resolver (Watch σ)) : List Segment → Resolver (Watch σ)
  | [], out, w => w.limit capped out
  | .plain cs :: rest, out, w => fillWatched capped resolve rest (out ++ String.ofList cs) w
  | .placeholder inner :: rest, out, w =>
    let (text, w) := resolve (String.ofList inner) w
    let (out, w) := w.limit capped (out ++ text)
    if w.run.overflowed then (out, w) else fillWatched capped resolve rest out w

def expandTextWatched (capped : Bool) (resolve : Resolver (Watch σ)) : Resolver (Watch σ) :=
  fun value w =>
    let cs := value.toList
    if Text.occursIn ['$', '\x7b'] cs then fillWatched capped resolve (segments cs) "" w else (value, w)

def resolveWatched (e : Expander σ) (capped : Bool) (deeper : Nat) (path : List String) :
    Resolver (Watch σ) :=
  fun inner w =>
    if w.run.overflowed then ("", w)
    else
      match e.call? inner with
      | some (s, argument) =>
        let (text, plugins) := s.apply argument w.run.plugins
        (text, ⟨{ w.run.note (callLine s argument) with plugins }, .called s.name argument :: w.seen⟩)
      | none =>
        match entryOf? inner w.run.kept with
        | some text => (text, w)
        | none =>
          if path.contains inner then ("", { w with run := w.run.cut (cyclicLine inner path) })
          else
            match deeper with
            | 0 => ("", ⟨w.run.cut (tooDeepLine inner path), .tooDeep inner :: w.seen⟩)
            | deeper + 1 =>
              match e.lookup? inner with
              | none => ("", ⟨w.run.note (unresolvedLine inner), .lookedUp inner :: w.seen⟩)
              | some raw =>
                let (text, after) :=
                  expandTextWatched capped (e.resolveWatched capped deeper (inner :: path)) raw
                    (w.see (.lookedUp inner))
                (text,
                  if after.run.cuts = w.run.cuts then
                    { after with run := { after.run with kept := (inner, text) :: after.run.kept } }
                  else after)

def watch (e : Expander σ) (capped : Bool) (value : String) (plugins : σ) : String × Watch σ :=
  expandTextWatched capped (e.resolveWatched capped maxExpansionDepth []) value (.start plugins)

def Watches (watched : Resolver (Watch σ)) (plain : Resolver (ExpansionRun σ)) : Prop :=
  ∀ key w, plain key w.run = ((watched key w).1, (watched key w).2.run)

private theorem watches_fill {resolve : Resolver (Watch σ)} {plain : Resolver (ExpansionRun σ)}
    (same : Watches resolve plain) (parts : List Segment) :
    Watches (fillWatched true resolve parts) (fill plain parts) := by
  intro out w
  induction parts generalizing out w with
  | nil => rfl
  | cons part rest ih =>
    cases part with
    | plain cs => exact ih _ w
    | placeholder inner =>
      simp only [fillWatched, fill]
      rw [same (String.ofList inner) w]
      generalize resolve (String.ofList inner) w = result
      obtain ⟨text, after⟩ := result
      dsimp only
      by_cases beyond : (after.run.limit (out ++ text)).2.overflowed = true
      · rw [if_pos beyond, if_pos (show (after.limit true (out ++ text)).2.run.overflowed = true from beyond)]
        rfl
      · rw [if_neg beyond, if_neg (show ¬ (after.limit true (out ++ text)).2.run.overflowed = true from beyond)]
        exact ih (after.limit true (out ++ text)).1 (after.limit true (out ++ text)).2

private theorem watches_expandText {resolve : Resolver (Watch σ)} {plain : Resolver (ExpansionRun σ)}
    (same : Watches resolve plain) : Watches (expandTextWatched true resolve) (expandText plain) := by
  intro value w
  unfold expandTextWatched expandText
  dsimp only
  split
  · exact watches_fill same _ _ w
  · rfl

private theorem watches_resolve (e : Expander σ) (deeper : Nat) (path : List String) :
    Watches (e.resolveWatched true deeper path) (e.resolve deeper path) := by
  intro inner w
  induction deeper generalizing path inner w with
  | zero =>
    unfold resolveWatched resolve
    cases w.run.overflowed <;> cases e.call? inner <;> cases entryOf? inner w.run.kept <;>
      cases path.contains inner <;> rfl
  | succ deeper ih =>
    unfold resolveWatched resolve
    cases w.run.overflowed <;> cases e.call? inner <;> cases entryOf? inner w.run.kept <;>
      cases path.contains inner <;> try rfl
    cases e.lookup? inner with
    | none => rfl
    | some raw =>
      have below := watches_expandText (ih (inner :: path)) raw (w.see (.lookedUp inner))
      simp only [Bool.false_eq_true, if_false]
      rw [show w.run = (w.see (.lookedUp inner)).run from rfl, below]
      generalize expandTextWatched true (e.resolveWatched true deeper (inner :: path)) raw
        (w.see (.lookedUp inner)) = result
      dsimp only
      by_cases whole : result.2.run.cuts = (w.see (.lookedUp inner)).run.cuts
      · rw [if_pos whole, if_pos whole]
      · rw [if_neg whole, if_neg whole]

theorem expand_eq_watch (e : Expander σ) (value : String) (plugins : σ) :
    e.expand value plugins = ⟨(e.watch true value plugins).1,
      (e.watch true value plugins).2.run.log.reverse, (e.watch true value plugins).2.run.plugins⟩ := by
  unfold expand
  rw [show ExpansionRun.start plugins = (Watch.start plugins).run from rfl,
    watches_expandText (e.watches_resolve maxExpansionDepth []) value (.start plugins)]
  rfl

end Expander
end LiveConfig
