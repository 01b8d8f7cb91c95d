import LiveConfig.Placeholder
import LiveConfig.Substitutor
import LiveConfig.TextMap
import LiveConfig.Text.Cut

/-!
Expansion of placeholders.

A placeholder that names a registered substitutor stands for its result.  Any other one stands for the
value that the first of several layers gives to its inner text, with that value's placeholders expanded
in turn.  Cyclic and unknown references stand for nothing.  Three limits keep the work finite: values
are not followed into themselves, not more than 32 deep, and a text ends at 2^20 bytes.

Within one expansion a value is kept once it has been expanded without being cut short; a value that
was cut short depends on the way that led to it and is expanded again.
-/
namespace LiveConfig

def maxExpansionDepth : Nat := 32

def maxExpandedSize : Nat := Nat.pow 2 20

def takeBytes (room : Nat) (taken : List Char) : List Char → List Char
  | [] => taken.reverse
  | c :: cs =>
    if c.utf8Size ≤ room then takeBytes (room - c.utf8Size) (c :: taken) cs else taken.reverse

def truncated (limit : Nat) (s : String) : String :=
  if s.utf8ByteSize ≤ limit then s else String.ofList (takeBytes limit [] s.toList)

structure Expander (σ : Type) where
  layers : List PropertyMap
  substitutors : SubstitutorRegistry σ

/-- The state of one expansion: values that need not be expanded again, how often a value was cut
short, whether the length limit was met, the log (last line first) and the state of the plugins. -/
structure ExpansionRun (σ : Type) where
  kept : List (String × String)
  cuts : Nat
  overflowed : Bool
  log : List LogLine
  plugins : σ

namespace ExpansionRun

variable {σ : Type}

def start (plugins : σ) : ExpansionRun σ := ⟨[], 0, false, [], plugins⟩

def note (r : ExpansionRun σ) (line : LogLine) : ExpansionRun σ := { r with log := line :: r.log }

def cut (r : ExpansionRun σ) (line : LogLine) : ExpansionRun σ :=
  { r with cuts := r.cuts + 1, log := line :: r.log }

def limit (r : ExpansionRun σ) (text : String) : String × ExpansionRun σ :=
  if text.utf8ByteSize ≤ maxExpandedSize then (text, r)
  else
    let line : LogLine :=
      ⟨.warn, "expanded value too long, truncating", [("limit", .number maxExpandedSize)]⟩
    (truncated maxExpandedSize text,
      { r with
        cuts := r.cuts + 1
        overflowed := true
        log := if r.overflowed then r.log else line :: r.log })

end ExpansionRun

namespace Expander

variable {σ : Type}

def lookup? (e : Expander σ) (key : String) : Option String :=
  e.layers.findSome? fun layer => layer.get? key

def call? (e : Expander σ) (inner : String) : Option (Substitutor σ × String) :=
  match Text.cutAt (· = ':') inner.toList with
  | none => none
  | some (name, argument) =>
    (e.substitutors.get? (String.ofList name)).map fun s => (s, String.ofList argument)

def fill (resolve : String → ExpansionRun σ → String × ExpansionRun σ) :
    List Segment → String → ExpansionRun σ → String × ExpansionRun σ
  | [], out, r => r.limit out
  | .plain cs :: rest, out, r => fill resolve rest (out ++ String.ofList cs) r
  | .placeholder inner :: rest, out, r =>
    let (text, r) := resolve (String.ofList inner) r
    let (out, r) := r.limit (out ++ text)
    if r.overflowed then (out, r) else fill resolve rest out r

def expandText (resolve : String → ExpansionRun σ → String × ExpansionRun σ) (value : String)
    (r : ExpansionRun σ) : String × ExpansionRun σ :=
  -- A text without an opening mark is kept whatever its length.
  let cs := value.toList
  if Text.occursIn ['$', '\x7b'] cs then fill resolve (segments cs) "" r else (value, r)

def cyclicLine (key : String) (path : List String) : LogLine :=
  ⟨.warn, "cyclic property reference, resolving to empty string",
    [("key", .text key), ("chain", .text (Text.joinWith " -> " path.reverse))]⟩

def tooDeepLine (key : String) (path : List String) : LogLine :=
  ⟨.warn, "expansion depth exceeded, resolving to empty string",
    [("key", .text key), ("depth", .number path.length)]⟩

def unresolvedLine (key : String) : LogLine :=
  ⟨.trace, "unresolved placeholder", [("key", .text key)]⟩

def callLine (s : Substitutor σ) (argument : String) : LogLine :=
  ⟨.trace, "invoking substitutor",
    [("substitutor", .text s.name), ("argument", .text argument)]⟩

def resolve (e : Expander σ) (deeper : Nat) (path : List String) (inner : String)
    (r : ExpansionRun σ) : String × ExpansionRun σ :=
  -- The values of the keys in `path` are being expanded, innermost first; `deeper` more may be nested in them.
  if r.overflowed then ("", r)
  else
    match e.call? inner with
    | some (s, argument) =>
      let (text, plugins) := s.apply argument r.plugins
      (text, { r.note (callLine s argument) with plugins })
    | none =>
      match entryOf? inner r.kept with
      | some text => (text, r)
      | none =>
        if path.contains inner then ("", r.cut (cyclicLine inner path))
        else
          match deeper with
          | 0 => ("", r.cut (tooDeepLine inner path))
          | deeper + 1 =>
            match e.lookup? inner with
            | none => ("", r.note (unresolvedLine inner))
            | some raw =>
              let (text, after) := expandText (e.resolve deeper (inner :: path)) raw r
              (text, if after.cuts = r.cuts then { after with kept := (inner, text) :: after.kept }
                else after)

end Expander

structure Expanded (σ : Type) where
  text : String
  log : List LogLine
  plugins : σ

namespace Expander

variable {σ : Type}

def expand (e : Expander σ) (value : String) (plugins : σ) : Expanded σ :=
  let (text, r) := expandText (e.resolve maxExpansionDepth []) value (.start plugins)
  ⟨text, r.log.reverse, r.plugins⟩

def withArguments (e : Expander σ) (arguments : PropertyMap) : Expander σ :=
  if arguments.isEmpty then e else { e with layers := arguments :: e.layers }

end Expander

structure KeyTemplate where
  key : String
  keyPrefix : Option String
  expands : Bool
  prefixes : Bool

namespace KeyTemplate

variable {σ : Type}

def part (t : KeyTemplate) (e : Expander σ) (text : String) (plugins : σ) : Expanded σ :=
  if t.expands then e.expand text plugins else ⟨text, [], plugins⟩

def resolve (t : KeyTemplate) (e : Expander σ) (plugins : σ) : Expanded σ :=
  let key := t.part e t.key plugins
  match t.keyPrefix with
  | none => key
  | some keyPrefix =>
    if t.prefixes then
      let before := t.part e keyPrefix key.plugins
      ⟨before.text ++ key.text, key.log ++ before.log, before.plugins⟩
    else key

end KeyTemplate
end LiveConfig
