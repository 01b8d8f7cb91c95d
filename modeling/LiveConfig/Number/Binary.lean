import LiveConfig.Number.Integer

/-!
Binary floating point, read from decimal text with correct rounding.

A finite number of a format is `n · 2 ^ q` with `n` of at most `precision` bits and `q` at least
`lowest`.  The patterns of the non-negative finite numbers are in the order of the numbers, so a
pattern is `(q - lowest) · 2 ^ (precision - 1) + n`, and a round up that needs one more bit carries
into the exponent by itself.
-/
namespace LiveConfig.Number

structure BinaryFormat where
  precision : Nat
  lowest : Int
  width : Nat

def BinaryFormat.single : BinaryFormat := ⟨24, -149, 32⟩

def BinaryFormat.double : BinaryFormat := ⟨53, -1074, 64⟩

namespace BinaryFormat

def infinity (f : BinaryFormat) : Nat :=
  (Nat.pow 2 (f.width - f.precision) - 1) * Nat.pow 2 (f.precision - 1)

def quietNan (f : BinaryFormat) : Nat := f.infinity + Nat.pow 2 (f.precision - 2)

def signBit (f : BinaryFormat) : Nat := Nat.pow 2 (f.width - 1)

end BinaryFormat

def roundQuotient (num den : Nat) : Nat :=
  let q := num / den
  let r := num % den
  if 2 * r < den then q
  else if den < 2 * r then q + 1
  else q + q % 2

def logQuotient (num den : Nat) : Int :=
  let guess : Int := (Nat.log2 num : Int) - Nat.log2 den
  let atLeast : Bool :=
    if 0 ≤ guess then den * Nat.pow 2 guess.toNat ≤ num else den ≤ num * Nat.pow 2 (-guess).toNat
  if atLeast then guess else guess - 1

def nearestPattern (f : BinaryFormat) (num den : Nat) : Nat :=
  let q := max f.lowest (logQuotient num den - (f.precision - 1 : Nat))
  let n := if 0 ≤ q then roundQuotient num (den * Nat.pow 2 q.toNat)
    else roundQuotient (num * Nat.pow 2 (-q).toNat) den
  min ((q - f.lowest).toNat * Nat.pow 2 (f.precision - 1) + n) f.infinity

def patternOfDecimal (f : BinaryFormat) (m : Nat) (e : Int) : Nat :=
  -- Beyond four hundred places on either side every format has run out, which keeps the powers small.
  if m = 0 then 0
  else
    let top : Int := (Nat.toDigits 10 m).length + e
    if 400 < top then f.infinity
    else if top < -400 then 0
    else if 0 ≤ e then nearestPattern f (m * Nat.pow 10 e.toNat) 1
    else nearestPattern f m (Nat.pow 10 (-e).toNat)

inductive FloatError where
  | empty
  | invalid
  deriving DecidableEq, Repr

def FloatError.message : FloatError → String
  | .empty => "cannot parse float from empty string"
  | .invalid => "invalid float literal"

structure Decimal where
  negative : Bool
  digits : Nat
  exponent : Int

def digitsValue (cs : List Char) : Nat :=
  cs.foldl (fun n c => 10 * n + (c.toNat - 0x30)) 0

def spanDigits (cs : List Char) : List Char × List Char := cs.span Char.isDigit

def exponentPart? : List Char → Option Int
  | [] => some 0
  | c :: cs =>
    if c = 'e' || c = 'E' then
      let (negative, digits) := match cs with
        | '-' :: r => (true, r)
        | '+' :: r => (false, r)
        | r => (false, r)
      if digits.isEmpty || !digits.all Char.isDigit then none
      else some (if negative then -(digitsValue digits : Int) else digitsValue digits)
    else none

def unsignedDecimal? (cs : List Char) : Option (Nat × Int) :=
  let (whole, rest) := spanDigits cs
  let (fraction, rest) := match rest with
    | '.' :: r => spanDigits r
    | r => ([], r)
  if whole.isEmpty && fraction.isEmpty then none
  else (exponentPart? rest).map fun e =>
    (digitsValue (whole ++ fraction), e - fraction.length)

def parseBinary (f : BinaryFormat) (cs : List Char) : Except FloatError Nat :=
  if cs.isEmpty then .error .empty
  else
    let (negative, body) := match cs with
      | '-' :: r => (true, r)
      | '+' :: r => (false, r)
      | r => (false, r)
    let sign := if negative then f.signBit else 0
    let word := String.ofList (body.map Char.toLower)
    if word = "inf" || word = "infinity" then .ok (sign + f.infinity)
    else if word = "nan" then .ok (sign + f.quietNan)
    else match unsignedDecimal? body with
      | none => .error .invalid
      | some (m, e) => .ok (sign + patternOfDecimal f m e)

end LiveConfig.Number
