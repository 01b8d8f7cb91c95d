/-!
Whole numbers of fixed width, read from text.

A text is an optional sign and digits of one radix.  `Range` says which numbers fit; a number that
does not fit is told apart by its sign, and a character that is no digit counts before an overflow at
the same place.
-/
namespace LiveConfig.Number

inductive IntegerError where
  | empty
  | invalidDigit
  | tooLarge
  | tooSmall
  deriving DecidableEq, Repr

def IntegerError.message : IntegerError → String
  | .empty => "cannot parse integer from empty string"
  | .invalidDigit => "invalid digit found in string"
  | .tooLarge => "number too large to fit in target type"
  | .tooSmall => "number too small to fit in target type"

structure Range where
  signed : Bool
  bits : Nat
  deriving DecidableEq, Repr

namespace Range

def top (r : Range) : Nat := if r.signed then Nat.pow 2 (r.bits - 1) - 1 else Nat.pow 2 r.bits - 1

def depth (r : Range) : Nat := if r.signed then Nat.pow 2 (r.bits - 1) else 0

end Range

def digitOf? (radix : Nat) (c : Char) : Option Nat :=
  let n := c.toNat
  let value :=
    if 0x30 ≤ n && n ≤ 0x39 then n - 0x30
    else if 0x61 ≤ n && n ≤ 0x66 then n - 0x61 + 10
    else if 0x41 ≤ n && n ≤ 0x46 then n - 0x41 + 10
    else radix
  if value < radix then some value else none

def readMagnitude (radix limit : Nat) (overflow : IntegerError) :
    Nat → List Char → Except IntegerError Nat
  | acc, [] => .ok acc
  | acc, c :: cs =>
    match digitOf? radix c with
    | none => .error .invalidDigit
    | some d =>
      let next := acc * radix + d
      if next ≤ limit then readMagnitude radix limit overflow next cs else .error overflow

def parseInteger (range : Range) (radix : Nat) : List Char → Except IntegerError Int
  | [] => .error .empty
  | ['+'] | ['-'] => .error .invalidDigit
  | '+' :: digits => Int.ofNat <$> readMagnitude radix range.top .tooLarge 0 digits
  | '-' :: digits =>
    if range.signed then (fun n => -Int.ofNat n) <$> readMagnitude radix range.depth .tooSmall 0 digits
    else .error .invalidDigit
  | digits => Int.ofNat <$> readMagnitude radix range.top .tooLarge 0 digits

def word64 : Range := ⟨false, 64⟩

def hex (width n : Nat) : String :=
  let digits := Nat.toDigits 16 n
  String.ofList (List.replicate (width - digits.length) '0' ++ digits)

def padded (width n : Nat) : String :=
  let digits := Nat.toDigits 10 n
  String.ofList (List.replicate (width - digits.length) '0' ++ digits)

end LiveConfig.Number
