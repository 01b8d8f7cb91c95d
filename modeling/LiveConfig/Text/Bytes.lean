/-!
Texts as UTF-8 bytes.

`decodeLossy` reads bytes that may not be UTF-8: each longest run of bytes that begins a character but
does not complete one is read as U+FFFD.
-/
namespace LiveConfig.Text

def replacement : Char := '\ufffd'

def leadByte? (b : Nat) : Option (Nat × Nat × Nat × Nat) :=
  -- The range of the next byte keeps out overlong forms, surrogates and what lies beyond Unicode.
  if 0xC2 ≤ b && b ≤ 0xDF then some (b - 0xC0, 1, 0x80, 0xBF)
  else if b = 0xE0 then some (0, 2, 0xA0, 0xBF)
  else if b = 0xED then some (0xD, 2, 0x80, 0x9F)
  else if 0xE1 ≤ b && b ≤ 0xEF then some (b - 0xE0, 2, 0x80, 0xBF)
  else if b = 0xF0 then some (0, 3, 0x90, 0xBF)
  else if 0xF1 ≤ b && b ≤ 0xF3 then some (b - 0xF0, 3, 0x80, 0xBF)
  else if b = 0xF4 then some (4, 3, 0x80, 0x8F)
  else none

def decodeFrom : Option (Nat × Nat × Nat × Nat) → List UInt8 → List (Option Char)
  -- A character under way: its bits so far, how many bytes come behind the next one, and the range of that.
  | none, [] => []
  | some _, [] => [none]
  | none, b :: bs =>
    if b.toNat < 0x80 then some (Char.ofNat b.toNat) :: decodeFrom none bs
    else match leadByte? b.toNat with
      | some (code, 0, _, _) => some (Char.ofNat code) :: decodeFrom none bs
      | some (code, left + 1, low, high) => decodeFrom (some (code, left, low, high)) bs
      | none => none :: decodeFrom none bs
  | some (code, left, low, high), b :: bs =>
    if low ≤ b.toNat && b.toNat ≤ high then
      let code := code * 64 + (b.toNat - 0x80)
      match left with
      | 0 => some (Char.ofNat code) :: decodeFrom none bs
      | left + 1 => decodeFrom (some (code, left, 0x80, 0xBF)) bs
    else if b.toNat < 0x80 then none :: some (Char.ofNat b.toNat) :: decodeFrom none bs
    else match leadByte? b.toNat with
      | some (code, 0, _, _) => none :: some (Char.ofNat code) :: decodeFrom none bs
      | some (code, left + 1, low, high) => none :: decodeFrom (some (code, left, low, high)) bs
      | none => none :: none :: decodeFrom none bs

def decode? (bs : List UInt8) : Option (List Char) := (decodeFrom none bs).mapM id

def decodeLossy (bs : List UInt8) : List Char := (decodeFrom none bs).map fun c => c.getD replacement

def hexDigit? (c : Char) : Option Nat :=
  if '0' ≤ c && c ≤ '9' then some (c.toNat - 0x30)
  else if 'a' ≤ c && c ≤ 'f' then some (c.toNat - 0x61 + 10)
  else if 'A' ≤ c && c ≤ 'F' then some (c.toNat - 0x41 + 10)
  else none

def percentDecode : List Char → List UInt8
  | '%' :: a :: b :: rest =>
    match hexDigit? a, hexDigit? b with
    | some x, some y => UInt8.ofNat (16 * x + y) :: percentDecode rest
    | _, _ => 0x25 :: percentDecode (a :: b :: rest)
  | c :: rest => String.utf8EncodeChar c ++ percentDecode rest
  | [] => []

def hexUpper (b : UInt8) : List Char :=
  let digit (n : Nat) : Char := if n < 10 then Char.ofNat (0x30 + n) else Char.ofNat (0x37 + n)
  [digit (b.toNat / 16), digit (b.toNat % 16)]

def percentEncodeChar (escape : Char → Bool) (c : Char) : List Char :=
  if 0x7F < c.toNat || escape c then
    (String.utf8EncodeChar c).flatMap fun b => '%' :: hexUpper b
  else [c]

def percentEncode (escape : Char → Bool) (cs : List Char) : List Char :=
  cs.flatMap (percentEncodeChar escape)

end LiveConfig.Text
