/-!
The Bootstring encoding of host labels, which writes any label in letters, digits and hyphens.

The plain characters of a label come first; what follows says, as numbers of variable length in base
36, where and which the other characters are.
-/
namespace LiveConfig.Net.Punycode

def base : Nat := 36
def leastThreshold : Nat := 1
def greatestThreshold : Nat := 26

def threshold (k bias : Nat) : Nat :=
  if k ≤ bias then leastThreshold else min (k - bias) greatestThreshold

def digitChar (d : Nat) : Char :=
  if d < 26 then Char.ofNat (0x61 + d) else Char.ofNat (0x30 + (d - 26))

def charDigit? (c : Char) : Option Nat :=
  let n := c.toNat
  if 0x61 ≤ n && n ≤ 0x7A then some (n - 0x61)
  else if 0x41 ≤ n && n ≤ 0x5A then some (n - 0x41)
  else if 0x30 ≤ n && n ≤ 0x39 then some (n - 0x30 + 26)
  else none

def settle (k delta : Nat) : Nat :=
  if delta > 455 then settle (k + base) (delta / 35)
  else k + 36 * delta / (delta + 38)
termination_by delta
decreasing_by omega

def adapt (delta count : Nat) (first : Bool) : Nat :=
  let delta := if first then delta / 700 else delta / 2
  settle 0 (delta + delta / count)

def writeNumber (bias k q : Nat) : List Char :=
  let t := threshold k bias
  if t ≤ q ∧ t < base ∧ 0 < q then
    digitChar (t + (q - t) % (base - t)) :: writeNumber bias (k + base) ((q - t) / (base - t))
  else [digitChar q]
termination_by q
decreasing_by
  have : (q - threshold k bias) / (base - threshold k bias) ≤ q - threshold k bias :=
    Nat.div_le_self _ _
  have : 0 < threshold k bias := by
    unfold threshold leastThreshold greatestThreshold; split <;> omega
  omega

structure Encoder where
  delta : Nat
  bias : Nat
  handled : Nat
  output : List Char

def Encoder.level (n plain : Nat) : List Char → Encoder → Encoder
  | [], e => e
  | c :: rest, e =>
    if c.toNat < n then Encoder.level n plain rest { e with delta := e.delta + 1 }
    else if c.toNat = n then
      Encoder.level n plain rest
        { delta := 0
          bias := adapt e.delta (e.handled + 1) (e.handled = plain)
          handled := e.handled + 1
          output := (writeNumber e.bias base e.delta).reverse ++ e.output }
    else Encoder.level n plain rest e

def Encoder.levels (label : List Char) (plain : Nat) : Nat → List Nat → Encoder → Encoder
  | _, [], e => e
  | n, m :: ms, e =>
    let e := { e with delta := e.delta + (m - n) * (e.handled + 1) }
    let e := Encoder.level m plain label e
    Encoder.levels label plain (m + 1) ms { e with delta := e.delta + 1 }

def encode (label : List Char) : List Char :=
  let plain := label.filter fun c => c.toNat < 0x80
  let others := (label.filter fun c => 0x80 ≤ c.toNat).map Char.toNat
  let levels := (others.mergeSort (· ≤ ·)).eraseDups
  let start : Encoder := ⟨0, 72, plain.length, []⟩
  let coded := (Encoder.levels label plain.length 0x80 levels start).output.reverse
  (if plain.isEmpty then [] else plain ++ ['-']) ++ coded

def readNumber (bias : Nat) : List Char → Nat → Nat → Nat → Option (Nat × List Char)
  | [], _, _, _ => none
  | c :: rest, k, weight, i =>
    match charDigit? c with
    | none => none
    | some d =>
      let i := i + d * weight
      let t := threshold k bias
      if Nat.pow 2 32 ≤ i then none
      else if d < t then some (i, rest)
      else readNumber bias rest (k + base) (weight * (base - t)) i

private theorem length_lt_of_readNumber {bias : Nat} {cs rest : List Char} {k weight i j : Nat}
    (h : readNumber bias cs k weight i = some (j, rest)) : rest.length < cs.length := by
  induction cs generalizing k weight i with
  | nil => simp [readNumber] at h
  | cons c cs ih =>
    simp only [readNumber] at h
    split at h
    · simp at h
    · split at h
      · simp at h
      · split at h
        · simp only [Option.some.injEq, Prod.mk.injEq] at h
          obtain ⟨_, rfl⟩ := h
          simp
        · have := ih h
          simp
          omega

def readInsertions (cs : List Char) (n i bias : Nat) (first : Bool) (label : List Char) :
    Option (List Char) :=
  -- `n` is the least code point left, and `i` the place where the next character goes.
  match cs with
  | [] => some label
  | c :: more =>
    match _h : readNumber bias (c :: more) base 1 i with
    | none => none
    | some (j, rest) =>
      let count := label.length + 1
      let code := n + j / count
      let place := j % count
      if code.isValidChar then
        readInsertions rest code (place + 1) (adapt (j - i) count first) false
          (label.take place ++ Char.ofNat code :: label.drop place)
      else none
termination_by cs.length
decreasing_by exact length_lt_of_readNumber (by assumption)

def decode (coded : List Char) : Option (List Char) :=
  if coded.any fun c => 0x80 ≤ c.toNat then none
  else
    let backwards := coded.reverse
    let tail := (backwards.takeWhile (· ≠ '-')).reverse
    if tail.length = coded.length then readInsertions coded 0x80 0 72 true []
    else
      let plain := coded.take (coded.length - tail.length - 1)
      readInsertions tail 0x80 0 72 true plain

end LiveConfig.Net.Punycode
