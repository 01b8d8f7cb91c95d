import LiveConfig.Number.Binary

/-!
The shortest decimal that reads back as a given double.

A finite double is `m · 2 ^ q`.  The reals that round to it form an interval around it, with its ends
when `m` is even.  On the grid of decimals with a given last place the two neighbours of the number
are the only candidates, so the first grid from the coarsest on that has a neighbour inside the
interval holds the shortest decimal, and the nearer neighbour is taken.
-/
namespace LiveConfig.Number

def decodeDouble (bits : Nat) : Nat × Int :=
  let fraction : Nat := bits % Nat.pow 2 52
  let exponent : Nat := bits / Nat.pow 2 52 % Nat.pow 2 11
  if exponent = 0 then (fraction, -1074) else (fraction + Nat.pow 2 52, (exponent : Int) - 1075)

structure Ratio where
  num : Nat
  den : Nat

def scaled (m : Nat) (q e : Int) : Ratio :=
  ⟨m * Nat.pow 2 q.toNat * Nat.pow 10 (-e).toNat, Nat.pow 2 (-q).toNat * Nat.pow 10 e.toNat⟩

def Ratio.lt (a b : Ratio) : Bool := a.num * b.den < b.num * a.den

def readsBackAs (m : Nat) (q : Int) (n : Nat) (e : Int) : Bool :=
  -- Below a power of two the doubles lie twice as dense, so the lower end is nearer there.
  let tight := m = Nat.pow 2 52 && q ≠ -1074
  let low := if tight then scaled (4 * m - 1) (q - 2) e else scaled (2 * m - 1) (q - 1) e
  let high := scaled (2 * m + 1) (q - 1) e
  let point : Ratio := ⟨n, 1⟩
  if m % 2 = 0 then !point.lt low && !high.lt point else low.lt point && point.lt high

def onGrid? (m : Nat) (q e : Int) : Option Nat :=
  let r := scaled m q e
  let below := r.num / r.den
  let rest := r.num % r.den
  let first := if 2 * rest < r.den || (2 * rest = r.den && below % 2 = 0) then below else below + 1
  let second := if first = below then below + 1 else below
  if readsBackAs m q first e then some first
  else if readsBackAs m q second e then some second
  else none

def firstGrid (m : Nat) (q : Int) : Nat → Int → Nat × Int
  | 0, e => (m, e)
  | tries + 1, e =>
    match onGrid? m q e with
    | some n => (n, e)
    | none => firstGrid m q tries (e - 1)

def withoutTrailingZeros : Nat → Nat → Int → Nat × Int
  | 0, n, e => (n, e)
  | fuel + 1, n, e =>
    if n ≠ 0 ∧ n % 10 = 0 then withoutTrailingZeros fuel (n / 10) (e + 1) else (n, e)

def shortestDecimal (m : Nat) (q : Int) : Nat × Int :=
  let magnitude : Int := logQuotient (scaled m q 0).num (scaled m q 0).den
  let places := magnitude * 30103 / 100000 + 1
  let (n, e) := firstGrid m q 30 places
  withoutTrailingZeros 40 n e

def documentText (bits : Nat) : String :=
  let sign := if bits / Nat.pow 2 63 % 2 = 1 then "-" else ""
  let (m, q) := decodeDouble bits
  if m = 0 then sign ++ "0.0"
  else
    let (n, e) := shortestDecimal m q
    let digits := Nat.toDigits 10 n
    let point : Int := digits.length + e
    let body :=
      if -5 < point && point ≤ 16 then
        if 0 ≤ e then digits ++ List.replicate e.toNat '0' ++ ['.', '0']
        else if 0 < point then digits.take point.toNat ++ '.' :: digits.drop point.toNat
        else '0' :: '.' :: List.replicate (-point).toNat '0' ++ digits
      else
        let scale := point - 1
        let mark := if scale < 0 then "e-" else "e+"
        let fraction := digits.drop 1
        digits.take 1 ++ (if fraction.isEmpty then [] else '.' :: fraction) ++ mark.toList ++
          Nat.toDigits 10 scale.natAbs
    sign ++ String.ofList body

end LiveConfig.Number
