import FlowScheduler.Text.Number

/-!
Decimal numbers and floating-point numbers: the number nearest to a decimal, and the shortest decimal
that reads back as a number.

A finite positive number is `m * 2 ^ q`. The reals nearer to it than to any other number form an
interval around it, which has its ends iff `m` is even. The shortest decimal is searched for on the
grids of 1, 2, … 17 digits: if a grid has a point in the interval, then one of the two neighbours of the
number on that grid is in it.
-/

namespace FlowScheduler.Text.Decimal

/-! ### From decimals -/

/-- The number nearest to `digits * 10 ^ exponent`, with a sign; infinite if that is too large. -/
def toFloat (negative : Bool) (digits : Nat) (exponent : Int) : Float :=
  let magnitude : Int := exponent + (Nat.toDigits 10 digits).length
  let x : Float :=
    if digits = 0 ∨ magnitude < -400 then 0
    else if 400 < magnitude then 1 / 0
    else OfScientific.ofScientific digits (exponent < 0) exponent.natAbs
  if negative then -x else x

/-- An exponent after its letter: an optional sign and digits. -/
def exponent? : List Char → Option Int
  | [] => some 0
  | c :: cs => if c = 'e' ∨ c = 'E' then integer? cs else none

/-- A decimal number with an optional fraction and exponent, without a sign: its digits and the
exponent. At least one digit stands beside the point. -/
def unsigned? (cs : List Char) : Option (Nat × Int) := do
  let whole := cs.takeWhile Char.isDigit
  let (fraction, rest) := match cs.drop whole.length with
    | '.' :: rest => (rest.takeWhile Char.isDigit, rest.dropWhile Char.isDigit)
    | rest => ([], rest)
  let digits ← number? (whole ++ fraction)
  return (digits, (← exponent? rest) - fraction.length)

/-- The number that a text writes: a decimal, infinity in short or in full, or the number that is
none; with an optional sign, and names in any case. -/
def float? (cs : List Char) : Option Float :=
  let (negative, cs) := match cs with
    | '-' :: cs => (true, cs)
    | '+' :: cs => (false, cs)
    | cs => (false, cs)
  let name := String.ofList (cs.map Char.toLower)
  if name = "inf" ∨ name = "infinity" then some (if negative then -1 / 0 else 1 / 0)
  else if name = "nan" then some (0 / 0)
  else (unsigned? cs).map fun (digits, exponent) => toFloat negative digits exponent

/-! ### To decimals -/

/-- A positive number with the interval of the reals that read back as it; all three are numerators
over one denominator. -/
structure Surrounded where
  low : Nat
  value : Nat
  high : Nat
  denominator : Nat
  /-- Whether the ends read back as well. -/
  closed : Bool

namespace Surrounded

/-- The number `m * 2 ^ q`; below a power of two the next number is only half as far away. -/
def ofBinary (m : Nat) (q : Int) (isPower : Bool) : Surrounded :=
  let scale := Nat.pow 2 (q - 2).toNat
  { low := (4 * m - if isPower then 1 else 2) * scale
    value := 4 * m * scale
    high := (4 * m + 2) * scale
    denominator := Nat.pow 2 (2 - q).toNat
    closed := m % 2 = 0 }

/-- Whether the decimal `c * 10 ^ k` reads back. -/
def contains (s : Surrounded) (c : Nat) (k : Int) : Bool :=
  let point := c * Nat.pow 10 k.toNat * s.denominator
  let scale := Nat.pow 10 (-k).toNat
  if s.closed then s.low * scale ≤ point && point ≤ s.high * scale
  else s.low * scale < point && point < s.high * scale

/-- The multiple of `10 ^ k` below the number, as a factor. -/
def below (s : Surrounded) (k : Int) : Nat :=
  s.value * Nat.pow 10 (-k).toNat / (s.denominator * Nat.pow 10 k.toNat)

/-- Whether the multiple above the number is nearer than the one below. -/
def isNearerAbove (s : Surrounded) (k : Int) : Bool :=
  let unit := s.denominator * Nat.pow 10 k.toNat
  unit < 2 * (s.value * Nat.pow 10 (-k).toNat % unit)

/-- The decimal that reads back on the grid of `10 ^ k`, the nearer of two. -/
def onGrid? (s : Surrounded) (k : Int) : Option Nat :=
  let c := s.below k
  match s.contains c k, s.contains (c + 1) k with
  | true, true => some (if s.isNearerAbove k then c + 1 else c)
  | true, false => some c
  | false, true => some (c + 1)
  | false, false => none

/-- The least `n` with `value < 10 ^ n`, searched for upwards. -/
def magnitude (s : Surrounded) : (fuel : Nat) → (start : Int) → Int
  | 0, n => n
  | fuel + 1, n => if s.below n = 0 then n else s.magnitude fuel (n + 1)

/-- The shortest decimal `c * 10 ^ k` that reads back. -/
def shortest (s : Surrounded) : Nat × Int :=
  let top := s.magnitude 700 (-330)
  let grids : List Int := (List.range 17).map fun n => top - 1 - Int.ofNat n
  (grids.findSome? fun k => (s.onGrid? k).map (·, k)).getD (s.below (top - 17), top - 17)

end Surrounded

/-- The decimal `c * 10 ^ k` without an exponent. -/
def positional (c : Nat) (k : Int) : String :=
  let digits := toString c
  if 0 ≤ k then String.ofList (digits.toList ++ List.replicate k.toNat '0')
  else
    let places := k.natAbs
    let ds := List.replicate (places + 1 - digits.length) '0' ++ digits.toList
    String.ofList (ds.take (ds.length - places) ++ '.' :: ds.drop (ds.length - places))

/-- The shortest decimal that reads back as a number, without an exponent. -/
def ofFloat (x : Float) : String :=
  let bits := x.toBits.toNat
  let sign := if bits >>> 63 = 1 then "-" else ""
  let exponent := bits >>> 52 % 2048
  let fraction := bits % (1 <<< 52)
  if exponent = 2047 then if fraction = 0 then sign ++ "inf" else "NaN"
  else if exponent = 0 ∧ fraction = 0 then sign ++ "0"
  else
    let s :=
      if exponent = 0 then Surrounded.ofBinary fraction (-1074) false
      else Surrounded.ofBinary (1 <<< 52 + fraction) (Int.ofNat exponent - 1075)
        (fraction = 0 && exponent ≠ 1)
    let (c, k) := s.shortest
    -- rounding up may have reached a power of ten
    sign ++ if c = 10 then positional 1 (k + 1) else positional c k

end FlowScheduler.Text.Decimal
