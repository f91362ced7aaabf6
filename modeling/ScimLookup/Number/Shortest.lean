import ScimLookup.Number.Decimal
import ScimLookup.Number.Double

/-!
# Shortest numerals

The numeral of a binary number with the fewest digits that still read back as the number. The reals
that round to a number are an interval around it; for each count of digits the two numbers on that
decimal grid next to the value are tried, and the first count with one inside the interval wins, the
nearer of two.

How the digits are laid out is a matter of the format: up to which size they are written in
positions, and with an exponent beyond.
-/

set_option autoImplicit false

namespace ScimLookup.Shortest

/-- A positive quotient. -/
structure Ratio where
  num : Nat
  den : Nat

/-- The quotient `n * b ^ e`. -/
def scaled (n b : Nat) (e : Int) : Ratio :=
  ⟨n * Nat.pow b e.toNat, Nat.pow b (-e).toNat⟩

/-- One quotient is at most another. -/
def Ratio.le (x y : Ratio) : Bool :=
  decide (x.num * y.den ≤ y.num * x.den)

/-- The exponent of the first decimal digit of a positive quotient. -/
def decimalExponent (x : Ratio) : Int :=
  if x.den ≤ x.num then ((Decimal.digits (x.num / x.den)).length : Int) - 1
  else
    let j := (Decimal.digits (x.den / x.num)).length - 1
    if x.den ≤ x.num * Nat.pow 10 j then -(j : Int) else -(j : Int) - 1

/-- The reals that round to `m * 2 ^ e`: its ends, and whether they belong to it. -/
structure Interval where
  low : Ratio
  high : Ratio
  closed : Bool

/-- The interval of `m * 2 ^ e`. Below a power of two the numbers lie closer. -/
def interval (m : Nat) (e : Int) : Interval :=
  let below := if m = 0x10000000000000 ∧ -1074 < e then 1 else 2
  ⟨scaled (4 * m - below) 2 (e - 2), scaled (4 * m + 2) 2 (e - 2), m % 2 = 0⟩

/-- A quotient is in an interval. -/
def Interval.holds (i : Interval) (x : Ratio) : Bool :=
  if i.closed then i.low.le x && x.le i.high else !x.le i.low && !i.high.le x

/-- The best numeral with `k` digits, if one reads back: its digits as a number, and the exponent of
the last one. -/
def withDigits? (m : Nat) (e : Int) (k : Nat) : Option (Nat × Int) :=
  let x := scaled m 2 e
  let u := decimalExponent x - k + 1
  let unit := scaled 1 10 u
  let f := x.num * unit.den / (x.den * unit.num)
  let inside (c : Nat) : Bool := (interval m e).holds ⟨c * unit.num, unit.den⟩
  let twice := 2 * (x.num * unit.den - f * (x.den * unit.num))
  let upper := decide (x.den * unit.num < twice) ||
    (decide (twice = x.den * unit.num) && f % 2 == 1)
  if inside f && (!upper || !inside (f + 1)) then some (f, u)
  else if inside (f + 1) then some (f + 1, u)
  else none

/-- The first numeral that reads back, from `k` digits on. -/
def search (m : Nat) (e : Int) : Nat → Nat → Nat × Int
  | 0, _ => (m * Nat.pow 2 e.toNat, 0)
  | fuel + 1, k =>
    match withDigits? m e k with
    | some r => r
    | none => search m e fuel (k + 1)

/-- A number without the zeros at its end, and how many there are. -/
def stripZeros : Nat → Nat → Nat × Nat
  | 0, n => (n, 0)
  | fuel + 1, n =>
    if n % 10 = 0 ∧ n ≠ 0 then
      let (m, k) := stripZeros fuel (n / 10)
      (m, k + 1)
    else (n, 0)

/-- The shortest numeral of `m * 2 ^ e`: digits, and the exponent of the last one. -/
def numeral (m : Nat) (e : Int) : Nat × Int :=
  let (n, u) := search m e 17 1
  let (n, k) := stripZeros 20 n
  (n, u + k)

/-! ## Layout -/

/-- How digits are laid out: the greatest and the least place of the first digit that is written in
positions, counted from the point. -/
structure Layout where
  greatest : Int
  least : Int

/-- The numeral of digits and the exponent of the last one. In positions there is a digit on either
side of the point; with an exponent, a point only behind more than one digit. -/
def Layout.write (l : Layout) (n : Nat) (u : Int) : List Char :=
  let ds := Decimal.digits n
  let place := u + ds.length
  if 0 ≤ u ∧ place ≤ l.greatest then ds ++ List.replicate u.toNat '0' ++ ['.', '0']
  else if 0 < place ∧ place ≤ l.greatest then ds.take place.toNat ++ '.' :: ds.drop place.toNat
  else if l.least ≤ place ∧ place ≤ 0 then
    '0' :: '.' :: (List.replicate (-place).toNat '0' ++ ds)
  else
    let exponent := 'e' :: Decimal.ofInt (place - 1)
    match ds with
    | [d] => d :: exponent
    | d :: ds => d :: '.' :: (ds ++ exponent)
    | [] => exponent

/-- The numeral of a finite number. -/
def Layout.text (l : Layout) (negative : Bool) (m : Nat) (e : Int) : String :=
  let sign := if negative then ['-'] else []
  if m = 0 then .ofList (sign ++ ['0', '.', '0'])
  else
    let (n, u) := numeral m e
    .ofList (sign ++ l.write n u)

end ScimLookup.Shortest
