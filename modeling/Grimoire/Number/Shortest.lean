import Grimoire.Number.Binary

/-! # The shortest decimal that reads back

Every finite double other than zero is the nearest double to all numbers of an interval around it.
`Decimal.shortest` takes the decimals with one digit, then with two, and so on, and stops at the
first count for which a neighbour of the double on that decimal grid lies in the interval; of two
such neighbours it takes the nearer.  If a point of a grid lies in the interval, then so does one of
the double's two neighbours on the grid, so no shorter decimal reads back.
-/

namespace Grimoire

structure Decimal where
  digits : Nat
  scale : Int
  deriving DecidableEq, Repr

namespace Decimal

/-- Which of two equally near decimals is taken. -/
inductive Tie where
  /-- The one whose last digit is even. -/
  | even
  /-- The larger one. -/
  | up
  deriving DecidableEq, Repr

/-- A positive rational number as two whole numbers. -/
structure Ratio where
  num : Nat
  den : Nat
  deriving DecidableEq, Repr

def Ratio.ofBinary (m : Nat) (q : Int) : Ratio :=
  if 0 ≤ q then ⟨m * twoTo q.toNat, 1⟩ else ⟨m, twoTo (-q).toNat⟩

def Ratio.unscale (r : Ratio) (k : Int) : Ratio :=
  if 0 ≤ k then ⟨r.num, r.den * tenTo k.toNat⟩ else ⟨r.num * tenTo (-k).toNat, r.den⟩

/-- The decimal exponent of the leading digit, counted from a guess that is at most two too low. -/
def leadingExponent (r : Ratio) : Int :=
  let bits : Int := (Nat.log2 r.num : Int) - (Nat.log2 r.den : Int)
  let guess := bits * 30103 / 100000 - 1
  let reaches (k : Int) : Bool := let s := r.unscale k; s.den ≤ s.num
  if reaches (guess + 2) then guess + 2 else if reaches (guess + 1) then guess + 1 else guess

/-- The interval of numbers that round to `mantissa · 2 ^ exponent`: four times both ends and the
middle share the exponent `exponent - 2`.  The lower half of the interval is shorter where the
mantissa is the least one of its binade.  The ends belong to it when the mantissa is even. -/
structure Interval where
  low : Nat
  middle : Nat
  high : Nat
  closed : Bool

def Interval.ofBinary (m : Nat) (q : Int) : Interval :=
  let narrow := m == twoTo 52 && Binary.leastExponent < q
  ⟨4 * m - (if narrow then 1 else 2), 4 * m, 4 * m + 2, m % 2 == 0⟩

/-- Whether `n · 10 ^ k` lies in the interval whose numbers count in `2 ^ q`. -/
def Interval.contains (i : Interval) (q k : Int) (n : Nat) : Bool :=
  let unit := (Ratio.ofBinary 1 q).unscale k
  let point := n * unit.den
  let low := i.low * unit.num
  let high := i.high * unit.num
  if i.closed then low ≤ point && point ≤ high else low < point && point < high

/-- The neighbour of a number on the grid `10 ^ k` that lies in the interval, if any; of two the
nearer, and `tie` decides between equally near ones. -/
def nearest? (tie : Tie) (i : Interval) (q k : Int) : Option Nat :=
  let r := (Ratio.ofBinary i.middle q).unscale k
  let below := r.num / r.den
  let above := below + 1
  let twice := 2 * (r.num % r.den)
  match i.contains q k below && below != 0, i.contains q k above with
  | false, false => none
  | true, false => some below
  | false, true => some above
  | true, true =>
    if twice < r.den then some below
    else if r.den < twice then some above
    else match tie with
      | .up => some above
      | .even => some (if below % 2 = 0 then below else above)

/-- The first count of digits, from `count` on and at most `more` further ones, that reads back. -/
def search (tie : Tie) (i : Interval) (q lead : Int) (count : Nat) : Nat → Decimal
  | 0 => ⟨0, 0⟩
  | more + 1 =>
    let k := lead + 1 - count
    match nearest? tie i q k with
    | some n => ⟨n, k⟩
    | none => search tie i q lead (count + 1) more

def trim : Nat → Decimal → Decimal
  | 0, d => d
  | fuel + 1, d => if d.digits % 10 = 0 ∧ d.digits ≠ 0 then trim fuel ⟨d.digits / 10, d.scale + 1⟩ else d

/-- The shortest decimal that rounds to `m · 2 ^ q`, and the nearest of those. -/
def shortest (tie : Tie) (m : Nat) (q : Int) : Decimal :=
  if m = 0 then ⟨0, 0⟩ else
    let lead := leadingExponent (Ratio.ofBinary m q)
    trim 18 (search tie (Interval.ofBinary m q) (q - 2) lead 1 18)

end Decimal

end Grimoire
