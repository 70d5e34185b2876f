import Grimoire.Number.Shortest

/-! # Written numbers

A number is written from its shortest digits; what is left to decide is the layout.  The library
writes numbers in two layouts: `Layout.plain` in messages, which is always positional, and
`Layout.document` in JSON text, which changes to an exponent outside a range.
-/

namespace Grimoire

/-- The decisions that turn digits into text. -/
structure Layout where
  /-- Which of two equally near shortest decimals is written. -/
  tie : Decimal.Tie
  /-- The exponents of the leading digit for which the number is written positionally;
  `none` when it always is. -/
  positional : Option (Int × Int)
  /-- Whether a whole number ends in `.0`. -/
  pointZero : Bool
  deriving Repr

namespace Layout

/-- Messages show numbers positionally, without a fraction where there is none, and a tie goes up. -/
def plain : Layout := ⟨.up, none, false⟩

/-- Documents show numbers from `0.00001` to below `10 ^ 16` positionally and with a fraction, others
with an exponent, and a tie goes to the even digit. -/
def document : Layout := ⟨.even, some (-5, 15), true⟩

def digitsOf (n : Nat) : List Char := Nat.toDigits 10 n

def positionalText (pointZero : Bool) (d : Decimal) : List Char :=
  let ds := digitsOf d.digits
  if 0 ≤ d.scale then
    ds ++ List.replicate d.scale.toNat '0' ++ (if pointZero then ['.', '0'] else [])
  else
    let places := (-d.scale).toNat
    if places < ds.length then ds.take (ds.length - places) ++ '.' :: ds.drop (ds.length - places)
    else ['0', '.'] ++ List.replicate (places - ds.length) '0' ++ ds

/-- Text with an exponent: one digit before the point, and a sign before every exponent. -/
def exponentText (lead : Int) (d : Decimal) : List Char :=
  let mantissa := match digitsOf d.digits with
    | first :: second :: rest => first :: '.' :: second :: rest
    | short => short
  mantissa ++ ['e', if lead < 0 then '-' else '+'] ++ digitsOf lead.natAbs

def magnitudeText (layout : Layout) (d : Decimal) : List Char :=
  let lead := d.scale + (digitsOf d.digits).length - 1
  match layout.positional with
  | none => positionalText layout.pointZero d
  | some (low, high) =>
    if low ≤ lead ∧ lead ≤ high then positionalText layout.pointZero d else exponentText lead d

/-- The text of a double; a number that is not finite is `inf`, `-inf` or `NaN`. -/
def write (layout : Layout) (x : Float) : String :=
  match Binary.ofFloat? x with
  | none => if x.isNaN then "NaN" else if x < 0 then "-inf" else "inf"
  | some d =>
    let text := magnitudeText layout (Decimal.shortest layout.tie d.mantissa d.exponent)
    String.ofList (if d.negative then '-' :: text else text)

end Layout

end Grimoire
