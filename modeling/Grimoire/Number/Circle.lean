import Grimoire.Number.Root

/-! # Angles

Sine, cosine and arc cosine of doubles, each the double nearest to the exact value.  The values are
computed in fixed point with so many bits that the error is far below the distance of any value from
a tie: an argument is first reduced by whole quarter turns, with as many more bits of `π` as the
argument has before its binary point, and the series then run until their terms vanish.
-/

namespace Grimoire

namespace Circle

/-- The terms `t / i`, `-(t / k²) / (i + 2)`, … of an arc tangent, added up. -/
def arcTanTerms (square : Nat) : Nat → Nat → Nat → Int
  | 0, _, _ => 0
  | fuel + 1, t, i => if t = 0 then 0 else (t / i : Nat) - arcTanTerms square fuel (t / square) (i + 2)

def arcTanInverse (k p : Nat) : Int := arcTanTerms (k * k) (p + 1) (twoTo p / k) 1

def pi (p : Nat) : Nat :=
  ((16 * arcTanInverse 5 (p + 16) - 4 * arcTanInverse 239 (p + 16)) / twoTo 16).toNat

/-- The terms of a sine or cosine series: each is the last one times `r² / ((i + 1) (i + 2))`, all in
units of `2 ^ -p`, with alternating signs. -/
def waveTerms (p r : Nat) : Nat → Nat → Nat → Int
  | 0, _, _ => 0
  | fuel + 1, t, i =>
    if t = 0 then 0
    else t - waveTerms p r fuel (t * r / twoTo p * r / twoTo p / ((i + 1) * (i + 2))) (i + 2)

/-- The sine of an angle of the first quarter turn, in units of `2 ^ -p`. -/
def sinFirst (p r : Nat) : Nat := (waveTerms p r p r 1).toNat

/-- The cosine of an angle of the first quarter turn, in units of `2 ^ -p`. -/
def cosFirst (p r : Nat) : Nat := (waveTerms p r p (twoTo p) 0).toNat

/-- The bits after the binary point that the series are computed with. -/
def basePrecision : Nat := 320

/-- Arguments below `2 ^ -27` are so small that their sine is the argument and their cosine is one. -/
def isTiny (d : Binary) : Bool := d.mantissa = 0 || d.exponent + (Nat.log2 d.mantissa : Int) < -27

/-- The sine of an angle that is `turns` quarter turns ahead of `d`, for `d` that is not tiny. -/
def wave (d : Binary) (turns : Nat) : Float :=
  let p := basePrecision + (d.exponent + 53).toNat
  let angle := d.mantissa * twoTo (d.exponent + p).toNat
  let quarter := pi p / 2
  let quadrant := if d.negative then turns + 4 - (angle / quarter) % 4 - 1 else turns + angle / quarter
  let inside := if d.negative then quarter - angle % quarter else angle % quarter
  let value := if quadrant % 2 = 0 then sinFirst p inside else cosFirst p inside
  Binary.round (Binary.withSticky ⟨quadrant % 4 ≥ 2, value, -p⟩ true)

def sin (x : Float) : Float :=
  match Binary.ofFloat? x with
  | none => 0.0 / 0.0
  | some d => if isTiny d then x else wave d 0

def cos (x : Float) : Float :=
  match Binary.ofFloat? x with
  | none => 0.0 / 0.0
  | some d => if isTiny d then 1.0 else wave d 1

/-- Halves the angle of a tangent `z`, in units of `2 ^ -p`: `z / (1 + √(1 + z²))`. -/
def halveTangent (p z : Nat) : Nat :=
  z * twoTo p / (twoTo p + Root.floorRoot (twoTo (2 * p) + z * z))

/-- The powers `t`, `-t z²`, … of an arc tangent series over the odd numbers, added up. -/
def powerTerms (p z : Nat) : Nat → Nat → Nat → Int
  | 0, _, _ => 0
  | fuel + 1, t, i =>
    if t = 0 then 0
    else (t / i : Nat) - powerTerms p z fuel (t * z / twoTo p * z / twoTo p) (i + 2)

/-- The arc tangent of `z`, in units of `2 ^ -p`: five halvings bring the tangent below `1 / 16`. -/
def arcTan (p z : Nat) : Nat :=
  let small := halveTangent p (halveTangent p (halveTangent p (halveTangent p (halveTangent p z))))
  32 * (powerTerms p small p small 1).toNat

/-- The angle in radians whose cosine is `x`; there is none outside `[-1, 1]`. -/
def arcCos (x : Float) : Float :=
  match Binary.ofFloat? x with
  | none => 0.0 / 0.0
  | some d =>
    let p := basePrecision
    let one := twoTo 1074
    let side := d.mantissa * twoTo (d.exponent + 1074).toNat
    if one < side then 0.0 / 0.0
    else if side = one then
      if d.negative then Binary.round (Binary.withSticky ⟨false, pi p, -p⟩ true) else 0.0
    else
      let (less, more) := if d.negative then (one + side, one - side) else (one - side, one + side)
      let z := Root.floorRoot (less * twoTo (2 * p) / more)
      Binary.round (Binary.withSticky ⟨false, 2 * arcTan p z, -p⟩ true)

end Circle

end Grimoire
