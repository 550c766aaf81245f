/-! # Doubles

A double is a whole number of at most 53 binary digits, scaled by a power of two. A product or
quotient of doubles is the double nearest to the exact one; of two that are equally near it is the
even one.

* `Double.round?` is the double nearest to a fraction, none if the fraction is too large;
* `Double.nearestWhole_near` and `Double.nearestWhole_tie`: a quotient is rounded by half a unit at
  most, and to an even number where it lies in the middle;
* `Double.scale?` is the product with a power of ten.
-/

namespace NodeDeploy

/-- A finite double: `± significand · 2^exponent`. Zero has a sign as well. -/
structure Double where
  negative : Bool
  significand : Nat
  exponent : Int
  deriving DecidableEq, Repr, Inhabited

namespace Double

/-- The whole number nearest to a quotient, the even one of two. -/
def nearestWhole (num den : Nat) : Nat :=
  let whole := num / den
  let twice := 2 * (num % den)
  if twice < den then whole else if den < twice then whole + 1 else whole + whole % 2

theorem nearestWhole_near (num : Nat) {den : Nat} (h : 0 < den) :
    2 * (den * nearestWhole num den) ≤ 2 * num + den ∧
      2 * num ≤ 2 * (den * nearestWhole num den) + den := by
  have hd := Nat.div_add_mod num den
  have hm := Nat.mod_lt num h
  rw [nearestWhole]
  split
  · omega
  · split
    · rw [Nat.mul_add]
      omega
    · rw [Nat.mul_add]
      rcases Nat.mod_two_eq_zero_or_one (num / den) with hw | hw <;> rw [hw] <;> omega

theorem nearestWhole_tie {num den : Nat} (h : 2 * (num % den) = den) :
    nearestWhole num den % 2 = 0 := by
  simp only [nearestWhole, h, Nat.lt_irrefl, ite_false]
  omega

/-- `2^e`, or one where the exponent is negative. -/
def twoTo (e : Int) : Nat := Nat.pow 2 e.toNat

/-- `10^e`, or one where the exponent is negative. -/
def tenTo (e : Int) : Nat := Nat.pow 10 e.toNat

def leastExponent : Int := -1074

def greatestExponent : Int := 971

/-- The double nearest to `± num / den`, where the denominator is positive. -/
def round? (negative : Bool) (num den : Nat) : Option Double :=
  if num = 0 then some ⟨negative, 0, leastExponent⟩
  else
    let scaled (e : Int) := (num * twoTo (-e), den * twoTo e)
    let least := max ((num.log2 : Int) - den.log2 - 53) leastExponent
    let e := if (scaled least).1 / (scaled least).2 < twoTo 53 then least else least + 1
    let s := nearestWhole (scaled e).1 (scaled e).2
    let x : Double := if s = twoTo 53 then ⟨negative, twoTo 52, e + 1⟩ else ⟨negative, s, e⟩
    if greatestExponent < x.exponent then none else some x

def mul? (x y : Double) : Option Double :=
  let e := x.exponent + y.exponent
  round? (x.negative != y.negative) (x.significand * y.significand * twoTo e)
    (twoTo (-e))

def div? (x y : Double) : Option Double :=
  let e := x.exponent - y.exponent
  round? (x.negative != y.negative) (x.significand * twoTo e)
    (y.significand * twoTo (-e))

def powerOfTen? (e : Int) : Option Double := round? false (tenTo e) 1

def greatestPower : Int := 308

/-- `x · 10^e`, where `x` is no more than 64 bits tell. The power is rounded first, and one that is
too small for a double is taken in two steps, behind which nothing is left. -/
def scale? (x : Double) (e : Int) : Option Double :=
  if x.significand = 0 then some x
  else if greatestPower < e then none
  else if 0 ≤ e then (powerOfTen? e).bind x.mul?
  else if -e ≤ greatestPower then (powerOfTen? (-e)).bind x.div?
  else if -e ≤ 2 * greatestPower then do
    let y ← x.div? (← powerOfTen? greatestPower)
    y.div? (← powerOfTen? (-e - greatestPower))
  else some ⟨x.negative, 0, leastExponent⟩

end Double

end NodeDeploy
