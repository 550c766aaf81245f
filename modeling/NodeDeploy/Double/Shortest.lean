import NodeDeploy.Double.Basic

/-! # Shortest decimals

Of the decimals that round to a double, the one with the fewest digits stands for it; of two of them
the nearer one, and of two equally near ones the even one.

* `Double.readsBack` says which decimals round to a double;
* `Double.shortest` finds the decimal that stands for it;
* `Double.readsBack_of_onGrid?`: what is found on a grid of decimals rounds to the double.
-/

namespace NodeDeploy

/-- A decimal: `digits · 10^exponent`. -/
structure Decimal where
  digits : Nat
  exponent : Int
  deriving DecidableEq, Repr, Inhabited

namespace Double

/-- The lower end of the reals that round to a double, in quarters of its unit. Below a power of two
the doubles lie twice as close. -/
def lowerEnd (x : Double) : Nat :=
  if x.significand = twoTo 52 ∧ leastExponent < x.exponent then 4 * x.significand - 1
  else 4 * x.significand - 2

def upperEnd (x : Double) : Nat := 4 * x.significand + 2

/-- Whether a decimal rounds to a double, its sign aside. The ends round to an even significand. -/
def readsBack (x : Double) (d : Decimal) : Bool :=
  let e := x.exponent - 2
  let unit := twoTo e * tenTo (-d.exponent)
  let value := d.digits * tenTo d.exponent * twoTo (-e)
  if x.significand % 2 = 0 then x.lowerEnd * unit ≤ value && value ≤ x.upperEnd * unit
  else x.lowerEnd * unit < value && value < x.upperEnd * unit

/-- The multiple of `10^e` that stands for a double, if one rounds to it. -/
def onGrid? (x : Double) (e : Int) : Option Decimal :=
  let num := x.significand * twoTo x.exponent * tenTo (-e)
  let den := twoTo (-x.exponent) * tenTo e
  let below := num / den
  let near := nearestWhole num den
  if x.readsBack ⟨near, e⟩ then some ⟨near, e⟩
  else if x.readsBack ⟨below, e⟩ then some ⟨below, e⟩
  else if x.readsBack ⟨below + 1, e⟩ then some ⟨below + 1, e⟩
  else none

theorem readsBack_of_onGrid? {x : Double} {e : Int} {d : Decimal} (h : x.onGrid? e = some d) :
    x.readsBack d = true := by
  simp only [onGrid?] at h
  split at h
  · simp_all
  · split at h
    · simp_all
    · split at h
      · simp_all
      · simp at h

def exact (x : Double) : Decimal :=
  ⟨x.significand * twoTo x.exponent * Nat.pow 5 (-x.exponent).toNat, min x.exponent 0⟩

def search (x : Double) (e : Int) : Nat → Decimal
  | 0 => x.exact
  | steps + 1 =>
    match x.onGrid? e with
    | some d => d
    | none => x.search (e - 1) steps

/-- The decimal that stands for a double, its sign aside. No more than seventeen digits are needed,
and the binary digits tell the first grid to look at, but for a few steps. -/
def shortest (x : Double) : Decimal :=
  x.search (((x.significand.log2 : Int) + x.exponent + 1) * 30103 / 100000 + 1) 24

end Double

end NodeDeploy
