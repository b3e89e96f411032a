import ClusterLaunch.Decimal.Binary

/-! # Shortest decimal digits

The decimal of fewest digits that reads back as a given double, and the one that has a given
number of digits. All arithmetic is on exact fractions.
-/

namespace ClusterLaunch.Decimal

/-- The decimal `digits * 10 ^ exponent`. -/
structure Scientific where
  digits : Nat
  exponent : Int
  deriving Repr, DecidableEq

/-- The fraction `num / den` in units of `10 ^ e`. -/
def inTens (num den : Nat) (e : Int) : Nat × Nat :=
  if 0 ≤ e then (num, den * Nat.pow 10 e.toNat) else (num * Nat.pow 10 (-e).toNat, den)

/-- The first exponent from `e` on whose power of ten exceeds `num / den`. -/
def climb (num den : Nat) : Nat → Int → Int
  | 0, e => e
  | steps + 1, e =>
    let (n, d) := inTens num den e
    if n < d then e else climb num den steps (e + 1)

/-- How many digits `m * 2 ^ e` has before the point, negative for zeros after it. -/
def magnitude (m : Nat) (e : Int) : Int :=
  let (n, d) := fraction m e
  climb n d 4 ((((m.log2 : Int) + e) * 30103).fdiv 100000 - 1)

/-- Whether a decimal reads back as the double `m * 2 ^ e`. The interval of the reals nearest to
the double reaches half a place up, and half a place down or a quarter at a power of two; its
ends belong to it when the mantissa is even. -/
def readsBack (m : Nat) (e : Int) (d : Scientific) : Bool :=
  let below := if m = Nat.pow 2 52 ∧ e ≠ -1074 then 4 * m - 1 else 4 * m - 2
  let (lowNum, lowDen) := fraction below (e - 2)
  let (highNum, highDen) := fraction (4 * m + 2) (e - 2)
  let (num, den) := if 0 ≤ d.exponent then (d.digits * Nat.pow 10 d.exponent.toNat, 1)
    else (d.digits, Nat.pow 10 (-d.exponent).toNat)
  if m % 2 = 0 then lowNum * den ≤ num * lowDen && num * highDen ≤ highNum * den
  else lowNum * den < num * lowDen && num * highDen < highNum * den

/-- The decimal of a grid nearest to `m * 2 ^ e`, halves to the even one. -/
def onGrid (m : Nat) (e place : Int) : Scientific :=
  let (n, d) := fraction m e
  let (num, den) := inTens n d place
  ⟨roundDiv num den, place⟩

/-- The two decimals of a grid next to `m * 2 ^ e`, the nearer one first, the even one of a tie. -/
def neighbours (m : Nat) (e place : Int) : List Scientific :=
  let (n, d) := fraction m e
  let (num, den) := inTens n d place
  let floor := num / den
  if roundDiv num den = floor then [⟨floor, place⟩, ⟨floor + 1, place⟩]
  else [⟨floor + 1, place⟩, ⟨floor, place⟩]

/-- The nearest decimal that reads back, on the first grid that has one. -/
def search (m : Nat) (e : Int) : Nat → Int → Scientific
  | 0, place => onGrid m e place
  | grids + 1, place =>
    match (neighbours m e place).find? (readsBack m e) with
    | some d => d
    | none => search m e grids (place - 1)

def shortest (m : Nat) (e : Int) : Scientific :=
  if m = 0 then ⟨0, 0⟩
  else
    search m e 16 (magnitude m e - 1)

/-- The decimal with `places` digits nearest to `m * 2 ^ e`, halves to the even one. -/
def significant (places : Nat) (m : Nat) (e : Int) : Scientific :=
  if m = 0 then ⟨0, 0⟩ else onGrid m e (magnitude m e - places)

end ClusterLaunch.Decimal
