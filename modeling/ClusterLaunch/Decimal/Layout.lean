import ClusterLaunch.Decimal.Shortest

/-! # Written doubles

The layout of a decimal: positional for exponents in a middle range, otherwise one digit before
the point and an exponent with a sign and at least two digits. Two layouts are in use, one that
reads back and one with six digits.
-/

namespace ClusterLaunch.Decimal

/-- The choices that a written form leaves open. -/
structure Layout where
  /-- Exponents from here on are written out. -/
  positionalBelow : Int
  /-- Whether an integer keeps a point and a zero. -/
  keepsPoint : Bool
  deriving Repr, DecidableEq

/-- The layout of a double that reads back. -/
def Layout.full : Layout := ⟨16, true⟩

/-- The layout of a double with six digits. -/
def Layout.brief : Layout := ⟨6, false⟩

def trimmedDigits (n : Nat) : List Char :=
  match ((Nat.toDigits 10 n).reverse.dropWhile (· == '0')).reverse with
  | [] => ['0']
  | ds => ds

/-- An exponent with its sign and at least two digits. -/
def exponentDigits (e : Int) : List Char :=
  let ds := Nat.toDigits 10 e.natAbs
  (if e < 0 then '-' else '+') :: (if ds.length < 2 then '0' :: ds else ds)

/-- The digits `ds` with the point after the first `point` of them. -/
def Layout.place (l : Layout) (ds : List Char) (point : Int) : List Char :=
  if -4 < point ∧ point ≤ l.positionalBelow then
    if point ≤ 0 then '0' :: '.' :: List.replicate (-point).toNat '0' ++ ds
    else if ds.length ≤ point.toNat then
      ds ++ List.replicate (point.toNat - ds.length) '0' ++
        (if l.keepsPoint then ['.', '0'] else [])
    else ds.take point.toNat ++ '.' :: ds.drop point.toNat
  else
    ds.take 1 ++ (if ds.length = 1 then [] else '.' :: ds.drop 1) ++
      'e' :: exponentDigits (point - 1)

def Layout.write (l : Layout) (d : Scientific) : List Char :=
  if d.digits = 0 then l.place ['0'] 1
  else l.place (trimmedDigits d.digits) ((Nat.toDigits 10 d.digits).length + d.exponent)

/-- The written form of a double whose finite magnitudes go through `round`. -/
def Layout.text (l : Layout) (round : Nat → Int → Scientific) (x : Float) : String :=
  let signed (negative : Bool) (s : List Char) := String.ofList (if negative then '-' :: s else s)
  match Shape.ofFloat x with
  | .finite negative m e => signed negative (l.write (round m e))
  | .infinite negative => signed negative ['i', 'n', 'f']
  | .nan => "nan"

/-- The shortest text that reads back as a double. -/
def text (x : Float) : String := Layout.full.text shortest x

/-- The text of a double with at most six digits. -/
def briefText (x : Float) : String := Layout.brief.text (significant 6) x

end ClusterLaunch.Decimal
