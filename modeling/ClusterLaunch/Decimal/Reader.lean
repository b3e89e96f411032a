import ClusterLaunch.Decimal.Binary
import ClusterLaunch.Text.Basic

/-! # Reading doubles

A number has an optional sign, digits with an optional point, and an optional exponent. Blanks
around it are dropped, the digits of every script count, and one underscore may stand between
two digits. Infinity and the undefined value have names in any letter case.
-/

namespace ClusterLaunch.Decimal

/-- Blanks that may surround a number: all but the information separators. -/
def surroundsNumber (c : Char) : Bool :=
  Text.isBlank c && !(0x1c ≤ c.toNat && c.toNat ≤ 0x1f)

/-- Replace the digits of every script by the ASCII ones. -/
def plainDigit (c : Char) : Char :=
  match Text.digitValue? c with
  | some n => Nat.digitChar n
  | none => c

/-- Drop single underscores between two digits; any other underscore is refused. -/
def dropUnderscores : List Char → Option (List Char)
  | [] => some []
  | ['_'] => none
  | '_' :: _ :: _ => none
  | [c] => some [c]
  | c :: '_' :: d :: rest =>
    if c.isDigit && d.isDigit then (dropUnderscores (d :: rest)).map (c :: ·) else none
  | c :: d :: rest => (dropUnderscores (d :: rest)).map (c :: ·)

/-- The double nearest to `digits * 10 ^ exponent`. Decimals far beyond the largest double or
below half the smallest are not computed. -/
def ofDecimal (digits : Nat) (exponent : Int) : Float :=
  let size : Int := (Nat.toDigits 10 digits).length + exponent
  if digits = 0 ∨ size < -330 then 0.0
  else if 310 < size then nearest (Nat.pow 10 310) 1
  else if 0 ≤ exponent then nearest (digits * Nat.pow 10 exponent.toNat) 1
  else nearest digits (Nat.pow 10 (-exponent).toNat)

/-- An exponent: nothing, or a letter, an optional sign and digits. -/
def exponentOf? : List Char → Option Int
  | [] => some 0
  | e :: rest =>
    if e ≠ 'e' ∧ e ≠ 'E' then none
    else
      let (negative, ds) := match rest with
        | '-' :: ds => (true, ds)
        | '+' :: ds => (false, ds)
        | ds => (false, ds)
      if ds.isEmpty || !ds.all Char.isDigit then none
      else some (if negative then -(Text.number ds) else Text.number ds)

def unsigned? (s : List Char) : Option Float :=
  match s.map Char.toLower with
  | ['i', 'n', 'f'] | ['i', 'n', 'f', 'i', 'n', 'i', 't', 'y'] => some (1.0 / 0.0)
  | ['n', 'a', 'n'] => some (0.0 / 0.0)
  | _ =>
    let whole := s.takeWhile Char.isDigit
    let (part, rest) := match s.dropWhile Char.isDigit with
      | '.' :: t => (t.takeWhile Char.isDigit, t.dropWhile Char.isDigit)
      | t => ([], t)
    if whole.isEmpty && part.isEmpty then none
    else (exponentOf? rest).map fun e => ofDecimal (Text.number (whole ++ part)) (e - part.length)

def ofText? (s : List Char) : Option Float := do
  let s ← dropUnderscores ((Text.stripWhile surroundsNumber s).map plainDigit)
  match s with
  | '-' :: t => (unsigned? t).map (- ·)
  | '+' :: t => unsigned? t
  | t => unsigned? t

/-- The double that bytes denote as ASCII text. -/
def ofBytes? (bs : List UInt8) : Option Float :=
  if bs.all (· < 128) then ofText? (bs.map fun b => Char.ofNat b.toNat) else none

end ClusterLaunch.Decimal
