import ClusterLaunch.Decimal.Integer
import ClusterLaunch.Text.Lowercase
import ClusterLaunch.Yaml.Basic

/-! # Numbers of a document

Underscores in a number mean nothing. An integer is binary, octal or hexadecimal by how it
begins; numbers with colons count sixtieths.
-/

namespace ClusterLaunch.Yaml.Numeral

def integer (base : Nat) (s : List Char) : Except Error Int :=
  match Decimal.integer? base s with
  | some n => .ok n
  | none => .error .numeral

/-- Sixtieths in the order of their weight: each place counts sixty times the one after it. -/
def sixtieths (parts : List Int) : Int := parts.foldl (fun n part => 60 * n + part) 0

def signed (s : List Char) : Except Error (Bool × List Char) :=
  match s.filter (· ≠ '_') with
  | [] => .error .emptyNumeral
  | '-' :: t => .ok (true, t)
  | '+' :: t => .ok (false, t)
  | t => .ok (false, t)

def int (s : List Char) : Except Error Int := do
  let (negative, s) ← signed s
  let n ← match s with
    | [] => throw .emptyNumeral
    | ['0'] => pure 0
    | '0' :: 'b' :: ds => integer 2 ds
    | '0' :: 'x' :: ds => integer 16 ds
    | '0' :: _ => integer 8 s
    | _ =>
      if ':' ∈ s then do
        let parts ← (Text.fields ':' s).mapM (integer 10)
        pure (sixtieths parts)
      else integer 10 s
  return if negative then -n else n

def double (s : List Char) : Except Error Float :=
  match Decimal.ofText? s with
  | some x => .ok x
  | none => .error .numeral

/-- The sum of doubles weighted by powers of sixty, the last part first. -/
def weigh : List Float → Nat → Float → Except Error Float
  | [], _, sum => .ok sum
  | x :: more, weight, sum =>
    match Decimal.ofInt? weight with
    | some w => weigh more (60 * weight) (sum + x * w)
    | none => .error .range

/-- The double that a text denotes, and whether it was given by the word for the undefined one. -/
def float (s : List Char) : Except Error (Float × Bool) := do
  let (negative, s) ← signed (Text.lower s)
  if s = ['.', 'n', 'a', 'n'] then return (0.0 / 0.0, true)
  let x ←
    if s = ['.', 'i', 'n', 'f'] then pure (1.0 / 0.0)
    else if ':' ∈ s then do
      let parts ← (Text.fields ':' s).mapM double
      weigh parts.reverse 1 0.0
    else double s
  return (if negative then -1.0 * x else x, false)

end ClusterLaunch.Yaml.Numeral
