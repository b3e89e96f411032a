import ClusterLaunch.Decimal.Reader
import ClusterLaunch.Text.Basic

/-! # Reading integers

An integer has an optional sign and digits of its base, with single underscores between them. In
a base that is a power of two its mark may stand in front: a zero and a letter. Blanks around it
are dropped, and the digits of every script count.
-/

namespace ClusterLaunch.Decimal

def digit? (base : Nat) (c : Char) : Option Nat :=
  let n :=
    if c.isDigit then c.toNat - '0'.toNat
    else if 'a' ≤ c ∧ c ≤ 'f' then c.toNat - 'a'.toNat + 10
    else if 'A' ≤ c ∧ c ≤ 'F' then c.toNat - 'A'.toNat + 10
    else base
  if n < base then some n else none

/-- The longest numeral that is read in base ten. -/
def maxDigits : Nat := 4300

def natural? (base : Nat) (ds : List Char) : Option Nat :=
  if ds.isEmpty || (base = 10 && maxDigits < ds.length) then none
  else ds.foldl (fun n? c => do return base * (← n?) + (← digit? base c)) (some 0)

/-- The base that a letter after a zero marks. -/
def markedBase? (c : Char) : Option Nat :=
  match c.toLower with
  | 'x' => some 16
  | 'o' => some 8
  | 'b' => some 2
  | _ => none

/-- The digits of a number, with single underscores between them dropped. -/
def plainDigits? (s : List Char) : Option (List Char) :=
  let fields := Text.fields '_' s
  if fields.any List.isEmpty then none else some fields.flatten

/-- The digits after a mark; one underscore may follow it. -/
def markedDigits? : List Char → Option (List Char)
  | '_' :: s => plainDigits? s
  | s => plainDigits? s

/-- Without blanks around it and with ASCII digits, the sign of a number and the rest. -/
def signAndRest (s : List Char) : Bool × List Char :=
  match (Text.stripWhile surroundsNumber s).map plainDigit with
  | '-' :: t => (true, t)
  | '+' :: t => (false, t)
  | t => (false, t)

/-- The integer that a text writes in some base, whose mark may stand in front. -/
def integer? (base : Nat) (s : List Char) : Option Int := do
  let (negative, s) := signAndRest s
  let ds ← match s with
    | '0' :: c :: t => if markedBase? c = some base then markedDigits? t else plainDigits? s
    | _ => plainDigits? s
  let n ← natural? base ds
  return if negative then -(n : Int) else n

def markedInteger? (s : List Char) : Option Int :=
  match (signAndRest s).2 with
  | '0' :: c :: _ => (markedBase? c).bind fun base => integer? base s
  | _ => none

end ClusterLaunch.Decimal
