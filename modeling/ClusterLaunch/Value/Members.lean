import ClusterLaunch.Value.Scalar

/-! # The members of a set

A set of numbers keeps each at a place of its own and shows them from place to place. A number
goes to the place of its residue, or to the first free one of those that are tried after it. Other
members have no residue, and a set with one of them keeps the order in which it was written.
-/

namespace ClusterLaunch.Members

/-- The modulus of the residues. -/
def modulus : Nat := Nat.pow 2 61 - 1

/-- A number below zero takes the residue of its magnitude, counted back from here. -/
def wordSize : Nat := Nat.pow 2 64

/-- A residue with a sign, the residue one below zero being read as two. -/
def signed (negative : Bool) (residue : Nat) : Nat :=
  if negative && residue ≠ 0 then wordSize - max residue 2 else residue

/-- The residue of `m * 2 ^ e`. A power of two by 61 is one modulo the modulus. -/
def ofProduct (m : Nat) (e : Int) : Nat := m * Nat.pow 2 (e % 61).toNat % modulus

def ofInfinity : Nat := 314159

/-- The residue of a number: equal ones have equal residues whatever their type. -/
def residue? : Scalar → Option Nat
  | .flag b => some b.toNat
  | .integer n => some (signed (n < 0) (ofProduct n.natAbs 0))
  | .number x _ => match Decimal.Shape.ofFloat x with
    | .finite negative m e => some (signed negative (ofProduct m e))
    | .infinite negative => some (signed negative ofInfinity)
    | .nan => none
  | _ => none

/-- How many places a set has: eight for up to four members, else the least power of two above
twice their number. -/
def places (members : Nat) : Nat :=
  if members ≤ 4 then 8 else Nat.pow 2 ((2 * members).log2 + 1)

/-- The first free place among those that are tried. A place is tried together with the nine after
it, if there are as many. The jump to the next one takes in five more bits of the residue each
time; when all are used up the jumps reach every place. The fuel bounds the jumps. -/
def freePlace (places : Nat) (taken : Nat → Bool) : Nat → Nat → Nat → Nat
  | 0, place, _ => place
  | fuel + 1, place, residue =>
    let run := if place + 9 < places then 10 else 1
    match (List.range' place run).find? (!taken ·) with
    | some free => free
    | none =>
      freePlace places taken fuel ((5 * place + 1 + residue / 32) % places) (residue / 32)

def put (places : Nat) (table : List (Nat × Scalar)) (member : Scalar × Nat) :
    List (Nat × Scalar) :=
  let (s, residue) := member
  let taken (place : Nat) : Bool := table.any (·.1 = place)
  (freePlace places taken (places + 14) (residue % places) residue, s) :: table

/-- The members of a set in the order in which they are shown. -/
def inOrder (members : List Scalar) : List Scalar :=
  match members.mapM fun s => (residue? s).map (s, ·) with
  | some numbers =>
    let table := numbers.foldl (put (places numbers.length)) []
    (table.mergeSort fun a b => a.1 ≤ b.1).map (·.2)
  | none => members

end ClusterLaunch.Members
