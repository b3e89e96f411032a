import ClusterLaunch.Decimal.Layout
import ClusterLaunch.Text.Quoted
import ClusterLaunch.Value.Calendar

/-! # Scalars

The values without parts. They are the keys of mappings and the members of sets, so it matters
which of them are the same.
-/

namespace ClusterLaunch

/-- A value without parts. -/
inductive Scalar where
  | null
  | flag (b : Bool)
  | integer (n : Int)
  /-- A double. The origin tells undefined numbers apart and means nothing for others. -/
  | number (x : Float) (origin : Nat)
  | text (s : String)
  | bytes (bs : List UInt8)
  | date (d : Date)
  | moment (m : Moment)
  deriving Inhabited

namespace Scalar

/-- Whether two scalars are the same key: numbers by value whatever their type, with the flags
counting as 1 and 0, all else by type and content. An undefined number is the same as those of
its own origin only. -/
def sameKey : Scalar → Scalar → Bool
  | null, null => true
  | text a, text b => a == b
  | bytes a, bytes b => a == b
  | date a, date b => a == b
  | moment a, moment b => a.same b
  | a, b => match numeric a, numeric b with
    | some (.inl m), some (.inl n) => m == n
    | some (.inl m), some (.inr (x, _)) => Decimal.toInt? x == some m
    | some (.inr (x, _)), some (.inl m) => Decimal.toInt? x == some m
    | some (.inr (x, i)), some (.inr (y, j)) => x == y || (x.isNaN && y.isNaN && i == j)
    | _, _ => false
where
  numeric : Scalar → Option (Int ⊕ Float × Nat)
    | flag b => some (.inl (if b then 1 else 0))
    | integer n => some (.inl n)
    | number x origin => some (.inr (x, origin))
    | _ => none

def escapedByte (quote : Char) (b : UInt8) : List Char :=
  let c := Char.ofNat b.toNat
  if b.toNat < 127 then Text.escaped quote c else Text.codeEscape b.toNat

/-- Bytes between quotes, marked by a letter. -/
def quotedBytes (bs : List UInt8) : String :=
  let quote := Text.quoteFor (bs.map fun b => Char.ofNat b.toNat)
  String.ofList ('b' :: quote :: bs.flatMap (escapedByte quote) ++ [quote])

/-- A scalar as it stands in a collection or in a message. -/
def shown : Scalar → String
  | null => "None"
  | flag true => "True"
  | flag false => "False"
  | integer n => toString n
  | number x _ => Decimal.text x
  | text s => Text.quoted s
  | bytes bs => quotedBytes bs
  | date d => d.shown
  | moment m => m.shown

def toText : Scalar → String
  | text s => s
  | date d => d.text
  | moment m => m.text
  | s => s.shown

/-- Whether a scalar can be written out: an integer has at most 4300 decimal digits. -/
def isWritable : Scalar → Bool
  | integer n => n.natAbs < Nat.pow 10 4300
  | _ => true

/-- Put an entry into a mapping. A key that is there keeps its place and its own form. -/
def insert {α : Type} (key : Scalar) (value : α) : List (Scalar × α) → List (Scalar × α)
  | [] => [(key, value)]
  | (k, v) :: rest =>
    if k.sameKey key then (k, value) :: rest else (k, v) :: insert key value rest

end Scalar

end ClusterLaunch
