import ClusterLaunch.Text.Basic

/-! # IPv4 addresses

An address is a number of 32 bits, written as four octets with dots between them. An octet has
at most three ASCII digits and no leading zero.
-/

namespace ClusterLaunch.Network

/-- An IPv4 address, a number below `2 ^ 32`. -/
structure Address where
  toNat : Nat
  toNat_lt : toNat < 4294967296 := by omega
  deriving DecidableEq

namespace Address

def octet? (s : List Char) : Option Nat :=
  if s ≠ [] ∧ s.all Char.isDigit ∧ s.length ≤ 3 ∧ (s = ['0'] ∨ s.head? ≠ some '0') ∧
      Text.number s ≤ 255 then
    some (Text.number s)
  else none

theorem octet?_lt {s : List Char} {n : Nat} (h : octet? s = some n) : n < 256 := by
  unfold octet? at h
  split at h
  · simp only [Option.some.injEq] at h
    omega
  · simp at h

/-- The address that four octets write, the highest first. -/
def ofOctets (a b c d : Nat) (ha : a < 256) (hb : b < 256) (hc : c < 256) (hd : d < 256) :
    Address where
  toNat := ((a * 256 + b) * 256 + c) * 256 + d

def ofText? (s : List Char) : Option Address :=
  match Text.fields '.' s with
  | [s₁, s₂, s₃, s₄] =>
    match h₁ : octet? s₁, h₂ : octet? s₂, h₃ : octet? s₃, h₄ : octet? s₄ with
    | some a, some b, some c, some d =>
      some (ofOctets a b c d (octet?_lt h₁) (octet?_lt h₂) (octet?_lt h₃) (octet?_lt h₄))
    | _, _, _, _ => none
  | _ => none

/-- The octet at a place, counted from the lowest. -/
def octet (a : Address) (place : Nat) : Nat := a.toNat / Nat.pow 256 place % 256

def toText (a : Address) : List Char :=
  Nat.toDigits 10 (a.octet 3) ++ '.' :: Nat.toDigits 10 (a.octet 2) ++
    '.' :: Nat.toDigits 10 (a.octet 1) ++ '.' :: Nat.toDigits 10 (a.octet 0)

instance : LE Address := ⟨fun a b => a.toNat ≤ b.toNat⟩

instance (a b : Address) : Decidable (a ≤ b) := inferInstanceAs (Decidable (a.toNat ≤ b.toNat))

instance : ToString Address := ⟨fun a => String.ofList a.toText⟩

end Address

end ClusterLaunch.Network
