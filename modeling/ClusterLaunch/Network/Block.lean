import ClusterLaunch.Network.Address

/-! # CIDR blocks

A block is the set of the addresses that share their leading bits. It is held by its first
address and the number of leading bits, so every block has one representation.
-/

namespace ClusterLaunch.Network

/-- A block of addresses with `bits` leading bits in common. -/
structure Block where
  base : Nat
  bits : Nat
  bits_le : bits ≤ 32
  base_lt : base < Nat.pow 2 32
  aligned : Nat.pow 2 (32 - bits) ∣ base
  deriving DecidableEq

namespace Block

def size (b : Block) : Nat := Nat.pow 2 (32 - b.bits)

theorem size_pos (b : Block) : 0 < b.size := Nat.two_pow_pos _

theorem size_dvd (b : Block) : b.size ∣ Nat.pow 2 32 := Nat.pow_dvd_pow 2 (Nat.sub_le _ _)

theorem base_add_size_le (b : Block) : b.base + b.size ≤ Nat.pow 2 32 := by
  obtain ⟨m, hm⟩ := b.aligned
  obtain ⟨n, hn⟩ := b.size_dvd
  have hlt := b.base_lt
  rw [hm, hn] at hlt
  change b.base + b.size ≤ _
  rw [hm, hn]
  have hmn : m < n := Nat.lt_of_mul_lt_mul_left hlt
  calc b.size * m + b.size = b.size * (m + 1) := by rw [Nat.mul_succ]
    _ ≤ b.size * n := Nat.mul_le_mul_left _ hmn

def first (b : Block) : Address := ⟨b.base, b.base_lt⟩

def last (b : Block) : Address where
  toNat := b.base + b.size - 1
  toNat_lt := by
    have hle : b.base + b.size ≤ 4294967296 := b.base_add_size_le
    have := b.size_pos
    omega

/-- The addresses of a block lie between its first and its last. -/
instance : Membership Address Block := ⟨fun b a => b.first ≤ a ∧ a ≤ b.last⟩

instance (a : Address) (b : Block) : Decidable (a ∈ b) :=
  inferInstanceAs (Decidable (b.first ≤ a ∧ a ≤ b.last))

/-- The block of `bits` leading bits that an address lies in. -/
def around (a : Address) (bits : Nat) (h : bits ≤ 32) : Block where
  base := a.toNat - a.toNat % Nat.pow 2 (32 - bits)
  bits := bits
  bits_le := h
  base_lt := Nat.lt_of_le_of_lt (Nat.sub_le _ _) a.toNat_lt
  aligned := Nat.dvd_sub_mod a.toNat

/-- Whether clearing the trailing bits of an address gives the base of a block. -/
def holds (b : Block) (a : Address) : Bool := a.toNat - a.toNat % b.size == b.base

/-- Whether one block lies within another, by their ends. -/
def contains (outer inner : Block) : Bool :=
  decide (outer.first ≤ inner.first) && decide (inner.last ≤ outer.last)

/-- Whether two blocks meet: one of them holds an end of the other. -/
def overlaps (a b : Block) : Bool :=
  a.holds b.first || a.holds b.last || b.holds a.first || b.holds a.last

def toText (b : Block) : List Char := b.first.toText ++ '/' :: Nat.toDigits 10 b.bits

instance : ToString Block := ⟨fun b => String.ofList b.toText⟩

end Block

end ClusterLaunch.Network
