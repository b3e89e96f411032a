import ClusterLaunch.Proofs.Guard
import ClusterLaunch.Proofs.Network.Grammar

/-! # The text of addresses and blocks

An address has one text, and a block one that is written with its first address and its length.
Reading this text gives the address or the block back, in whichever notation it was read first.
-/

namespace ClusterLaunch.Network

open Text

theorem head?_toDigits {n : Nat} (hn : 0 < n) : (Nat.toDigits 10 n).head? ≠ some '0' := by
  induction n using Nat.strongRecOn with
  | ind n ih =>
    rcases Nat.lt_or_ge n 10 with hlt | hge
    · rw [Nat.toDigits_of_lt_base hlt]
      simpa [Nat.digitChar_eq_zero] using hn.ne'
    · rw [Nat.toDigits_of_base_le (by decide) hge,
        List.head?_append_of_ne_nil _ Nat.toDigits_ne_nil]
      exact ih (n / 10) (Nat.div_lt_self hn (by decide)) (Nat.div_pos hge (by decide))

theorem isOctet_toDigits {n : Nat} (h : n < 256) : IsOctet (Nat.toDigits 10 n) n where
  digits _ hc := Nat.isDigit_of_mem_toDigits (by decide) (by decide) hc
  nonempty := Nat.toDigits_ne_nil
  short := (Nat.length_toDigits_le_iff (by decide) (by decide)).mpr (by omega)
  plain := by
    rcases Nat.eq_zero_or_pos n with rfl | hpos
    · exact .inl rfl
    · exact .inr (head?_toDigits hpos)
  value := Nat.ofDigitChars_ten_toDigits
  le := Nat.le_of_lt_succ h

namespace Address

theorem octet_lt (x : Address) (place : Nat) : x.octet place < 256 := Nat.mod_lt _ (by decide)

theorem octets_eq (x : Address) :
    x.octet 3 * 256 ^ 3 + x.octet 2 * 256 ^ 2 + x.octet 1 * 256 + x.octet 0 = x.toNat := by
  have hlt := x.toNat_lt
  change x.toNat / 256 ^ 3 % 256 * 256 ^ 3 + x.toNat / 256 ^ 2 % 256 * 256 ^ 2 +
    x.toNat / 256 ^ 1 % 256 * 256 + x.toNat / 256 ^ 0 % 256 = x.toNat
  omega

theorem isQuad_toText (x : Address) : IsQuad x.toText x.toNat := by
  rw [← x.octets_eq]
  exact .intro (isOctet_toDigits (x.octet_lt 3)) (isOctet_toDigits (x.octet_lt 2))
    (isOctet_toDigits (x.octet_lt 1)) (isOctet_toDigits (x.octet_lt 0))

theorem toList_toString (x : Address) : (toString x).toList = x.toText := String.toList_ofList

theorem read_toString (x : Address) : Address.read (toString x) = .ok x := by
  refine read_eq_ok_iff.mpr ⟨x.toText, x.isQuad_toText, ?_⟩
  rw [toList_toString]
  exact padded_self _

theorem toString_eq (x : Address) :
    toString x = toString (x.octet 3) ++ "." ++ toString (x.octet 2) ++ "." ++
      toString (x.octet 1) ++ "." ++ toString (x.octet 0) := by
  apply String.toList_injective
  rw [toList_toString, toText]
  simp

end Address

namespace Block

theorem isMask_bits (b : Block) : IsMask (Nat.toDigits 10 b.bits) b.bits :=
  .length (fun _ hc => Nat.isDigit_of_mem_toDigits (by decide) (by decide) hc)
    Nat.toDigits_ne_nil Nat.ofDigitChars_ten_toDigits b.bits_le

theorem length_bits_le (b : Block) : (Nat.toDigits 10 b.bits).length ≤ maxNumeral := by
  have hshort : (Nat.toDigits 10 b.bits).length ≤ 2 :=
    (Nat.length_toDigits_le_iff (by decide) (by decide)).mpr (by have := b.bits_le; omega)
  exact hshort.trans (by decide)

theorem around_first (b : Block) : around b.first b.bits b.bits_le = b := by
  have hdvd : b.size ∣ b.base := b.aligned
  refine eq_of_base_of_size ?_ rfl
  change b.base - b.base % b.size = b.base
  rw [Nat.mod_eq_zero_of_dvd hdvd, Nat.sub_zero]

theorem toList_toString (b : Block) : (toString b).toList = b.toText := String.toList_ofList

theorem read_toString (b : Block) : Block.read (toString b) = .ok b := by
  refine read_eq_ok_iff.mpr ⟨b.first.toText, Nat.toDigits 10 b.bits, b.first, ?_,
    b.first.isQuad_toText, b.isMask_bits, b.length_bits_le, b.around_first.symm⟩
  rw [toList_toString]
  exact padded_self _

theorem toString_eq (b : Block) : toString b = toString b.first ++ "/" ++ toString b.bits := by
  apply String.toList_injective
  rw [toList_toString, toText]
  simp [Address.toList_toString]

end Block

/-- The text of a block or of an address that was read is read as the same block or address, and two
texts are read as the same block exactly if the texts of what was read are the same. -/
theorem canonical_text_roundtrip {t u v : String} {a b : Block} {x : Address}
    (ht : Block.read t = .ok a) (hu : Block.read u = .ok b) (hv : Address.read v = .ok x) :
    toString a = toString a.first ++ "/" ++ toString a.bits ∧
    Block.read (toString a) = Block.read t ∧
    (Block.read t = Block.read u ↔ toString a = toString b) ∧
    (Block.read (toString a)).map toString = .ok (toString a) ∧
    toString x = toString (x.octet 3) ++ "." ++ toString (x.octet 2) ++ "." ++
      toString (x.octet 1) ++ "." ++ toString (x.octet 0) ∧
    Address.read (toString x) = Address.read v := by
  refine ⟨a.toString_eq, a.read_toString.trans ht.symm, ?_, ?_, x.toString_eq,
    x.read_toString.trans hv.symm⟩
  · constructor
    · intro h
      rw [ht, hu] at h
      rw [Except.ok.inj h]
    · intro h
      rw [ht, hu, ← a.read_toString, h, b.read_toString]
  · rw [a.read_toString, map_ok]

theorem canonical_text_roundtrip_netmask :
    Block.read "10.5.2.0/24" = Block.read " 10.5.2.77/255.255.255.0" ∧
      Block.read " 10.5.2.77/255.255.255.0" = Block.read "10.5.2.9/0.0.0.255" ∧
      Address.read "10.5.2.77" = Address.read "10.5.2.77\n" := by
  have ht : Block.read " 10.5.2.77/255.255.255.0" =
      .ok (.around ⟨168100429, by decide⟩ 24 (by decide)) := rfl
  have hu : Block.read "10.5.2.9/0.0.0.255" =
      .ok (.around ⟨168100361, by decide⟩ 24 (by decide)) := rfl
  have hv : Address.read "10.5.2.77\n" = .ok ⟨168100429, by decide⟩ := rfl
  obtain ⟨-, hread, hsame, -, -, haddress⟩ := canonical_text_roundtrip ht hu hv
  exact ⟨hread, hsame.mpr rfl, haddress⟩

end ClusterLaunch.Network
