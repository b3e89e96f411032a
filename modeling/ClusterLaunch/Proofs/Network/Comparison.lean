import ClusterLaunch.Network.Comparison
import ClusterLaunch.Proofs.Guard
import ClusterLaunch.Proofs.Network.Laminar
import ClusterLaunch.Proofs.Network.Mask

/-! # Comparisons of written networks

Membership is a test of the masked address, containment one of two pairs of ends and overlap one
of four ends. On all that can be read they are membership, inclusion and intersection of sets of
addresses, and so the networks are ordered by containment and meet only where one contains the
other.
-/

namespace ClusterLaunch.Network

/-- Whether a block holds an address shows in the bits under its netmask. -/
theorem Block.holds_iff_and {b : Block} {x : Address} :
    b.holds x = true ↔ x.toNat &&& netmask b.bits = b.base := by
  have hbits : 32 - (32 - b.bits) = b.bits := Nat.sub_sub_self b.bits_le
  have hand := and_netmask x.toNat_lt (Nat.sub_le 32 b.bits)
  rw [hbits] at hand
  rw [hand, holds, beq_iff_eq]
  rfl

section Written

variable {a b c x : Data} {A B C : Block} {X : Address}

theorem contains_eq_ok (ha : blockOf a = .ok A) (hb : blockOf b = .ok B) :
    contains a b = .ok (A.contains B) := by
  rw [contains, hb, ok_bind, ha, ok_bind]
  rfl

theorem overlaps_eq_ok (ha : blockOf a = .ok A) (hb : blockOf b = .ok B) :
    overlaps a b = .ok (A.overlaps B) := by
  rw [overlaps, ha, ok_bind, hb, ok_bind]
  rfl

theorem containsAddress_eq_ok (ha : blockOf a = .ok A) (hx : addressOf x = .ok X) :
    containsAddress a x = .ok (A.holds X) := by
  rw [containsAddress, hx, ok_bind, ha, ok_bind]
  rfl

/-- The comparisons of all that can be read come to an answer, which is that of the sets of
addresses from the first to the last of each block. -/
theorem comparisons_denote_sets (ha : blockOf a = .ok A) (hb : blockOf b = .ok B)
    (hx : addressOf x = .ok X) :
    (∃ r, containsAddress a x = .ok r ∧
      (r = true ↔ X.toNat &&& netmask A.bits = A.first.toNat) ∧
      (r = true ↔ A.first.toNat ≤ X.toNat ∧ X.toNat ≤ A.last.toNat)) ∧
    (∃ r, contains a b = .ok r ∧ (r = true ↔ ∀ y : Address, y ∈ B → y ∈ A)) ∧
    ∃ r, overlaps a b = .ok r ∧ (r = true ↔ ∃ y : Address, y ∈ A ∧ y ∈ B) :=
  ⟨⟨_, containsAddress_eq_ok ha hx, Block.holds_iff_and, Block.holds_iff⟩,
    ⟨_, contains_eq_ok ha hb, Block.contains_iff⟩, ⟨_, overlaps_eq_ok ha hb, Block.overlaps_iff⟩⟩

def written (s : String) : Data := .ofScalar (.text s)

theorem comparisons_denote_sets_nested :
    containsAddress (written "10.5.2.77/24") (written "10.5.2.255") = .ok true ∧
      contains (written "10.5.2.77/24") (written "10.5.2.16/0.0.0.15") = .ok true ∧
      overlaps (written "10.5.2.77/24") (written "10.5.2.16/0.0.0.15") = .ok true := by
  have houter : blockOf (written "10.5.2.77/24") =
      .ok (.around ⟨168100429, by decide⟩ 24 (by decide)) := rfl
  have hinner : blockOf (written "10.5.2.16/0.0.0.15") =
      .ok (.around ⟨168100368, by decide⟩ 28 (by decide)) := rfl
  have hlast : addressOf (written "10.5.2.255") = .ok ⟨168100607, by decide⟩ := rfl
  obtain ⟨⟨r, hr, -, hends⟩, ⟨s, hs, hsubset⟩, t, ht, hmeet⟩ :=
    comparisons_denote_sets houter hinner hlast
  have hr' : r = true := hends.mpr (by decide)
  have hs' : s = true := hsubset.mpr fun y hy =>
    ⟨Nat.le_trans (by decide) hy.1, Nat.le_trans hy.2 (by decide)⟩
  have ht' : t = true := hmeet.mpr ⟨⟨168100368, by decide⟩, by decide, by decide⟩
  exact ⟨hr' ▸ hr, hs' ▸ hs, ht' ▸ ht⟩

/-- The networks that can be read are ordered by containment, and two of them meet only where one
contains the other. -/
theorem written_blocks_laminar (ha : blockOf a = .ok A) (hb : blockOf b = .ok B)
    (hc : blockOf c = .ok C) :
    (overlaps a b = .ok true ↔ contains a b = .ok true ∨ contains b a = .ok true) ∧
    (∃ r, overlaps a b = .ok r ∧ overlaps b a = .ok r) ∧
    overlaps a a = .ok true ∧
    contains a a = .ok true ∧
    (contains a b = .ok true → contains b c = .ok true → contains a c = .ok true) ∧
    (contains a b = .ok true ∧ contains b a = .ok true ↔ blockOf a = blockOf b) ∧
    (contains a b = .ok true → overlaps b c = .ok true → overlaps a c = .ok true) ∧
    (contains a b = .ok false → contains b a = .ok false → ∀ y : Address, y ∈ A → y ∉ B) := by
  rw [contains_eq_ok ha hb, contains_eq_ok hb ha, contains_eq_ok hb hc, contains_eq_ok ha hc,
    contains_eq_ok ha ha, overlaps_eq_ok ha hb, overlaps_eq_ok hb ha, overlaps_eq_ok hb hc,
    overlaps_eq_ok ha hc, overlaps_eq_ok ha ha, ha, hb]
  simp only [Except.ok.injEq]
  refine ⟨Block.overlaps_iff_contains, ⟨_, rfl, Block.overlaps_comm B A⟩, A.overlaps_self,
    A.contains_self, Block.contains_trans, ?_, Block.overlaps_of_contains, ?_⟩
  · constructor
    · rintro ⟨hab, hba⟩
      exact Block.contains_antisymm hab hba
    · rintro rfl
      exact ⟨A.contains_self, A.contains_self⟩
  · intro hab hba
    rw [← Block.overlaps_eq_false_iff, ← Bool.not_eq_true, Block.overlaps_iff_contains, hab, hba]
    simp

/-- A network within another one meets the same networks, however all three are written. -/
theorem written_blocks_laminar_notations :
    contains (written "10.5.0.0/16") (written " 10.5.2.77/255.255.255.0") = .ok true ∧
      contains (written " 10.5.2.77/255.255.255.0") (written "10.5.2.64/0.0.0.63") = .ok true ∧
      contains (written "10.5.0.0/16") (written "10.5.2.64/0.0.0.63") = .ok true ∧
      overlaps (written "10.5.0.0/16") (written "10.5.2.64/0.0.0.63") = .ok true := by
  have ha : blockOf (written "10.5.0.0/16") =
      .ok (.around ⟨168099840, by decide⟩ 16 (by decide)) := rfl
  have hb : blockOf (written " 10.5.2.77/255.255.255.0") =
      .ok (.around ⟨168100429, by decide⟩ 24 (by decide)) := rfl
  have hc : blockOf (written "10.5.2.64/0.0.0.63") =
      .ok (.around ⟨168100416, by decide⟩ 26 (by decide)) := rfl
  have hab : contains (written "10.5.0.0/16") (written " 10.5.2.77/255.255.255.0") = .ok true := rfl
  have hbc : contains (written " 10.5.2.77/255.255.255.0") (written "10.5.2.64/0.0.0.63") =
      .ok true := rfl
  obtain ⟨-, -, -, -, htrans, -, hoverlap, -⟩ := written_blocks_laminar ha hb hc
  exact ⟨hab, hbc, htrans hab hbc, hoverlap hab rfl⟩

end Written

end ClusterLaunch.Network
