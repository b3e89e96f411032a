import ClusterLaunch.Cloud.Failure
import ClusterLaunch.Proofs.Network.Laminar
import ClusterLaunch.Proofs.Network.Mask
import ClusterLaunch.Proofs.Text.Pieces

/-! # The notation of addresses and blocks

An address is written as four octets with dots between them, and a block as an address, a slash
and a mask. Exactly the texts of this notation can be read, with blanks around them or not.
-/

namespace ClusterLaunch.Network

open Text

/-- One to three ASCII digits for a number up to 255. A zero is no leading digit. -/
structure IsOctet (s : List Char) (n : Nat) : Prop where
  digits : ∀ c ∈ s, c.isDigit = true
  nonempty : s ≠ []
  short : s.length ≤ 3
  plain : s = ['0'] ∨ s.head? ≠ some '0'
  value : Nat.ofDigitChars 10 s 0 = n
  le : n ≤ 255

/-- Four octets with dots between them, the highest first. -/
inductive IsQuad : List Char → Nat → Prop
  | intro {s₃ s₂ s₁ s₀ : List Char} {a b c d : Nat} (h₃ : IsOctet s₃ a) (h₂ : IsOctet s₂ b)
      (h₁ : IsOctet s₁ c) (h₀ : IsOctet s₀ d) :
      IsQuad (s₃ ++ '.' :: s₂ ++ '.' :: s₁ ++ '.' :: s₀)
        (a * 256 ^ 3 + b * 256 ^ 2 + c * 256 + d)

/-- The number of leading bits, or the netmask or the hostmask that belongs to it. A full and an
empty hostmask are read as netmasks. -/
inductive IsMask (s : List Char) (p : Nat) : Prop
  | length (hdigits : ∀ c ∈ s, c.isDigit = true) (hne : s ≠ [])
      (hvalue : Nat.ofDigitChars 10 s 0 = p) (hle : p ≤ 32)
  | netmask (h : IsQuad s (2 ^ 32 - 2 ^ (32 - p))) (hle : p ≤ 32)
  | hostmask (h : IsQuad s (2 ^ (32 - p) - 1)) (hpos : 1 ≤ p) (hle : p ≤ 31)

/-- An address and a mask with a slash between them. -/
inductive IsBlockText : List Char → Nat → Nat → Prop
  | intro {s m : List Char} {a p : Nat} (hs : IsQuad s a) (hm : IsMask m p) :
      IsBlockText (s ++ '/' :: m) a p

theorem number_eq_ofDigitChars (s : List Char) : number s = Nat.ofDigitChars 10 s 0 :=
  Nat.ofDigitChars_eq_foldl.symm

theorem octet?_eq_some_iff {s : List Char} {n : Nat} :
    Address.octet? s = some n ↔ IsOctet s n := by
  rw [Address.octet?, number_eq_ofDigitChars]
  constructor
  · intro h
    split at h
    · rename_i hs
      obtain ⟨hne, hdigits, hshort, hplain, hle⟩ := hs
      cases h
      exact ⟨List.all_eq_true.mp hdigits, hne, hshort, hplain, rfl, hle⟩
    · cases h
  · rintro ⟨hdigits, hne, hshort, hplain, rfl, hle⟩
    rw [if_pos ⟨hne, List.all_eq_true.mpr hdigits, hshort, hplain, hle⟩]

instance (s : List Char) (n : Nat) : Decidable (IsOctet s n) :=
  decidable_of_iff _ octet?_eq_some_iff

section Characters

variable {s : List Char} {n a p : Nat} {c : Char}

theorem IsQuad.mem (h : IsQuad s n) (hc : c ∈ s) : c.isDigit = true ∨ c = '.' := by
  obtain ⟨h₃, h₂, h₁, h₀⟩ := h
  simp only [List.mem_append, List.mem_cons] at hc
  rcases hc with ((hc | rfl | hc) | rfl | hc) | rfl | hc
  · exact .inl (h₃.digits c hc)
  · exact .inr rfl
  · exact .inl (h₂.digits c hc)
  · exact .inr rfl
  · exact .inl (h₁.digits c hc)
  · exact .inr rfl
  · exact .inl (h₀.digits c hc)

theorem IsQuad.dot_mem (h : IsQuad s n) : '.' ∈ s := by
  obtain ⟨-, -, -, -⟩ := h
  simp

theorem IsQuad.length_le (h : IsQuad s n) : s.length ≤ 15 := by
  obtain ⟨h₃, h₂, h₁, h₀⟩ := h
  have := h₃.short
  have := h₂.short
  have := h₁.short
  have := h₀.short
  simp only [List.length_append, List.length_cons]
  omega

theorem IsQuad.lt (h : IsQuad s n) : n < 4294967296 := by
  obtain ⟨h₃, h₂, h₁, h₀⟩ := h
  have := h₃.le
  have := h₂.le
  have := h₁.le
  have := h₀.le
  omega

theorem IsMask.mem (h : IsMask s p) (hc : c ∈ s) : c.isDigit = true ∨ c = '.' := by
  cases h with
  | length hdigits => exact .inl (hdigits c hc)
  | netmask h => exact h.mem hc
  | hostmask h => exact h.mem hc

theorem IsMask.le (h : IsMask s p) : p ≤ 32 := by
  cases h with
  | length _ _ _ hle => exact hle
  | netmask _ hle => exact hle
  | hostmask _ _ hle => exact hle.trans (by decide)

theorem slash_not_mem (h : ∀ c ∈ s, c.isDigit = true ∨ c = '.') : '/' ∉ s := by
  intro hmem
  rcases h _ hmem with hdigit | hdot
  · exact absurd hdigit (by decide)
  · exact absurd hdot (by decide)

theorem isBlank_eq_false (h : c.isDigit = true ∨ c = '.' ∨ c = '/') : isBlank c = false := by
  rcases h with h | rfl | rfl
  · have hc : 48 ≤ c.toNat ∧ c.toNat ≤ 57 := by
      simpa [Char.isDigit, UInt32.le_iff_toNat_le] using h
    rw [isBlank, ← Bool.not_eq_true, Ranges.contains_iff]
    simp only [blanks, List.mem_cons, List.not_mem_nil, or_false]
    rintro ⟨r, hr, hle, hge⟩
    rcases hr with rfl | rfl | rfl | rfl | rfl | rfl | rfl | rfl | rfl | rfl <;> omega
  · decide
  · decide

theorem IsBlockText.isBlank (h : IsBlockText s a p) (hc : c ∈ s) : isBlank c = false := by
  obtain ⟨hs, hm⟩ := h
  rcases List.mem_append.mp hc with hc | hc
  · exact isBlank_eq_false ((hs.mem hc).imp_right .inl)
  · rcases List.mem_cons.mp hc with rfl | hc
    · exact isBlank_eq_false (.inr (.inr rfl))
    · exact isBlank_eq_false ((hm.mem hc).imp_right .inl)

theorem IsBlockText.count_slash (h : IsBlockText s a p) : s.count '/' = 1 := by
  obtain ⟨hs, hm⟩ := h
  rw [List.count_append, List.count_cons_self,
    List.count_eq_zero_of_not_mem (slash_not_mem fun _ => hs.mem),
    List.count_eq_zero_of_not_mem (slash_not_mem fun _ => hm.mem)]

end Characters

section Quad

variable {s s₃ s₂ s₁ s₀ : List Char} {a b c d : Nat}

theorem IsOctet.dot_not_mem (h : IsOctet s a) : '.' ∉ s :=
  fun hmem => absurd (h.digits _ hmem) (by decide)

theorem fields_eq_octets_iff (h₃ : IsOctet s₃ a) (h₂ : IsOctet s₂ b) (h₁ : IsOctet s₁ c)
    (h₀ : IsOctet s₀ d) :
    fields '.' s = [s₃, s₂, s₁, s₀] ↔ s = s₃ ++ '.' :: s₂ ++ '.' :: s₁ ++ '.' :: s₀ := by
  have hdots : ∀ p ∈ [s₃, s₂, s₁, s₀], '.' ∉ p := by
    simp [h₃.dot_not_mem, h₂.dot_not_mem, h₁.dot_not_mem, h₀.dot_not_mem]
  rw [fields_eq_iff (by simp) hdots]
  simp [List.intercalate]

theorem ofText?_of_octets (h₃ : IsOctet s₃ a) (h₂ : IsOctet s₂ b) (h₁ : IsOctet s₁ c)
    (h₀ : IsOctet s₀ d) :
    Address.ofText? (s₃ ++ '.' :: s₂ ++ '.' :: s₁ ++ '.' :: s₀) =
      some (.ofOctets a b c d (Nat.lt_succ_of_le h₃.le) (Nat.lt_succ_of_le h₂.le)
        (Nat.lt_succ_of_le h₁.le) (Nat.lt_succ_of_le h₀.le)) := by
  have hfields := (fields_eq_octets_iff h₃ h₂ h₁ h₀).mpr rfl
  unfold Address.ofText?
  rw [hfields]
  dsimp only
  split
  · rename_i h₃' h₂' h₁' h₀'
    cases h₃'.symm.trans (octet?_eq_some_iff.mpr h₃)
    cases h₂'.symm.trans (octet?_eq_some_iff.mpr h₂)
    cases h₁'.symm.trans (octet?_eq_some_iff.mpr h₁)
    cases h₀'.symm.trans (octet?_eq_some_iff.mpr h₀)
    rfl
  · rename_i hnone
    exact (hnone a b c d (octet?_eq_some_iff.mpr h₃) (octet?_eq_some_iff.mpr h₂)
      (octet?_eq_some_iff.mpr h₁) (octet?_eq_some_iff.mpr h₀)).elim

end Quad

theorem IsQuad.ofText?_eq {s : List Char} {n : Nat} (h : IsQuad s n) :
    Address.ofText? s = some ⟨n, h.lt⟩ := by
  obtain ⟨h₃, h₂, h₁, h₀⟩ := h
  rw [ofText?_of_octets h₃ h₂ h₁ h₀]
  simp only [Address.ofOctets, Option.some.injEq, Address.mk.injEq]
  omega

theorem Address.ofText?_eq_some_iff {s : List Char} {a : Address} :
    Address.ofText? s = some a ↔ IsQuad s a.toNat := by
  constructor
  · intro h
    unfold Address.ofText? at h
    split at h
    · rename_i s₃ s₂ s₁ s₀ hsplit
      split at h
      · rename_i h₃ h₂ h₁ h₀
        rw [octet?_eq_some_iff] at h₃ h₂ h₁ h₀
        obtain rfl := (fields_eq_octets_iff h₃ h₂ h₁ h₀).mp hsplit
        cases h
        convert IsQuad.intro h₃ h₂ h₁ h₀ using 1
        simp only [Address.ofOctets]
        omega
      · cases h
    · cases h
  · exact IsQuad.ofText?_eq

/-- Dots keep a netmask or a hostmask apart from a length. -/
theorem IsQuad.not_length {s : List Char} {n : Nat} (h : IsQuad s n) :
    ¬ (s ≠ [] ∧ s.all Char.isDigit) := by
  rintro ⟨-, hdigits⟩
  exact absurd (List.all_eq_true.mp hdigits _ h.dot_mem) (by decide)

theorem bits?_of_mask {s : List Char} {n p : Nat} (h : IsQuad s n)
    (hbits : bitsOfMask? n = some p) : bits? s = some p := by
  rw [bits?, if_neg h.not_length, h.ofText?_eq]
  exact hbits

/-- A mask can be read if it is not too long. -/
theorem bits?_eq_some_iff {s : List Char} {p : Nat} :
    bits? s = some p ↔ IsMask s p ∧ s.length ≤ maxNumeral := by
  constructor
  · intro h
    rw [bits?] at h
    split at h
    · rename_i hs
      obtain ⟨hne, hdigits⟩ := hs
      split at h
      · rename_i hnumber
        obtain ⟨hlen, hle⟩ := hnumber
        cases h
        exact ⟨.length (List.all_eq_true.mp hdigits) hne (number_eq_ofDigitChars s).symm hle, hlen⟩
      · cases h
    · obtain ⟨a, ha, hbits⟩ := Option.bind_eq_some_iff.mp h
      have hquad := Address.ofText?_eq_some_iff.mp ha
      refine ⟨?_, hquad.length_le.trans (by decide)⟩
      rcases bitsOfMask?_eq_some_iff.mp hbits with ⟨hle, hmask⟩ | ⟨hpos, hle, hmask⟩
      · rw [← hmask] at hquad
        exact .netmask hquad hle
      · rw [← hmask] at hquad
        exact .hostmask hquad hpos hle
  · rintro ⟨hmask, hlen⟩
    cases hmask with
    | length hdigits hne hvalue hle =>
      rw [← number_eq_ofDigitChars] at hvalue
      rw [bits?, if_pos ⟨hne, List.all_eq_true.mpr hdigits⟩, hvalue, if_pos ⟨hlen, hle⟩]
    | netmask h hle => exact bits?_of_mask h (bitsOfMask?_eq_some_iff.mpr (.inl ⟨hle, rfl⟩))
    | hostmask h hpos hle =>
      exact bits?_of_mask h (bitsOfMask?_eq_some_iff.mpr (.inr ⟨hpos, hle, rfl⟩))

theorem fields_slash_iff {s u m : List Char} {n p : Nat} (hu : IsQuad u n) (hm : IsMask m p) :
    fields '/' s = [u, m] ↔ s = u ++ '/' :: m := by
  have hslash : ∀ t ∈ [u, m], '/' ∉ t := by
    simp [slash_not_mem fun _ => hu.mem, slash_not_mem fun _ => hm.mem]
  rw [fields_eq_iff (by simp) hslash]
  simp [List.intercalate]

/-- A block can be read if its mask is not too long, and is the one around the address. -/
theorem Block.ofText?_eq_some_iff {s : List Char} {b : Block} :
    Block.ofText? s = some b ↔ ∃ u m a, s = u ++ '/' :: m ∧ IsQuad u (Address.toNat a) ∧
      IsMask m b.bits ∧ m.length ≤ maxNumeral ∧ b = .around a b.bits b.bits_le := by
  constructor
  · intro h
    unfold Block.ofText? at h
    split at h
    · rename_i u m hsplit
      obtain ⟨a, ha, h⟩ := Option.bind_eq_some_iff.mp h
      obtain ⟨bits, hbits, h⟩ := Option.bind_eq_some_iff.mp h
      obtain ⟨hmask, hlen⟩ := bits?_eq_some_iff.mp hbits
      rw [dif_pos hmask.le] at h
      cases h
      rw [Address.ofText?_eq_some_iff] at ha
      exact ⟨u, m, a, (fields_slash_iff ha hmask).mp hsplit, ha, hmask, hlen, rfl⟩
    · cases h
  · rintro ⟨u, m, a, rfl, ha, hmask, hlen, hb⟩
    have hbits := bits?_eq_some_iff.mpr ⟨hmask, hlen⟩
    unfold Block.ofText?
    rw [(fields_slash_iff ha hmask).mpr rfl]
    simp only [ha.ofText?_eq, hbits]
    change (if h : b.bits ≤ 32 then some (Block.around a b.bits h) else none) = some b
    rw [dif_pos b.bits_le, ← hb]

section Reading

variable {t : String}

theorem Address.read_eq_ok_iff {a : Address} :
    Address.read t = .ok a ↔ ∃ s, IsQuad s a.toNat ∧ Padded s t.toList := by
  have hread : Address.read t = .ok a ↔ Address.ofText? (strip t.toList) = some a := by
    rw [Address.read, Address.readAs]
    cases Address.ofText? (strip t.toList) <;> simp
  rw [hread, Address.ofText?_eq_some_iff]
  constructor
  · intro h
    exact ⟨_, h, padded_strip _⟩
  · rintro ⟨s, hs, hpadded⟩
    have hblank : ∀ c ∈ s, isBlank c = false :=
      fun _ hc => isBlank_eq_false ((hs.mem hc).imp_right .inl)
    rwa [(strip_eq_iff hblank).mpr hpadded]

theorem Address.read_eq_error {e : FormatError} (h : Address.read t = .error e) :
    e = .malformedAddress (quoted t) := by
  rw [Address.read, Address.readAs] at h
  split at h
  · cases h
  · cases h
    rfl

theorem Block.read_eq_ok_iff {b : Block} :
    Block.read t = .ok b ↔ ∃ u m a, Padded (u ++ '/' :: m) t.toList ∧
      IsQuad u (Address.toNat a) ∧ IsMask m b.bits ∧ m.length ≤ maxNumeral ∧
      b = .around a b.bits b.bits_le := by
  have hread : Block.read t = .ok b ↔
      '/' ∈ strip t.toList ∧ Block.ofText? (strip t.toList) = some b := by
    simp only [Block.read, Block.readAs, ite_not]
    split
    · cases Block.ofText? (strip t.toList) <;> simp_all
    · simp_all
  rw [hread, Block.ofText?_eq_some_iff]
  constructor
  · rintro ⟨-, u, m, a, hs, h⟩
    exact ⟨u, m, a, hs ▸ padded_strip _, h⟩
  · rintro ⟨u, m, a, hpadded, hu, hm, h⟩
    rw [(strip_eq_iff fun _ => (IsBlockText.intro hu hm).isBlank).mpr hpadded]
    exact ⟨by simp, u, m, a, rfl, hu, hm, h⟩

theorem Block.read_of_padded {u m : List Char} {a p : Nat} (hu : IsQuad u a) (hm : IsMask m p)
    (hlen : m.length ≤ maxNumeral) (hpadded : Padded (u ++ '/' :: m) t.toList) :
    Block.read t = .ok (.around ⟨a, hu.lt⟩ p hm.le) :=
  Block.read_eq_ok_iff.mpr ⟨u, m, ⟨a, hu.lt⟩, hpadded, hu, hm, hlen, rfl⟩

theorem Block.read_eq_error {e : FormatError} (h : Block.read t = .error e) :
    e = if '/' ∈ t.toList then .malformedBlock (quoted t) else .missingLength (quoted t) := by
  have hslash : '/' ∈ t.toList ↔ '/' ∈ strip t.toList :=
    (padded_strip t.toList).mem_iff (by decide)
  simp only [Block.read, Block.readAs, ite_not] at h
  split at h
  · rename_i hmem
    rw [if_pos (hslash.mpr hmem)]
    split at h
    · cases h
    · cases h
      rfl
  · rename_i hmem
    rw [if_neg (mt hslash.mp hmem)]
    cases h
    rfl

end Reading

/-- The texts that can be read are those of the notation, with blanks around them or not. What is
read is the block of the leading bits around the address, or the address. All else is refused as
malformed, a text without a slash as one that has no mask. -/
theorem read_accepts_notation (t : String)
    (hlen : ∀ u v, t.toList = u ++ '/' :: v → v.length ≤ 4300) :
    ((∃ b, Block.read t = .ok b) ↔ ∃ s a p, IsBlockText s a p ∧ Padded s t.toList) ∧
    (∀ s a p, IsBlockText s a p → Padded s t.toList →
      ∃ b, Block.read t = .ok b ∧ b.bits = p ∧
        b.first.toNat = a / 2 ^ (32 - p) * 2 ^ (32 - p) ∧
        b.last.toNat = b.first.toNat + 2 ^ (32 - p) - 1 ∧
        b.first.toNat ≤ a ∧ a ≤ b.last.toNat) ∧
    (∀ b, Block.read t = .ok b → t.toList.count '/' = 1) ∧
    (∀ e, Block.read t = .error e → (ConfigError.format e).family? = some .networkFormat ∧
      e = if '/' ∈ t.toList then .malformedBlock (quoted t) else .missingLength (quoted t)) ∧
    (∀ n, (∃ x, Address.read t = .ok x ∧ x.toNat = n) ↔ ∃ s, IsQuad s n ∧ Padded s t.toList) ∧
    ∀ e, Address.read t = .error e → (ConfigError.format e).family? = some .networkFormat ∧
      e = .malformedAddress (quoted t) := by
  have haccepts : ∀ s a p, IsBlockText s a p → Padded s t.toList →
      ∃ (x : Address) (h : p ≤ 32), x.toNat = a ∧ Block.read t = .ok (.around x p h) := by
    rintro _ a p ⟨hu, hm⟩ hpadded
    rename_i u m
    -- The blanks after the mask count as well, so the mask is no longer than what the slash leaves.
    have hshort : m.length ≤ maxNumeral := by
      obtain ⟨l, r, ht, -, -⟩ := hpadded
      have := hlen (l ++ u) (m ++ r) (by simp [ht])
      rw [List.length_append] at this
      exact (Nat.le_add_right _ _).trans this
    exact ⟨⟨a, hu.lt⟩, hm.le, rfl, Block.read_of_padded hu hm hshort hpadded⟩
  have hwritten : ∀ b, Block.read t = .ok b →
      ∃ s a, IsBlockText s a b.bits ∧ Padded s t.toList := by
    intro b hb
    obtain ⟨u, m, a, hpadded, hu, hm, -, -⟩ := Block.read_eq_ok_iff.mp hb
    exact ⟨_, _, .intro hu hm, hpadded⟩
  refine ⟨⟨?_, ?_⟩, ?_, ?_, fun e h => ⟨rfl, Block.read_eq_error h⟩, ?_,
    fun e h => ⟨rfl, Address.read_eq_error h⟩⟩
  · rintro ⟨b, hb⟩
    obtain ⟨s, a, hs, hpadded⟩ := hwritten b hb
    exact ⟨s, a, b.bits, hs, hpadded⟩
  · rintro ⟨s, a, p, hs, hpadded⟩
    obtain ⟨x, h, -, hread⟩ := haccepts s a p hs hpadded
    exact ⟨_, hread⟩
  · intro s a p hs hpadded
    obtain ⟨x, h, rfl, hread⟩ := haccepts s a p hs hpadded
    obtain ⟨hfirst, hlast⟩ := Block.mem_around x h
    exact ⟨_, hread, rfl, Block.around_base x h, rfl, hfirst, hlast⟩
  · intro b hb
    obtain ⟨s, a, hs, hpadded⟩ := hwritten b hb
    rw [hpadded.count_eq (by decide), hs.count_slash]
  · intro n
    constructor
    · rintro ⟨x, hx, rfl⟩
      exact Address.read_eq_ok_iff.mp hx
    · rintro ⟨s, hs, hpadded⟩
      exact ⟨⟨n, hs.lt⟩, Address.read_eq_ok_iff.mpr ⟨s, hs, hpadded⟩, rfl⟩

theorem read_accepts_notation_hostmask :
    (∀ u v, "\u2003192.168.1.50/0.0.0.15\n".toList = u ++ '/' :: v → v.length ≤ 4300) ∧
    ∃ b, Block.read "\u2003192.168.1.50/0.0.0.15\n" = .ok b ∧ b.bits = 28 ∧
      b.first.toNat = 3232235824 ∧ b.last.toNat = 3232235839 := by
  have hlen : ∀ u v, "\u2003192.168.1.50/0.0.0.15\n".toList = u ++ '/' :: v →
      v.length ≤ 4300 := by
    intro u v h
    have := congrArg List.length h
    simp only [List.length_append, List.length_cons] at this
    change 23 = _ at this
    omega
  have hzero : IsOctet ['0'] 0 := by decide
  have hmask : IsMask "0.0.0.15".toList 28 :=
    .hostmask (.intro hzero hzero hzero (by decide : IsOctet ['1', '5'] 15)) (by decide) (by decide)
  have haddress : IsQuad "192.168.1.50".toList 3232235826 :=
    .intro (by decide : IsOctet ['1', '9', '2'] 192) (by decide : IsOctet ['1', '6', '8'] 168)
      (by decide : IsOctet ['1'] 1) (by decide : IsOctet ['5', '0'] 50)
  have hpadded : Padded ("192.168.1.50".toList ++ '/' :: "0.0.0.15".toList)
      "\u2003192.168.1.50/0.0.0.15\n".toList :=
    ⟨['\u2003'], ['\n'], rfl, List.forall_mem_singleton.mpr rfl, List.forall_mem_singleton.mpr rfl⟩
  obtain ⟨-, hread, -⟩ := read_accepts_notation _ hlen
  obtain ⟨b, hb, hbits, hfirst, hlast, -, -⟩ := hread _ _ _ (.intro haddress hmask) hpadded
  exact ⟨hlen, b, hb, hbits, hfirst, by rw [hlast, hfirst]; rfl⟩

end ClusterLaunch.Network
