import ClusterLaunch.Decimal.Reader
import ClusterLaunch.Proofs.Text.Lowercase

/-! # The undefined double

The undefined double is not comparable to any, itself included. Every other double is comparable to
itself, and it is positive unless it is zero or less. No decimal is read as the undefined double,
only its name is.
-/

namespace ClusterLaunch.Decimal

open Float.Model (Format UnpackedFloat)
open Float.Model.UnpackedFloat

section Comparison

variable {x y : Float}

theorem le_iff_unpack : x ≤ y ↔ x.toModel.unpack.le y.toModel.unpack = true :=
  decide_eq_true_iff

theorem lt_iff_unpack : x < y ↔ x.toModel.unpack.lt y.toModel.unpack = true :=
  decide_eq_true_iff

theorem eq_nan_iff_isNaN : x = .nan ↔ x.toModel.unpack.isNaN = true := by
  change _ ↔ x.isNaN = true
  rw [Float.isNaN_eq_decide_eq_nan, decide_eq_true_iff]

theorem eq_nan_iff_unpack : x = .nan ↔ x.toModel.unpack = .notANumber :=
  eq_nan_iff_isNaN.trans UnpackedFloat.isNaN_iff

theorem unpack_nan : Float.nan.toModel.unpack = .notANumber := eq_nan_iff_unpack.mp rfl

theorem unpack_zero : (0.0 : Float).toModel.unpack = .zero .positive := rfl

theorem not_nan_le : ¬ Float.nan ≤ y := by
  rw [le_iff_unpack, unpack_nan]
  exact nofun

theorem not_lt_nan : ¬ y < Float.nan := by
  rw [lt_iff_unpack, unpack_nan]
  cases y.toModel.unpack <;> exact nofun

theorem le_self (h : x ≠ .nan) : x ≤ x := by
  rw [Ne, eq_nan_iff_unpack] at h
  rw [le_iff_unpack]
  cases hx : x.toModel.unpack with
  | notANumber => exact absurd hx h
  | infinity s => cases s <;> rfl
  | zero s => rfl
  | finite s m e hm =>
    cases s <;> simp [UnpackedFloat.le, UnpackedFloat.compare, Std.ReflCmp.compare_self]

theorem beq_self (h : x ≠ .nan) : (x == x) = true := by
  rw [Ne, eq_nan_iff_unpack] at h
  change x.toModel.unpack.beq x.toModel.unpack = true
  cases hx : x.toModel.unpack with
  | notANumber => exact absurd hx h
  | infinity s => cases s <;> rfl
  | zero s => rfl
  | finite s m e hm =>
    cases s <;> simp [UnpackedFloat.beq, UnpackedFloat.compare, Std.ReflCmp.compare_self]

/-- To be positive is more than not to be zero or less. -/
theorem pos_iff : 0.0 < x ↔ ¬ x ≤ 0.0 ∧ x ≠ .nan := by
  rw [lt_iff_unpack, le_iff_unpack, Ne, eq_nan_iff_unpack, unpack_zero]
  cases x.toModel.unpack with
  | notANumber => exact iff_of_false nofun (fun h => h.2 rfl)
  | zero s => exact iff_of_false nofun (fun h => h.1 rfl)
  | infinity s | finite s =>
    cases s with
    | positive => exact iff_of_true rfl ⟨nofun, nofun⟩
    | negative => exact iff_of_false nofun (fun h => h.1 rfl)

end Comparison

section Bits

theorem unpack_isNaN_iff {spec : Format} {b : BitVec spec.numBits} :
    (unpack spec b).isNaN = true ↔ unpackExponent b = -1#_ ∧ unpackMantissa b ≠ 0#_ := by
  unfold unpack
  dsimp only
  split
  · rename_i hexponent
    split
    · rename_i hmantissa
      exact iff_of_false nofun (fun h => h.2 hmantissa)
    · rename_i hmantissa
      exact iff_of_true rfl ⟨hexponent, hmantissa⟩
  · rename_i hexponent
    refine iff_of_false ?_ (fun h => hexponent h.1)
    split
    · split <;> exact nofun
    · exact nofun

/-- A number that is too large to be packed becomes infinite, not undefined. -/
theorem unpack_pack_isNaN (f : UnpackedFloat) :
    (unpack Format.binary64 (pack Format.binary64 f)).isNaN = f.isNaN := by
  rw [Bool.eq_iff_iff, unpack_isNaN_iff]
  cases f with
  | notANumber => decide
  | infinity s => simp [pack, packedInfinity, UnpackedFloat.isNaN]
  | zero s => simp [pack, packedZero, UnpackedFloat.isNaN]
  | finite s m e hm =>
    refine iff_of_false ?_ nofun
    rw [pack]
    dsimp only
    split
    · simp [packedInfinity]
    · rename_i hfits
      split
      · rw [unpackExponent_packComponents]
        intro h
        have hones := congrArg BitVec.toNat h.1
        rw [BitVec.toNat_ofNat] at hones
        generalize (e + _ + _ : Int).toNat = biased at hfits hones
        change biased % 2 ^ 11 = 2047 at hones
        change ¬ 2 ^ 11 ≤ biased + 1 at hfits
        omega
      · simp [Format.binary64]

theorem neg_eq_nan_iff {x : Float} : -x = .nan ↔ x = .nan := by
  rw [eq_nan_iff_isNaN, eq_nan_iff_isNaN]
  change (unpack Format.binary64 (pack Format.binary64 x.toModel.unpack.neg)).isNaN = true ↔ _
  rw [unpack_pack_isNaN]
  cases x.toModel.unpack <;> rfl

theorem zero_add_of_pos {x : Float} (h : 0.0 < x) : 0.0 + x = x := by
  rw [lt_iff_unpack, unpack_zero] at h
  have hadd : UnpackedFloat.add Format.binary64 (.zero .positive) x.toModel.unpack =
      x.toModel.unpack := by
    cases hx : x.toModel.unpack with
    | zero s => rw [hx] at h; cases h
    | notANumber | infinity | finite => rfl
  exact (congrArg (fun u => Float.ofModel (.pack u)) hadd).trans (Float.ofBits_toBits x)

theorem sub_positive_zero (x : Float) : x - 0.0 = x := by
  have hsub : UnpackedFloat.sub Format.binary64 x.toModel.unpack (.zero .positive) =
      x.toModel.unpack := by
    cases x.toModel.unpack with
    | zero s => cases s <;> rfl
    | notANumber | infinity | finite => rfl
  exact (congrArg (fun u => Float.ofModel (.pack u)) hsub).trans (Float.ofBits_toBits x)

/-- Up to the bits of infinity, nonnegative bits are not those of the undefined double. -/
theorem ofBits_ne_nan {n : Nat} (h : n ≤ 2047 * Nat.pow 2 52) :
    Float.ofBits n.toUInt64 ≠ .nan := by
  rw [Ne, eq_nan_iff_isNaN]
  change ¬ (unpack Format.binary64 (pack Format.binary64
    (unpack Format.binary64 n.toUInt64.toBitVec))).isNaN = true
  rw [unpack_pack_isNaN, unpack_isNaN_iff]
  rintro ⟨hexponent, hmantissa⟩
  refine hmantissa (BitVec.eq_of_toNat_eq ?_)
  have hones := congrArg BitVec.toNat hexponent
  have hpow : Nat.pow 2 52 = 2 ^ 52 := rfl
  have hbits : n.toUInt64.toNat = n := by
    rw [Nat.toUInt64, UInt64.toNat_ofNat', Nat.mod_eq_of_lt (by omega)]
  change n.toUInt64.toNat >>> 52 % 2 ^ 11 = 2047 at hones
  change n.toUInt64.toNat % 2 ^ 52 = 0
  rw [hbits, Nat.shiftRight_eq_div_pow] at hones
  rw [hbits]
  omega

theorem nearestBits_le (num den : Nat) : nearestBits num den ≤ 2047 * Nat.pow 2 52 := by
  unfold nearestBits
  split
  · exact Nat.zero_le _
  · exact Nat.min_le_right _ _

theorem nearest_ne_nan (num den : Nat) : nearest num den ≠ .nan :=
  ofBits_ne_nan (nearestBits_le num den)

theorem ofInt?_ne_nan (n : Int) : ofInt? n ≠ some .nan := by
  unfold ofInt?
  dsimp only
  split
  · exact nofun
  · rw [Ne, Option.some_inj]
    split
    · rw [neg_eq_nan_iff]
      exact ofBits_ne_nan (nearestBits_le _ _)
    · exact ofBits_ne_nan (nearestBits_le _ _)

theorem zero_ne_nan : (0.0 : Float) ≠ .nan := by
  rw [Ne, eq_nan_iff_unpack]
  exact nofun

theorem ofDecimal_ne_nan (digits : Nat) (exponent : Int) : ofDecimal digits exponent ≠ .nan := by
  unfold ofDecimal
  dsimp only
  split
  · exact zero_ne_nan
  · split
    · exact nearest_ne_nan _ _
    · split <;> exact nearest_ne_nan _ _

end Bits

section Reading

/-- A text names the undefined double, with a sign or without, in any letter case. -/
def NamesUndefined (s : List Char) : Prop :=
  ∃ sign ∈ [[], ['-'], ['+']], ∃ name, name.map Char.toLower = ['n', 'a', 'n'] ∧
    Text.stripWhile surroundsNumber s = sign ++ name

theorem decimal_ne_nan {whole part rest : List Char} :
    (if whole.isEmpty && part.isEmpty then none
      else (exponentOf? rest).map fun e =>
        ofDecimal (Text.number (whole ++ part)) (e - part.length)) ≠ some .nan := by
  split
  · exact nofun
  · intro h
    obtain ⟨e, -, h⟩ := Option.map_eq_some_iff.mp h
    exact ofDecimal_ne_nan _ _ h

theorem unsigned?_eq_nan_iff {s : List Char} :
    unsigned? s = some .nan ↔ s.map Char.toLower = ['n', 'a', 'n'] := by
  have hinfinite : some (1.0 / 0.0) ≠ some Float.nan := by
    rw [Ne, Option.some_inj, eq_nan_iff_unpack]
    exact nofun
  unfold unsigned?
  split
  · rename_i h
    rw [h]
    exact iff_of_false hinfinite (by decide)
  · rename_i h
    rw [h]
    exact iff_of_false hinfinite (by decide)
  · rename_i h
    exact iff_of_true rfl h
  · rename_i h
    refine iff_of_false ?_ h
    dsimp only
    split <;> exact decimal_ne_nan

def IsPlain (c : Char) : Prop := plainDigit c = c ∧ c ≠ '_' ∧ c.isDigit = false

instance : DecidablePred IsPlain := fun c =>
  inferInstanceAs (Decidable (plainDigit c = c ∧ c ≠ '_' ∧ c.isDigit = false))

theorem isPlain_toLower (c : Char) : IsPlain c.toLower ↔ IsPlain c :=
  iff_of_eq (Text.apply_toLower IsPlain (by decide +kernel) c)

theorem isPlain_of_mem {sign name : List Char} (hsign : sign ∈ [[], ['-'], ['+']])
    (hname : name.map Char.toLower = ['n', 'a', 'n']) : ∀ c ∈ sign ++ name, IsPlain c := by
  have hsigns : [[], ['-'], ['+']].all (List.all · (IsPlain ·)) = true := by decide
  have hletters : ['n', 'a', 'n'].all (IsPlain ·) = true := by decide
  intro c hc
  rcases List.mem_append.mp hc with hc | hc
  · have hplain := List.all_eq_true.mp (List.all_eq_true.mp hsigns sign hsign) c hc
    exact of_decide_eq_true hplain
  · have hplain := List.all_eq_true.mp hletters c.toLower (hname ▸ List.mem_map_of_mem hc)
    exact (isPlain_toLower c).mp (of_decide_eq_true hplain)

theorem dropUnderscores_of_notMem {s : List Char} (h : '_' ∉ s) : dropUnderscores s = some s := by
  fun_induction dropUnderscores s with
  | case1 | case4 => rfl
  | case2 | case3 | case5 | case6 => simp at h
  | case7 c d rest _ _ ih => rw [ih fun hmem => h (List.mem_cons_of_mem c hmem), Option.map_some]

/-- An underscore that is dropped leaves a digit behind. -/
theorem eq_of_dropUnderscores {s t : List Char} (h : dropUnderscores s = some t)
    (ht : ∀ c ∈ t, c.isDigit = false) : s = t := by
  fun_induction dropUnderscores s generalizing t with
  | case1 | case4 => exact Option.some_inj.mp h
  | case2 | case3 | case6 => cases h
  | case5 c d rest _ hdigits _ =>
    obtain ⟨u, -, rfl⟩ := Option.map_eq_some_iff.mp h
    rw [ht c List.mem_cons_self] at hdigits
    cases hdigits
  | case7 c d rest _ _ ih =>
    obtain ⟨u, hu, rfl⟩ := Option.map_eq_some_iff.mp h
    rw [ih hu fun c' hc' => ht c' (List.mem_cons_of_mem c hc')]

theorem plainDigit_eq {c : Char} (h : (plainDigit c).isDigit = false) : plainDigit c = c := by
  unfold plainDigit at h ⊢
  cases hn : Text.digitValue? c with
  | none => rfl
  | some n =>
    rw [hn] at h
    dsimp only at h
    obtain ⟨z, hz, rfl⟩ := Option.map_eq_some_iff.mp hn
    have hdigit : ∀ m < 10, (Nat.digitChar m).isDigit = true := by decide
    have hrange := List.find?_some hz
    rw [Bool.and_eq_true, decide_eq_true_iff, decide_eq_true_iff] at hrange
    rw [hdigit _ (by omega)] at h
    cases h

theorem map_plainDigit_eq {s : List Char} (h : ∀ c ∈ s.map plainDigit, c.isDigit = false) :
    s.map plainDigit = s :=
  (List.map_congr_left fun _ hc => plainDigit_eq (h _ (List.mem_map_of_mem hc))).trans
    (List.map_id s)

theorem dropUnderscores_map_plainDigit_eq_iff {s t : List Char} (ht : ∀ c ∈ t, IsPlain c) :
    dropUnderscores (s.map plainDigit) = some t ↔ s = t := by
  constructor
  · intro h
    have hmap := eq_of_dropUnderscores h fun c hc => (ht c hc).2.2
    rw [← hmap] at ht ⊢
    exact (map_plainDigit_eq fun c hc => (ht c hc).2.2).symm
  · rintro rfl
    rw [List.map_congr_left fun c hc => (ht c hc).1, List.map_id']
    exact dropUnderscores_of_notMem fun h => (ht _ h).2.1 rfl

/-- The only text that is read as the undefined double is its name. -/
theorem ofText?_eq_nan_iff {s : List Char} : ofText? s = some .nan ↔ NamesUndefined s := by
  constructor
  · intro h
    obtain ⟨t, ht, h⟩ := Option.bind_eq_some_iff.mp h
    obtain ⟨sign, hsign, name, rfl, hname⟩ : ∃ sign ∈ [[], ['-'], ['+']], ∃ name, t = sign ++ name ∧
        name.map Char.toLower = ['n', 'a', 'n'] := by
      simp only [← unsigned?_eq_nan_iff]
      split at h
      · obtain ⟨y, hy, hneg⟩ := Option.map_eq_some_iff.mp h
        rw [neg_eq_nan_iff.mp hneg] at hy
        exact ⟨['-'], by simp, _, rfl, hy⟩
      · exact ⟨['+'], by simp, _, rfl, h⟩
      · exact ⟨[], by simp, _, rfl, h⟩
    exact ⟨sign, hsign, name, hname,
      (dropUnderscores_map_plainDigit_eq_iff (isPlain_of_mem hsign hname)).mp ht⟩
  · rintro ⟨sign, hsign, name, hname, hs⟩
    have hread := unsigned?_eq_nan_iff.mpr hname
    rw [ofText?, (dropUnderscores_map_plainDigit_eq_iff (isPlain_of_mem hsign hname)).mpr hs,
      Option.bind_eq_bind, Option.bind_some]
    simp only [List.mem_cons, List.not_mem_nil, or_false] at hsign
    obtain rfl | rfl | rfl := hsign
    · rw [List.nil_append]
      split
      · cases hname
      · cases hname
      · exact hread
    · exact (congrArg (Option.map (- ·)) hread).trans (congrArg some (neg_eq_nan_iff.mpr rfl))
    · exact hread

theorem ofBytes?_eq_nan_iff {bs : List UInt8} : ofBytes? bs = some .nan ↔
    bs.all (· < 128) = true ∧ NamesUndefined (bs.map fun b => Char.ofNat b.toNat) := by
  rw [ofBytes?, ← ofText?_eq_nan_iff]
  by_cases hascii : bs.all (· < 128) = true
  · rw [if_pos hascii, and_iff_right hascii]
  · rw [if_neg hascii]
    exact iff_of_false nofun fun h => hascii h.1

end Reading

end ClusterLaunch.Decimal
