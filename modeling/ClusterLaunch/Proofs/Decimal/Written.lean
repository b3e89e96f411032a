import ClusterLaunch.Decimal.Layout
import ClusterLaunch.Proofs.Decimal.Digits
import ClusterLaunch.Proofs.Decimal.Shortest
import ClusterLaunch.Proofs.Decimal.Undefined

/-! # Written doubles

A written decimal denotes the decimal, in whichever of the forms the layout chooses. Since a decimal
belongs to one double only, two doubles never have the same text.
-/

namespace ClusterLaunch.Decimal

open Text (number)

section Trimming

/-- The digits of a number that are trimmed off are zeros. -/
theorem exists_toDigits_eq {n : ℕ} (hn : n ≠ 0) :
    ∃ z, Nat.toDigits 10 n = trimmedDigits n ++ List.replicate z '0' := by
  obtain ⟨zeros, hzeros⟩ : ∃ zeros, (Nat.toDigits 10 n).reverse.takeWhile (· == '0') = zeros :=
    ⟨_, rfl⟩
  have hall : zeros.reverse = List.replicate zeros.length '0' := by
    refine List.eq_replicate_iff.mpr ⟨List.length_reverse, fun c hc => ?_⟩
    rw [← hzeros] at hc
    exact beq_iff_eq.mp (List.all_eq_true.mp List.all_takeWhile c (List.mem_reverse.mp hc))
  have hsplit : Nat.toDigits 10 n =
      ((Nat.toDigits 10 n).reverse.dropWhile (· == '0')).reverse ++ zeros.reverse := by
    rw [← hzeros, ← List.reverse_append, List.takeWhile_append_dropWhile, List.reverse_reverse]
  rw [hall] at hsplit
  refine ⟨zeros.length, hsplit.trans (congrArg (· ++ _) ?_)⟩
  unfold trimmedDigits
  split
  · rename_i hnone
    rw [hnone, List.nil_append] at hsplit
    refine absurd ?_ hn
    rw [← number_toDigits n, hsplit, number_zeros]
  · rfl

theorem trimmedDigits_ne_nil (n : ℕ) : trimmedDigits n ≠ [] := by
  unfold trimmedDigits
  split
  · exact List.cons_ne_nil _ _
  · assumption

end Trimming

section Reading

/-- The number that a decimal without sign denotes. -/
def valueOf (s : List Char) : ℚ :=
  let whole := s.takeWhile Char.isDigit
  let (part, rest) := match s.dropWhile Char.isDigit with
    | '.' :: t => (t.takeWhile Char.isDigit, t.dropWhile Char.isDigit)
    | t => ([], t)
  number (whole ++ part) * 10 ^ ((exponentOf? rest).getD 0 - part.length)

variable {whole part rest ds : List Char} {e point : ℤ}

/-- An exponent does not begin with a digit or a point. -/
theorem ended_of_exponentOf? (he : exponentOf? rest = some e) :
    Ended rest ∧ ∀ t, rest ≠ '.' :: t := by
  unfold exponentOf? at he
  split at he
  · exact ⟨ended_nil, nofun⟩
  · split at he
    · cases he
    · rename_i c t hc
      have hletter : c = 'e' ∨ c = 'E' := by
        rw [not_and_or, not_not, not_not] at hc
        exact hc
      obtain rfl | rfl := hletter <;> exact ⟨ended_cons rfl, nofun⟩

theorem valueOf_point (hwhole : Digits whole) (hpart : Digits part) (he : exponentOf? rest = some e) :
    valueOf (whole ++ '.' :: (part ++ rest)) = number (whole ++ part) * 10 ^ (e - part.length) := by
  have hpoint : Ended ('.' :: (part ++ rest)) := ended_cons rfl
  have hrest := (ended_of_exponentOf? he).1
  simp only [valueOf, takeWhile_append hwhole hpoint, dropWhile_append hwhole hpoint,
    takeWhile_append hpart hrest, dropWhile_append hpart hrest, he, Option.getD_some]

/-- A point among digits. -/
theorem valueOf_split (hds : Digits ds) (n : ℕ) (he : exponentOf? rest = some e) :
    valueOf (ds.take n ++ '.' :: (ds.drop n ++ rest)) =
      number ds * 10 ^ (e - (ds.length - n : ℕ)) := by
  have hsplit := ds.take_append_drop n
  have hparts := digits_append.mp (hsplit.symm ▸ hds)
  rw [valueOf_point hparts.1 hparts.2 he, hsplit, List.length_drop]

theorem valueOf_whole (hwhole : Digits whole) (he : exponentOf? rest = some e) :
    valueOf (whole ++ rest) = number whole * 10 ^ e := by
  obtain ⟨hrest, hpoint⟩ := ended_of_exponentOf? he
  unfold valueOf
  rw [takeWhile_append hwhole hrest, dropWhile_append hwhole hrest]
  split
  rename_i hsplit
  split at hsplit
  · exact absurd rfl (hpoint _)
  · cases hsplit
    simp [he]

/-- A written exponent is read back. -/
theorem exponentOf?_exponentDigits (e : ℤ) : exponentOf? ('e' :: exponentDigits e) = some e := by
  obtain ⟨ds, hds, hall, hempty, hvalue⟩ : ∃ ds : List Char,
      exponentDigits e = (if e < 0 then '-' else '+') :: ds ∧ ds.all Char.isDigit = true ∧
        ds.isEmpty = false ∧ number ds = e.natAbs := by
    have hdigits := digits_toDigits e.natAbs
    have hnumber := number_toDigits e.natAbs
    refine ⟨_, rfl, ?_⟩
    rw [List.all_eq_true]
    split
    · exact ⟨List.forall_mem_cons.mpr ⟨rfl, hdigits⟩, rfl, (number_zeros_append 1 _).trans hnumber⟩
    · exact ⟨hdigits, List.isEmpty_eq_false_iff.mpr Nat.toDigits_ne_nil, hnumber⟩
  rw [hds]
  by_cases hneg : e < 0
  · simp [exponentOf?, hneg, hall, hempty, hvalue, abs_of_neg]
  · simp [exponentOf?, hneg, hall, hempty, hvalue, abs_of_nonneg (not_lt.mp hneg)]

/-- Digits with a point after some of them, in any of the forms. -/
theorem valueOf_place (hds : Digits ds) (hne : ds ≠ []) (point : ℤ) :
    valueOf (Layout.full.place ds point) = number ds * 10 ^ (point - ds.length) := by
  have hlength : 0 < ds.length := List.length_pos_iff.mpr hne
  have hend : exponentOf? [] = some 0 := rfl
  unfold Layout.place
  split_ifs with hmiddle hsmall hlarge hkeeps hone
  · -- the point stands before all digits
    have hpart : Digits (List.replicate (-point).toNat '0' ++ ds) :=
      digits_append.mpr ⟨digits_zeros _, hds⟩
    have h := valueOf_point (digits_zeros 1) hpart hend
    rw [List.append_nil, number_zeros_append, number_zeros_append, List.length_append,
      List.length_replicate] at h
    refine h.trans (congrArg _ (congrArg _ ?_))
    omega
  · -- the point stands after zeros that follow the digits
    have hwhole : Digits (ds ++ List.replicate (point.toNat - ds.length) '0') :=
      digits_append.mpr ⟨hds, digits_zeros _⟩
    have h := valueOf_point hwhole (digits_zeros 1) hend
    rw [List.append_nil, number_append, number_append, number_zeros, number_zeros] at h
    rw [List.length_replicate, List.length_replicate, Nat.add_zero, Nat.add_zero] at h
    refine h.trans ?_
    have hexponent : point - ds.length = (point.toNat - ds.length : ℕ) := by omega
    rw [hexponent, zpow_natCast]
    push_cast
    norm_num
    ring
  · exact absurd rfl hkeeps
  · -- the point stands among the digits
    have h := valueOf_split hds point.toNat hend
    rw [List.append_nil] at h
    refine h.trans (congrArg _ (congrArg _ ?_))
    omega
  · -- one digit and an exponent
    have h := valueOf_whole hds (exponentOf?_exponentDigits (point - 1))
    rw [List.take_of_length_le hone.le, List.append_nil, h, hone, Nat.cast_one]
  · -- a point after the first digit, and an exponent
    have h := valueOf_split hds 1 (exponentOf?_exponentDigits (point - 1))
    rw [List.append_assoc, List.cons_append]
    refine h.trans (congrArg _ (congrArg _ ?_))
    omega

/-- What is laid out for a decimal. -/
theorem exists_write_eq_place (d : Scientific) : ∃ ds point, Layout.full.write d =
    Layout.full.place ds point ∧ Digits ds ∧ ds ≠ [] ∧
      number ds * (10 : ℚ) ^ (point - ds.length : ℤ) = d.value := by
  unfold Layout.write Scientific.value
  split
  · rename_i hzero
    refine ⟨['0'], 1, rfl, digits_zeros 1, List.cons_ne_nil _ _, ?_⟩
    simp [hzero, number]
  · rename_i hpos
    obtain ⟨z, hz⟩ := exists_toDigits_eq hpos
    have hdigits : (d.digits : ℚ) = number (trimmedDigits d.digits) * 10 ^ (z : ℤ) := by
      have hnumber := number_toDigits d.digits
      rw [hz, number_append, number_zeros, List.length_replicate, add_zero] at hnumber
      rw [zpow_natCast]
      exact_mod_cast hnumber.symm
    have hexponent : ((Nat.toDigits 10 d.digits).length : ℤ) + d.exponent -
        (trimmedDigits d.digits).length = z + d.exponent := by
      rw [hz, List.length_append, List.length_replicate]
      omega
    refine ⟨_, _, rfl, (digits_append.mp (hz ▸ digits_toDigits _)).1, trimmedDigits_ne_nil _, ?_⟩
    rw [hexponent, zpow_add₀ (by norm_num), ← mul_assoc, ← hdigits]

/-- A written decimal denotes the decimal. -/
theorem valueOf_write (d : Scientific) : valueOf (Layout.full.write d) = d.value := by
  obtain ⟨ds, point, hwrite, hds, hne, hvalue⟩ := exists_write_eq_place d
  rw [hwrite, valueOf_place hds hne, hvalue]

/-- A decimal has digits before its point, or before its exponent. -/
theorem exists_place_eq (hds : Digits ds) (hne : ds ≠ []) (point : ℤ) :
    ∃ whole c t, Layout.full.place ds point = whole ++ c :: t ∧ Digits whole ∧ whole ≠ [] ∧
      (c = '.' ∨ c = 'e') := by
  have htake : ∀ n, 0 < n → ds.take n ≠ [] := by
    intro n hn
    rw [Ne, List.take_eq_nil_iff]
    exact not_or.mpr ⟨hn.ne', hne⟩
  have hwhole : ∀ n, Digits (ds.take n) := fun n c hc => hds c (List.mem_of_mem_take hc)
  unfold Layout.place
  split_ifs with hmiddle hsmall hlarge hkeeps hone
  · exact ⟨['0'], '.', _, rfl, digits_zeros 1, List.cons_ne_nil _ _, .inl rfl⟩
  · exact ⟨_, '.', _, rfl, digits_append.mpr ⟨hds, digits_zeros _⟩,
      List.append_ne_nil_of_left_ne_nil hne _, .inl rfl⟩
  · exact absurd rfl hkeeps
  · exact ⟨_, '.', _, rfl, hwhole _, htake _ (by omega), .inl rfl⟩
  · rw [List.append_nil]
    exact ⟨_, 'e', _, rfl, hwhole 1, htake 1 one_pos, .inr rfl⟩
  · rw [List.append_assoc, List.cons_append]
    exact ⟨_, '.', _, rfl, hwhole 1, htake 1 one_pos, .inl rfl⟩

theorem exists_write_eq (d : Scientific) : ∃ whole c t, Layout.full.write d = whole ++ c :: t ∧
    Digits whole ∧ whole ≠ [] ∧ (c = '.' ∨ c = 'e') := by
  obtain ⟨ds, point, hwrite, hds, hne, -⟩ := exists_write_eq_place d
  rw [hwrite]
  exact exists_place_eq hds hne point

end Reading

section Shapes

variable {x y : Float}

theorem ofFloat_eq_nan_iff : Shape.ofFloat x = .nan ↔ x = .nan := by
  rw [eq_nan_iff_isNaN]
  change _ ↔ (Float.Model.UnpackedFloat.unpack Float.Model.Format.binary64
    x.toBits.toBitVec).isNaN = true
  rw [unpack_isNaN_iff, ← BitVec.toNat_inj, Ne, ← BitVec.toNat_inj]
  change _ ↔ x.toBits.toNat >>> 52 % 2 ^ 11 = 2047 ∧ ¬ x.toBits.toNat % 2 ^ 52 = 0
  rw [Nat.shiftRight_eq_div_pow]
  unfold Shape.ofFloat
  dsimp only [Nat.pow_eq]
  split_ifs <;> simp_all

theorem ofFloat_injective : Function.Injective Shape.ofFloat := by
  intro x y h
  by_cases hnan : Shape.ofFloat x = .nan
  · exact (ofFloat_eq_nan_iff.mp hnan).trans (ofFloat_eq_nan_iff.mp (h.symm.trans hnan)).symm
  · have hbits : x.toBits.toNat = y.toBits.toNat := by
      have hx := x.toBits.toNat_lt
      have hy := y.toBits.toNat_lt
      unfold Shape.ofFloat at h hnan
      dsimp only [Nat.pow_eq] at h hnan
      split_ifs at h hnan <;> simp at h hnan <;> omega
    rw [← Float.ofBits_toBits x, ← Float.ofBits_toBits y, UInt64.toNat_inj.mp hbits]

/-- The magnitude of a finite double has a number. -/
theorem exists_ofFloat_eq_finite {negative : Bool} {m : ℕ} {e : ℤ}
    (h : Shape.ofFloat x = .finite negative m e) :
    ∃ k < 2047 * 2 ^ 52, mantissaAt k = m ∧ exponentAt k = e := by
  refine ⟨x.toBits.toNat % 2 ^ 63, ?_⟩
  have hlt := x.toBits.toNat_lt
  unfold Shape.ofFloat at h
  dsimp only [Nat.pow_eq] at h
  unfold exponentAt mantissaAt stepsAt
  split_ifs at h
  · cases h
    omega
  · cases h
    omega

def Shape.written : Shape → List Char
  | finite negative m e => (if negative then ['-'] else []) ++ Layout.full.write (shortest m e)
  | infinite negative => (if negative then ['-'] else []) ++ ['i', 'n', 'f']
  | nan => ['n', 'a', 'n']

theorem toList_text (x : Float) : (text x).toList = (Shape.ofFloat x).written := by
  unfold text Layout.text
  cases Shape.ofFloat x with
  | finite negative | infinite negative => cases negative <;> exact String.toList_ofList
  | nan => rfl

def Shape.marks : Shape → List (Option Char)
  | finite .. => [some '.', some 'e']
  | infinite _ => [some 'i']
  | nan => [some 'n']

theorem Shape.mark_written (shape : Shape) : mark shape.written ∈ shape.marks := by
  cases shape with
  | finite negative m e =>
    obtain ⟨whole, c, t, heq, hwhole, hne, hc⟩ := exists_write_eq (shortest m e)
    have hdigit : c.isDigit = false := by obtain rfl | rfl := hc <;> rfl
    rw [written, mark_sign_append, heq, mark_append_cons hwhole hne hdigit]
    simpa [marks] using hc
  | infinite negative =>
    rw [written, mark_sign_append]
    exact List.mem_cons_self
  | nan => exact List.mem_cons_self

theorem Shape.mem_marks {shape : Shape} {c : Option Char} (hc : c ∈ shape.marks) :
    c ∈ [some '.', some 'e', some 'i', some 'n'] := by
  have hsub : shape.marks ⊆ [some '.', some 'e', some 'i', some 'n'] := by
    cases shape <;> simp [marks]
  exact hsub hc

theorem head?_write (d : Scientific) : (Layout.full.write d).head? ≠ some '-' := by
  obtain ⟨whole, c, t, heq, hwhole, hne, -⟩ := exists_write_eq d
  rw [heq]
  exact head?_append_ne hwhole hne _

/-- The text of the magnitude of a finite double tells its number. -/
theorem number_unique {j k : ℕ} (hj : j < 2047 * 2 ^ 52) (hk : k < 2047 * 2 ^ 52)
    (h : Layout.full.write (shortest (mantissaAt j) (exponentAt j)) =
      Layout.full.write (shortest (mantissaAt k) (exponentAt k))) : j = k := by
  have hvalue := congrArg valueOf h
  rw [valueOf_write, valueOf_write] at hvalue
  exact (belongsTo_shortest hj).unique (hvalue ▸ belongsTo_shortest hk)

/-- No two doubles have the same text. -/
theorem text_injective : Function.Injective text := by
  intro x y h
  refine ofFloat_injective ?_
  have hwritten : (Shape.ofFloat x).written = (Shape.ofFloat y).written := by
    rw [← toList_text, ← toList_text, h]
  have hc := (Shape.ofFloat x).mark_written
  have hc' := (Shape.ofFloat y).mark_written
  rw [hwritten] at hc
  generalize mark _ = c at hc hc'
  cases hx : Shape.ofFloat x <;> cases hy : Shape.ofFloat y <;>
    simp only [hx, hy] at hc hc' hwritten
  case finite.finite =>
    obtain ⟨j, hj, rfl, rfl⟩ := exists_ofFloat_eq_finite hx
    obtain ⟨k, hk, rfl, rfl⟩ := exists_ofFloat_eq_finite hy
    obtain ⟨rfl, hmagnitude⟩ := sign_append_inj (head?_write _) (head?_write _) hwritten
    rw [number_unique hj hk hmagnitude]
  case infinite.infinite =>
    rw [(sign_append_inj (by decide) (by decide) hwritten).1]
  case nan.nan => rfl
  -- the others have different marks
  all_goals grind [Shape.marks]

end Shapes

end ClusterLaunch.Decimal
