import ClusterLaunch.Proofs.Text.Lowercase
import ClusterLaunch.Text.CodePoint

/-! # Text in lowercase

The lowercase form of a text is its own lowercase form. The table decides this for single
characters: no lowercase form has another one. A dot is passed over by a sigma that looks for
letters, so it may be put to the end of a text or of its lowercase form. Of the ASCII letters only
the k is the lowercase form of a letter that is not ASCII.
-/

namespace ClusterLaunch.Text

namespace CaseRun

/-- No lowercase form of one run is covered by another one. -/
def apart (r q : CaseRun) : Bool :=
  (r.image r.last).blt q.first || q.last.blt r.target ||
    (List.range (r.last - r.first + 1)).all fun i => i % r.step != 0 || !q.covers (r.target + i)

/-- The lowercase forms of a run are characters, and neither a dot nor the dotted capital I is one
of them. -/
def fits (r : CaseRun) : Bool :=
  '.'.toNat < r.target && (r.image r.last < 0x130 || 0x130 < r.target) &&
    (r.image r.last < 0xd800 || 0xdfff < r.target && r.image r.last < 0x110000)

variable {r q : CaseRun} {c : Nat}

theorem covers_iff : r.covers c = true ↔
    r.first ≤ c ∧ c ≤ r.last ∧ (c - r.first) % r.step = 0 := by
  simp [covers, and_assoc]

theorem target_le_image : r.target ≤ r.image c := Nat.le_add_right _ _

theorem image_le (h : r.covers c = true) : r.image c ≤ r.image r.last :=
  Nat.add_le_add_left (Nat.sub_le_sub_right (covers_iff.mp h).2.1 _) _

theorem not_covers_image (hrq : r.apart q = true) (h : r.covers c = true) :
    q.covers (r.image c) = false := by
  have hlow : r.target ≤ r.image c := target_le_image
  have hhigh : r.image c ≤ r.image r.last := image_le h
  obtain ⟨hfirst, hlast, hstep⟩ := covers_iff.mp h
  simp only [apart, Bool.or_eq_true, Nat.blt_eq, List.all_eq_true, List.mem_range, bne_iff_ne,
    Bool.not_eq_true'] at hrq
  obtain (hbefore | hafter) | hamong := hrq
  · exact Bool.eq_false_iff.mpr fun hq => by
      have := (covers_iff.mp hq).1
      omega
  · exact Bool.eq_false_iff.mpr fun hq => by
      have := (covers_iff.mp hq).2.1
      omega
  · exact (hamong (c - r.first) (by omega)).resolve_left (not_not.mpr hstep)

end CaseRun

theorem apart_of_mem_lowerRuns {r q : CaseRun} (hr : r ∈ lowerRuns) (hq : q ∈ lowerRuns) :
    r.apart q = true := by
  have hall : (lowerRuns.all fun r => lowerRuns.all r.apart) = true := by decide +kernel
  exact List.all_eq_true.mp (List.all_eq_true.mp hall r hr) q hq

theorem fits_of_mem_lowerRuns {r : CaseRun} (hr : r ∈ lowerRuns) : r.fits = true := by
  have hall : lowerRuns.all CaseRun.fits = true := by decide +kernel
  exact List.all_eq_true.mp hall r hr

theorem toNat_image {r : CaseRun} {c : Nat} (hr : r ∈ lowerRuns) (h : r.covers c = true) :
    (Char.ofNat (r.image c)).toNat = r.image c := by
  have hfits := fits_of_mem_lowerRuns hr
  have hlow : r.target ≤ r.image c := CaseRun.target_le_image
  have hhigh : r.image c ≤ r.image r.last := CaseRun.image_le h
  simp only [CaseRun.fits, Bool.and_eq_true, Bool.or_eq_true, decide_eq_true_eq] at hfits
  refine toNat_ofNat ?_
  obtain hsmall | ⟨hbig, hmax⟩ := hfits.2
  · exact .inl (by omega)
  · exact .inr ⟨by omega, by omega⟩

/-- What the lowercase form of a character is: itself, the one that the table has, or two characters
for the dotted capital I. -/
theorem lowerChar_cases (c : Char) :
    lowerChar c = [c] ∨ lowerChar c = ['i', Char.ofNat 0x307] ∨
      ∃ r ∈ lowerRuns, r.covers c.toNat = true ∧ lowerChar c = [Char.ofNat (r.image c.toNat)] := by
  unfold lowerChar
  split
  · exact .inr (.inl rfl)
  · split
    · rename_i r hr
      have hcovers : r.covers c.toNat = true :=
        List.find?_some (p := fun r : CaseRun => r.covers c.toNat) hr
      exact .inr (.inr ⟨r, List.mem_of_find?_eq_some hr, hcovers, rfl⟩)
    · exact .inl rfl

theorem lowerChar_eq_self {c : Char} (hne : c.toNat ≠ 0x130)
    (h : ∀ q ∈ lowerRuns, q.covers c.toNat = false) : lowerChar c = [c] := by
  have hnone : lowerRuns.find? (·.covers c.toNat) = none :=
    List.find?_eq_none.mpr fun q hq => Bool.eq_false_iff.mp (h q hq)
  rw [lowerChar, if_neg hne, hnone]

theorem lowerChar_of_mem {c d : Char} (h : d ∈ lowerChar c) : lowerChar d = [d] := by
  obtain hself | htwo | ⟨r, hr, hcovers, himage⟩ := lowerChar_cases c
  · rw [hself, List.mem_singleton] at h
    exact h ▸ hself
  · rw [htwo, List.mem_pair] at h
    obtain rfl | rfl := h <;> rfl
  · rw [himage, List.mem_singleton] at h
    have hfits := fits_of_mem_lowerRuns hr
    have hlow : r.target ≤ r.image c.toNat := CaseRun.target_le_image
    have hhigh := CaseRun.image_le hcovers
    simp only [CaseRun.fits, Bool.and_eq_true, Bool.or_eq_true, decide_eq_true_eq] at hfits
    have hd : d.toNat = r.image c.toNat := h ▸ toNat_image hr hcovers
    refine lowerChar_eq_self (by omega) fun q hq => ?_
    rw [hd]
    exact CaseRun.not_covers_image (apart_of_mem_lowerRuns hr hq) hcovers

theorem lowerChar_ne_nil (c : Char) : lowerChar c ≠ [] := by
  obtain h | h | ⟨r, -, -, h⟩ := lowerChar_cases c <;> simp [h]

theorem dot_mem_lowerChar_iff {c : Char} : '.' ∈ lowerChar c ↔ c = '.' := by
  constructor
  · intro h
    obtain hself | htwo | ⟨r, hr, hcovers, himage⟩ := lowerChar_cases c
    · rw [hself, List.mem_singleton] at h
      exact h.symm
    · rw [htwo] at h
      exact absurd h (by decide)
    · rw [himage, List.mem_singleton] at h
      have hfits := fits_of_mem_lowerRuns hr
      have hlow : r.target ≤ r.image c.toNat := CaseRun.target_le_image
      simp only [CaseRun.fits, Bool.and_eq_true, decide_eq_true_eq] at hfits
      have hdot : '.'.toNat = r.image c.toNat := h ▸ toNat_image hr hcovers
      omega
  · rintro rfl
    decide

/-- The lowercase form of a character between others, those before it in reverse. -/
def lowerBetween (before : List Char) (c : Char) (rest : List Char) : List Char :=
  if c = 'Σ' then [if meetsLetter before && !meetsLetter rest then 'ς' else 'σ'] else lowerChar c

theorem lowerAfter_cons (before : List Char) (c : Char) (rest : List Char) :
    lowerAfter before (c :: rest) = lowerBetween before c rest ++ lowerAfter (c :: before) rest :=
  rfl

section LowerBetween

variable {before rest : List Char} {c d : Char}

theorem lowerBetween_of_ne (h : c ≠ 'Σ') : lowerBetween before c rest = lowerChar c := if_neg h

theorem lowerBetween_sigma (before rest : List Char) :
    lowerBetween before 'Σ' rest = ['ς'] ∨ lowerBetween before 'Σ' rest = ['σ'] := by
  unfold lowerBetween
  rw [if_pos rfl]
  split
  · exact .inl rfl
  · exact .inr rfl

theorem lowerBetween_ne_nil : lowerBetween before c rest ≠ [] := by
  by_cases hc : c = 'Σ'
  · subst hc
    obtain h | h := lowerBetween_sigma before rest <;> simp [h]
  · rw [lowerBetween_of_ne hc]
    exact lowerChar_ne_nil c

theorem lowerChar_of_mem_lowerBetween (h : d ∈ lowerBetween before c rest) :
    lowerChar d = [d] := by
  by_cases hc : c = 'Σ'
  · subst hc
    obtain hs | hs := lowerBetween_sigma before rest
    · rw [hs, List.mem_singleton] at h
      subst h
      rfl
    · rw [hs, List.mem_singleton] at h
      subst h
      rfl
  · rw [lowerBetween_of_ne hc] at h
    exact lowerChar_of_mem h

theorem dot_mem_lowerBetween_iff : '.' ∈ lowerBetween before c rest ↔ c = '.' := by
  by_cases hc : c = 'Σ'
  · subst hc
    obtain h | h := lowerBetween_sigma before rest <;> simp [h]
  · rw [lowerBetween_of_ne hc]
    exact dot_mem_lowerChar_iff

/-- A capital sigma is not its own lowercase form, so its place does not matter here. -/
theorem lowerBetween_of_lower (h : lowerChar c = [c]) : lowerBetween before c rest = [c] := by
  rw [lowerBetween_of_ne ?_, h]
  rintro rfl
  revert h
  decide

theorem lowerBetween_of_ascii (h : c.toNat < 128) : lowerBetween before c rest = [c.toLower] := by
  have hall : ∀ n < 128, lowerChar (Char.ofNat n) = [(Char.ofNat n).toLower] := by
    decide +kernel
  have hne : c ≠ 'Σ' := by
    rintro rfl
    revert h
    decide
  rw [lowerBetween_of_ne hne]
  simpa only [Char.ofNat_toNat] using hall c.toNat h

theorem meetsLetter_append_dot (s : List Char) : meetsLetter (s ++ ['.']) = meetsLetter s := by
  induction s with
  | nil => rfl
  | cons c s ih =>
    unfold meetsLetter at ih ⊢
    rw [List.cons_append, List.dropWhile_cons, List.dropWhile_cons]
    by_cases h : caseIgnorable.contains c.toNat = true
    · rw [if_pos h, if_pos h]
      exact ih
    · rw [if_neg h, if_neg h]

theorem lowerBetween_append_dot :
    lowerBetween before c (rest ++ ['.']) = lowerBetween before c rest := by
  unfold lowerBetween
  rw [meetsLetter_append_dot]

end LowerBetween

theorem lowerChar_of_mem_lowerAfter {before s : List Char} {d : Char}
    (h : d ∈ lowerAfter before s) : lowerChar d = [d] := by
  induction s generalizing before with
  | nil => cases h
  | cons c rest ih =>
    rw [lowerAfter_cons, List.mem_append] at h
    exact h.elim lowerChar_of_mem_lowerBetween ih

theorem lowerAfter_eq_self {before s : List Char} (h : ∀ c ∈ s, lowerChar c = [c]) :
    lowerAfter before s = s := by
  induction s generalizing before with
  | nil => rfl
  | cons c rest ih =>
    obtain ⟨hc, hrest⟩ := List.forall_mem_cons.mp h
    rw [lowerAfter_cons, lowerBetween_of_lower hc, ih hrest, List.singleton_append]

/-- The lowercase form of a text is its own lowercase form. -/
theorem lower_lower (s : List Char) : lower (lower s) = lower s :=
  lowerAfter_eq_self fun _ => lowerChar_of_mem_lowerAfter

theorem lowerAfter_append_dot (before s : List Char) :
    lowerAfter before (s ++ ['.']) = lowerAfter before s ++ ['.'] := by
  induction s generalizing before with
  | nil =>
    have hdot : lowerChar '.' = ['.'] := rfl
    rw [List.nil_append, lowerAfter_cons, lowerBetween_of_lower hdot]
    rfl
  | cons c rest ih =>
    rw [List.cons_append, lowerAfter_cons, lowerAfter_cons, lowerBetween_append_dot, ih,
      List.append_assoc]

theorem lower_append_dot (s : List Char) : lower (s ++ ['.']) = lower s ++ ['.'] :=
  lowerAfter_append_dot [] s

theorem lowerAfter_eq_nil_iff {before s : List Char} : lowerAfter before s = [] ↔ s = [] := by
  cases s with
  | nil => exact iff_of_true rfl rfl
  | cons c rest =>
    rw [lowerAfter_cons, List.append_eq_nil_iff]
    exact iff_of_false (fun h => lowerBetween_ne_nil h.1) (List.cons_ne_nil c rest)

theorem lower_eq_nil_iff {s : List Char} : lower s = [] ↔ s = [] := lowerAfter_eq_nil_iff

theorem getLast?_lowerAfter_eq_dot_iff {before s : List Char} :
    (lowerAfter before s).getLast? = some '.' ↔ s.getLast? = some '.' := by
  induction s generalizing before with
  | nil => rfl
  | cons c rest ih =>
    rw [lowerAfter_cons]
    cases rest with
    | nil =>
      rw [lowerAfter, List.append_nil, List.getLast?_singleton, Option.some_inj]
      constructor
      · intro h
        exact dot_mem_lowerBetween_iff.mp (List.mem_of_getLast? h)
      · rintro rfl
        rw [lowerBetween_of_lower rfl]
        rfl
    | cons d t =>
      have hne : lowerAfter (c :: before) (d :: t) ≠ [] := mt lowerAfter_eq_nil_iff.mp (by simp)
      rw [List.getLast?_append_of_ne_nil _ hne, ih, List.getLast?_cons_cons]

/-- The lowercase form of a text ends in a dot exactly when the text does. -/
theorem getLast?_lower_eq_dot_iff {s : List Char} :
    (lower s).getLast? = some '.' ↔ s.getLast? = some '.' := getLast?_lowerAfter_eq_dot_iff

theorem lowerAfter_of_ascii {before s : List Char} (h : ∀ c ∈ s, c.toNat < 128) :
    lowerAfter before s = s.map Char.toLower := by
  induction s generalizing before with
  | nil => rfl
  | cons c rest ih =>
    obtain ⟨hc, hrest⟩ := List.forall_mem_cons.mp h
    rw [lowerAfter_cons, lowerBetween_of_ascii hc, ih hrest, List.map_cons,
      List.singleton_append]

theorem lower_of_ascii {s : List Char} (h : ∀ c ∈ s, c.toNat < 128) :
    lower s = s.map Char.toLower := lowerAfter_of_ascii h

section Words

/-- An ASCII letter that only ASCII letters have as their lowercase form. The letter k is also that
of the Kelvin sign. -/
def IsFaithful (c : Char) : Prop := c.toNat < 128 ∧ c ≠ 'k'

instance : DecidablePred IsFaithful := fun c => inferInstanceAs (Decidable (c.toNat < 128 ∧ c ≠ 'k'))

theorem ascii_of_toLower {c : Char} (h : c.toLower.toNat < 128) : c.toNat < 128 := by
  by_cases hc : c.isUpper = true
  · obtain ⟨n, hn, rfl, -⟩ := exists_of_isUpper hc
    have hall : ∀ n < 26, (Char.ofNat (0x41 + n)).toNat < 128 := by decide
    exact hall n hn
  · rwa [Char.toLower_eq_of_not_isUpper hc] at h

theorem ascii_of_lowerChar {c : Char} (h : ∀ d ∈ lowerChar c, IsFaithful d) : c.toNat < 128 := by
  have hall : ∀ r ∈ lowerRuns, 128 ≤ r.target ∨ r.last < 128 ∨
      r.first = r.last ∧ r.target = 'k'.toNat := by decide +kernel
  obtain hself | htwo | ⟨r, hr, hcovers, himage⟩ := lowerChar_cases c
  · exact (h c (hself ▸ List.mem_singleton_self c)).1
  · have hmark : IsFaithful (Char.ofNat 0x307) := h _ (by simp [htwo])
    exact absurd hmark (by decide)
  · have hd := h _ (himage ▸ List.mem_singleton_self _)
    have hlow : r.target ≤ r.image c.toNat := CaseRun.target_le_image
    obtain ⟨hfirst, hlast, -⟩ := CaseRun.covers_iff.mp hcovers
    obtain hbig | hsmall | ⟨hsingle, hkelvin⟩ := hall r hr
    · have := toNat_image hr hcovers ▸ hd.1
      omega
    · omega
    · have hoffset : r.image c.toNat = 'k'.toNat := by
        rw [CaseRun.image, hkelvin]
        omega
      exact absurd (hoffset ▸ Char.ofNat_toNat 'k') hd.2

theorem ascii_of_lowerAfter {before s : List Char} (h : ∀ d ∈ lowerAfter before s, IsFaithful d) :
    ∀ c ∈ s, c.toNat < 128 := by
  induction s generalizing before with
  | nil => nofun
  | cons c rest ih =>
    rw [lowerAfter_cons] at h
    obtain ⟨hc, hrest⟩ := List.forall_mem_append.mp h
    refine List.forall_mem_cons.mpr ⟨?_, ih hrest⟩
    by_cases hsigma : c = 'Σ'
    · subst hsigma
      obtain hs | hs := lowerBetween_sigma before rest
      · exact absurd (hc 'ς' (by simp [hs])) (by decide)
      · exact absurd (hc 'σ' (by simp [hs])) (by decide)
    · exact ascii_of_lowerChar (lowerBetween_of_ne hsigma ▸ hc)

/-- A word of faithful letters is the lowercase form of the texts that write it with ASCII letters
of either case, and of no other text. -/
theorem lower_eq_iff {s w : List Char} (hw : ∀ c ∈ w, IsFaithful c) :
    lower s = w ↔ s.map Char.toLower = w := by
  constructor
  · rintro rfl
    exact (lower_of_ascii (ascii_of_lowerAfter hw)).symm
  · rintro rfl
    exact lower_of_ascii fun c hc =>
      ascii_of_toLower (hw c.toLower (List.mem_map_of_mem hc)).1

end Words

end ClusterLaunch.Text
