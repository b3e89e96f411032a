/-! # Code points

A text holds code points. Surrogates are code points that no character stands for, so a text
writes each as two characters, a mark and a stand-in. The mark is the last character; where it
stands for itself it is written twice. Reading the code points of what was written gives them
back.
-/

namespace ClusterLaunch.Text

/-- The character in front of the stand-in of a surrogate. -/
def mark : Char := Char.ofNat 0x10ffff

def isSurrogate (n : Nat) : Bool := 0xd800 ≤ n && n ≤ 0xdfff

/-- The character that stands for a surrogate after the mark. -/
def standIn (n : Nat) : Char := Char.ofNat (n + 0x101800)

/-- The code point that a character after the mark stands for. -/
def afterMark (c : Char) : Nat :=
  if 0x10f000 ≤ c.toNat ∧ c.toNat ≤ 0x10f7ff then c.toNat - 0x101800 else c.toNat

def ofCodePoint (n : Nat) : List Char :=
  if isSurrogate n then [mark, standIn n]
  else if n = mark.toNat then [mark, mark]
  else [Char.ofNat n]

def ofChars (s : List Char) : List Char := s.flatMap fun c => ofCodePoint c.toNat

def codePoints : List Char → List Nat
  | [] => []
  | [c] => [c.toNat]
  | c :: d :: rest =>
    if c = mark then afterMark d :: codePoints rest else c.toNat :: codePoints (d :: rest)

/-- How many bytes a code point takes in a file name. A surrogate stands for a single byte. -/
def byteSize (n : Nat) : Nat :=
  if n < 0x80 ∨ isSurrogate n then 1 else if n < 0x800 then 2 else if n < 0x10000 then 3 else 4

theorem codePoints_cons_of_ne {c : Char} (h : c ≠ mark) (s : List Char) :
    codePoints (c :: s) = c.toNat :: codePoints s := by
  cases s with
  | nil => rfl
  | cons d s => simp [codePoints, h]

theorem toNat_ofNat {n : Nat} (h : n.isValidChar) : (Char.ofNat n).toNat = n := by
  unfold Char.ofNat
  rw [dif_pos h]
  rfl

theorem toNat_standIn {n : Nat} (h : isSurrogate n) : (standIn n).toNat = n + 0x101800 := by
  simp only [isSurrogate, Bool.and_eq_true, decide_eq_true_eq] at h
  exact toNat_ofNat (Or.inr ⟨by omega, by omega⟩)

theorem codePoints_ofCodePoint_append {n : Nat} (h : n ≤ 0x10ffff) (s : List Char) :
    codePoints (ofCodePoint n ++ s) = n :: codePoints s := by
  unfold ofCodePoint
  split
  · rename_i hs
    have hs' := hs
    simp only [isSurrogate, Bool.and_eq_true, decide_eq_true_eq] at hs'
    simp only [List.cons_append, List.nil_append, codePoints, if_pos, afterMark,
      toNat_standIn hs]
    rw [if_pos (by omega)]
    simp
  · rename_i hs
    split
    · rename_i hm
      have : mark.toNat = 0x10ffff := by decide
      simp [codePoints, afterMark, hm, this]
    · rename_i hm
      have hv : n.isValidChar := by
        simp only [isSurrogate, Bool.and_eq_true, decide_eq_true_eq] at hs
        rcases Nat.lt_or_ge n 0xd800 with h' | h'
        · exact Or.inl h'
        · exact Or.inr ⟨by omega, by omega⟩
      have hc := toNat_ofNat hv
      rw [List.singleton_append, codePoints_cons_of_ne (fun he => hm (by rw [← he, hc])), hc]

/-- What was written is read back. -/
theorem codePoints_flatMap_ofCodePoint {ns : List Nat} (h : ∀ n ∈ ns, n ≤ 0x10ffff) :
    codePoints (ns.flatMap ofCodePoint) = ns := by
  induction ns with
  | nil => rfl
  | cons n ns ih =>
    rw [List.flatMap_cons, codePoints_ofCodePoint_append (h n (by simp)),
      ih fun m hm => h m (by simp [hm])]

end ClusterLaunch.Text
