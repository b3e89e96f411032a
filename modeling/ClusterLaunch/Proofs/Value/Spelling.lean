import ClusterLaunch.Decimal.Integer
import ClusterLaunch.Proofs.Decimal.Written
import ClusterLaunch.Proofs.Value.Calendar
import ClusterLaunch.Value.Scalar

/-! # The spelling of scalars

A scalar that is not a text has a text that tells its type and its value. So two keys with the same
text are the same key, unless one of them is a text that spells the other or both are undefined
numbers.
-/

namespace ClusterLaunch.Scalar

open Decimal

section Bytes

/-- The byte at the beginning of an escaped text, and what follows it. -/
def byteAt? : List Char → Option (ℕ × List Char)
  | '\\' :: 'x' :: high :: low :: s => do
    return (16 * (← digit? 16 high) + (← digit? 16 low), s)
  | '\\' :: 'n' :: s => some (10, s)
  | '\\' :: 'r' :: s => some (13, s)
  | '\\' :: 't' :: s => some (9, s)
  | '\\' :: c :: s => some (c.toNat, s)
  | c :: s => some (c.toNat, s)
  | [] => none

theorem digit?_digitChar : ∀ n < 16, digit? 16 n.digitChar = some n := by decide

theorem byteAt?_codeEscape {n : ℕ} (hn : n < 256) (s : List Char) :
    byteAt? (Text.codeEscape n ++ s) = some (n, s) := by
  have hescape : Text.codeEscape n = ['\\', 'x', (n / 16 % 16).digitChar, (n % 16).digitChar] := by
    rw [Text.codeEscape, if_pos hn]
    rfl
  have hhigh := digit?_digitChar _ (Nat.mod_lt (n / 16) (by decide : 0 < 16))
  have hlow := digit?_digitChar _ (Nat.mod_lt n (by decide : 0 < 16))
  have hvalue : 16 * (n / 16 % 16) + n % 16 = n := by omega
  rw [hescape]
  simp [byteAt?, hhigh, hlow, hvalue]

theorem byteAt?_of_ne {c : Char} (hc : c ≠ '\\') (s : List Char) :
    byteAt? (c :: s) = some (c.toNat, s) := by
  unfold byteAt?
  split <;> simp_all

theorem byteAt?_escapedByte {quote : Char} (hquote : quote = '\'' ∨ quote = '"') (b : UInt8)
    (s : List Char) : byteAt? (escapedByte quote b ++ s) = some (b.toNat, s) := by
  have hb := b.toNat_lt
  have hnat : (Char.ofNat b.toNat).toNat = b.toNat := Text.toNat_ofNat (.inl (by omega))
  unfold escapedByte
  dsimp only
  generalize Char.ofNat b.toNat = c at hnat
  rw [← hnat]
  split
  · unfold Text.escaped
    split_ifs with hmarked hfeed hreturn htab hprintable
    · obtain rfl | rfl := hmarked
      · obtain rfl | rfl := hquote <;> rfl
      · rfl
    · rw [hfeed]
      rfl
    · rw [hreturn]
      rfl
    · rw [htab]
      rfl
    · exact byteAt?_of_ne (fun hc => hmarked (.inr hc)) s
    · exact byteAt?_codeEscape (hnat ▸ hb) s
  · exact byteAt?_codeEscape (hnat ▸ hb) s

theorem byteAt?_flatMap_cons {quote : Char} (hquote : quote = '\'' ∨ quote = '"') (b : UInt8)
    (bs : List UInt8) : byteAt? ((b :: bs).flatMap (escapedByte quote)) =
      some (b.toNat, bs.flatMap (escapedByte quote)) := by
  rw [List.flatMap_cons, byteAt?_escapedByte hquote]

theorem flatMap_escapedByte_injective {quote : Char} (hquote : quote = '\'' ∨ quote = '"') :
    Function.Injective (List.flatMap (escapedByte quote)) := by
  intro bs bs' h
  have hread := congrArg byteAt? h
  induction bs generalizing bs' with
  | nil =>
    cases bs' with
    | nil => rfl
    | cons b' bs' =>
      rw [byteAt?_flatMap_cons hquote] at hread
      cases hread
  | cons b bs ih =>
    rw [byteAt?_flatMap_cons hquote] at hread
    cases bs' with
    | nil => cases hread
    | cons b' bs' =>
      rw [byteAt?_flatMap_cons hquote, Option.some_inj, Prod.mk.injEq] at hread
      rw [UInt8.toNat_inj.mp hread.1, ih hread.2 (congrArg byteAt? hread.2)]

theorem quoteFor_eq (s : List Char) : Text.quoteFor s = '\'' ∨ Text.quoteFor s = '"' := by
  unfold Text.quoteFor
  split
  · exact .inr rfl
  · exact .inl rfl

theorem quotedBytes_injective : Function.Injective quotedBytes := by
  intro bs bs' h
  obtain ⟨hquote, h⟩ := List.cons.inj (List.cons.inj (String.ofList_injective h)).2
  rw [hquote] at h
  exact flatMap_escapedByte_injective (quoteFor_eq _) (List.append_cancel_right h)

end Bytes

section Integers

theorem toList_toString (n : ℤ) :
    (toString n).toList = (if decide (n < 0) then ['-'] else []) ++ Nat.toDigits 10 n.natAbs := by
  rw [Int.toString_eq_repr, Int.repr_eq_if]
  by_cases hn : 0 ≤ n
  · have habs : n.toNat = n.natAbs := by omega
    rw [if_pos hn, decide_eq_false (by omega), Nat.toList_repr, habs]
    rfl
  · have habs : (-n).toNat = n.natAbs := by omega
    rw [if_neg hn, decide_eq_true (by omega), String.toList_append, Nat.toList_repr, habs]
    rfl

theorem toString_injective : Function.Injective (toString : ℤ → String) := by
  intro m n h
  have h := congrArg String.toList h
  have hhead : ∀ n, (Nat.toDigits 10 n).head? ≠ some '-' := fun n => by
    have hne := head?_append_ne (digits_toDigits n) Nat.toDigits_ne_nil []
    rwa [List.append_nil] at hne
  rw [toList_toString, toList_toString] at h
  obtain ⟨hsign, hdigits⟩ := sign_append_inj (hhead _) (hhead _) h
  have habs : m.natAbs = n.natAbs := by
    rw [← number_toDigits m.natAbs, hdigits, number_toDigits]
  have hsign : m < 0 ↔ n < 0 := decide_eq_decide.mp hsign
  omega

end Integers

section Types

def IsTyped (s : Scalar) : Prop := ∀ t, s ≠ .text t

def marks : Scalar → List (Option Char)
  | null => [some 'N']
  | flag _ => [some 'T', some 'F']
  | integer _ => [none]
  | number .. => [some '.', some 'e', some 'i', some 'n']
  | text _ => []
  | bytes _ => [some 'b']
  | date _ | moment _ => [some '-']

theorem mark_toText {s : Scalar} (hs : s.IsTyped) : mark s.toText.toList ∈ s.marks := by
  cases s with
  | null => exact List.mem_cons_self
  | flag b => cases b <;> decide
  | text t => exact absurd rfl (hs t)
  | bytes bs =>
    change mark (quotedBytes bs).toList ∈ _
    rw [quotedBytes, String.toList_ofList]
    exact List.mem_cons_self
  | integer n =>
    refine List.mem_singleton.mpr ?_
    change mark (toString n).toList = none
    rw [toList_toString, mark_sign_append, mark_digits (digits_toDigits _) Nat.toDigits_ne_nil]
  | number x origin =>
    change mark (Decimal.text x).toList ∈ _
    rw [Decimal.toList_text]
    exact Shape.mem_marks (Shape.mark_written _)
  | date d =>
    have h := d.mark_text_append []
    rw [List.append_nil] at h
    exact List.mem_singleton.mpr h
  | moment m =>
    refine List.mem_singleton.mpr ?_
    change mark m.text.toList = _
    rw [m.toList_text, m.date.mark_text_append]

/-- Two keys that are not the same have the same text: one is a text that spells the other, or both
are undefined numbers. -/
inductive Clash : Scalar → Scalar → Prop
  | spelled {s : Scalar} (hs : s.IsTyped) : Clash (.text s.toText) s
  | undefined {i j : ℕ} (hij : i ≠ j) : Clash (.number .nan i) (.number .nan j)

theorem Clash.toText_eq {a b : Scalar} (h : Clash a b) : a.toText = b.toText := by
  cases h <;> rfl

/-- Scalars that are not texts and have the same text are the same key, unless they are
undefined. -/
theorem sameKey_or_clash {a b : Scalar} (ha : a.IsTyped) (hb : b.IsTyped)
    (h : a.toText = b.toText) : a.sameKey b = true ∨ Clash a b := by
  have hc := mark_toText ha
  have hc' := mark_toText hb
  rw [h] at hc
  generalize mark _ = c at hc hc'
  cases a <;> cases b
  case text.text => exact absurd rfl (ha _)
  case null.null => exact .inl rfl
  case flag.flag p q =>
    cases p <;> cases q
    · exact .inl rfl
    · exact absurd h (by decide)
    · exact absurd h (by decide)
    · exact .inl rfl
  case integer.integer m n =>
    have hmn : m = n := toString_injective h
    exact .inl (beq_iff_eq.mpr hmn)
  case number.number x i y j =>
    obtain rfl : x = y := Decimal.text_injective h
    by_cases hx : x = .nan
    · subst hx
      obtain rfl | hij := eq_or_ne i j
      · exact .inl (by simp [sameKey, sameKey.numeric, Float.isNaN_eq_decide_eq_nan])
      · exact .inr (.undefined hij)
    · exact .inl (by simp [sameKey, sameKey.numeric, beq_self hx])
  case bytes.bytes => exact .inl (beq_iff_eq.mpr (quotedBytes_injective h))
  case date.date => exact .inl (beq_iff_eq.mpr (Date.text_injective h))
  case moment.moment m m' =>
    obtain rfl : m = m' := Moment.text_injective h
    left
    simp [sameKey, Moment.same]
  case date.moment d m => exact absurd h.symm (m.text_ne d)
  case moment.date m d => exact absurd h (m.text_ne d)
  -- the others have different marks
  all_goals grind [marks]

/-- Keys that are not the same have the same text only if they clash. -/
theorem toText_eq_iff_clash {a b : Scalar} (hab : a.sameKey b = false) :
    a.toText = b.toText ↔ Clash a b ∨ Clash b a := by
  refine ⟨fun h => ?_, fun h => h.elim Clash.toText_eq fun h => h.toText_eq.symm⟩
  by_cases ha : a.IsTyped
  · by_cases hb : b.IsTyped
    · obtain hsame | hclash := sameKey_or_clash ha hb h
      · rw [hab] at hsame
        cases hsame
      · exact .inl hclash
    · obtain ⟨t, rfl⟩ : ∃ t, b = .text t := by
        simpa [IsTyped] using hb
      obtain rfl : a.toText = t := h
      exact .inr (.spelled ha)
  · obtain ⟨s, rfl⟩ : ∃ s, a = .text s := by
      simpa [IsTyped] using ha
    obtain rfl : s = b.toText := h
    refine .inl (.spelled fun t hb => ?_)
    subst hb
    simp [sameKey, toText] at hab

end Types

end ClusterLaunch.Scalar
