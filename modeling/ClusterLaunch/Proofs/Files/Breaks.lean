import ClusterLaunch.Config.Reader
import Mathlib.Data.List.Basic

/-! # Line breaks of a file

The text of a file is what its bytes write in UTF-8, with a line feed for each pair of a carriage
return and a line feed and for each carriage return that is left, and with nothing else changed.
So it is the same for all files that write one text with line ends of their own.
-/

namespace ClusterLaunch

open Text

/-- A text with one line feed in place of each pair of a carriage return and a line feed. -/
def joinPairs : List Char → List Char
  | '\r' :: '\n' :: s => '\n' :: joinPairs s
  | c :: s => c :: joinPairs s
  | [] => []

/-- A text with line feeds in place of the pairs, and then of the carriage returns that are left. -/
def withFeeds (s : List Char) : List Char :=
  (joinPairs s).map fun c => if c = '\r' then '\n' else c

theorem unifyBreaks_eq (s : List Char) : unifyBreaks s = withFeeds s := by
  unfold withFeeds
  fun_induction unifyBreaks s with
  | case1 => rfl
  | case2 s ih => rw [joinPairs, List.map_cons, ih, if_neg (by decide)]
  | case3 s hs ih =>
    rw [joinPairs, List.map_cons, ih, if_pos rfl]
    exact fun t _ ht => hs t ht
  | case4 c s hpair hc ih =>
    rw [joinPairs, List.map_cons, ih, if_neg hc]
    exact hpair

section Characters

variable {s : List Char}

theorem toNat_range (c : Char) :
    c.toNat < 0xd800 ∨ 0xdfff < c.toNat ∧ c.toNat < 0x110000 := c.valid

theorem ofCodePoint_toNat (c : Char) :
    ofCodePoint c.toNat = if c = mark then [mark, mark] else [c] := by
  have hvalid : isSurrogate c.toNat = false := by
    have hc := toNat_range c
    simp only [isSurrogate, Bool.and_eq_false_iff, decide_eq_false_iff_not]
    omega
  rw [ofCodePoint, hvalid, if_neg Bool.false_ne_true]
  by_cases hc : c = mark
  · rw [if_pos hc, hc, if_pos rfl]
  · rw [if_neg hc, if_neg fun h => hc (Char.toNat_inj.mp h), Char.ofNat_toNat]

theorem ofChars_cons (c : Char) (s : List Char) :
    ofChars (c :: s) = ofCodePoint c.toNat ++ ofChars s := List.flatMap_cons

theorem codePoints_ofChars (s : List Char) : codePoints (ofChars s) = s.map Char.toNat := by
  have hbound : ∀ n ∈ s.map Char.toNat, n ≤ 0x10ffff := by
    intro n hn
    obtain ⟨c, -, rfl⟩ := List.mem_map.mp hn
    have hc := toNat_range c
    omega
  rw [← codePoints_flatMap_ofCodePoint hbound, List.flatMap_map]
  rfl

theorem unifyBreaks_cons_of_ne {c : Char} (hc : c ≠ '\r') (s : List Char) :
    unifyBreaks (c :: s) = c :: unifyBreaks s := by
  rw [unifyBreaks]
  · exact fun t h _ => hc h
  · exact hc

theorem unifyBreaks_return (h : s.head? ≠ some '\n') :
    unifyBreaks ('\r' :: s) = '\n' :: unifyBreaks s := by
  rw [unifyBreaks]
  rintro t rfl
  exact h rfl

theorem head?_ofChars_ne (h : s.head? ≠ some '\n') : (ofChars s).head? ≠ some '\n' := by
  cases s with
  | nil => exact h
  | cons c s =>
    rw [ofChars_cons, ofCodePoint_toNat]
    split
    · have hmark : some mark ≠ some '\n' := by decide
      exact hmark
    · exact h

/-- Unifying line breaks and marking characters can be done in either order. -/
theorem unifyBreaks_ofChars (s : List Char) :
    unifyBreaks (ofChars s) = ofChars (unifyBreaks s) := by
  fun_induction unifyBreaks s with
  | case1 => rfl
  | case2 s ih => exact congrArg ('\n' :: ·) ih
  | case3 s hs ih =>
    have hhead : s.head? ≠ some '\n' := by
      cases s with
      | nil => simp
      | cons c s => exact fun h => hs s (by rw [Option.some_inj.mp h])
    exact (unifyBreaks_return (head?_ofChars_ne hhead)).trans (congrArg ('\n' :: ·) ih)
  | case4 c s _ hc ih =>
    rw [ofChars_cons, ofChars_cons, ofCodePoint_toNat]
    split
    · have hmark : mark ≠ '\r' := by decide
      rw [List.cons_append, List.singleton_append, unifyBreaks_cons_of_ne hmark,
        unifyBreaks_cons_of_ne hmark, ih]
      rfl
    · rw [List.singleton_append, unifyBreaks_cons_of_ne hc, ih]
      rfl

end Characters

theorem fromUTF8?_toUTF8 (t : String) : String.fromUTF8? t.toUTF8 = some t := by
  unfold String.fromUTF8?
  rw [String.toUTF8_eq_toByteArray, dif_pos t.isValidUTF8]
  rfl

theorem fromUTF8?_eq_some_iff {bytes : ByteArray} {t : String} :
    String.fromUTF8? bytes = some t ↔ bytes = t.toUTF8 := by
  constructor
  · unfold String.fromUTF8?
    split
    · intro h
      rw [← Option.some_inj.mp h]
      rfl
    · nofun
  · rintro rfl
    exact fromUTF8?_toUTF8 t

/-- The text of a file is what its bytes write, with line feeds for all line breaks. -/
theorem textOfBytes?_eq_some_iff {bytes : ByteArray} {text : String} :
    textOfBytes? bytes = some text ↔
      ∃ t : String, bytes = t.toUTF8 ∧ text.toList = ofChars (withFeeds t.toList) := by
  rw [textOfBytes?, Option.map_eq_some_iff]
  refine exists_congr fun t => and_congr fromUTF8?_eq_some_iff ?_
  rw [unifyBreaks_ofChars, unifyBreaks_eq, ← String.toList_inj, String.toList_ofList, eq_comm]

inductive LineEnd where
  | feed
  | pair
  | ret
  deriving DecidableEq, Repr

namespace LineEnd

def chars : LineEnd → List Char
  | feed => ['\n']
  | pair => ['\r', '\n']
  | ret => ['\r']

def write (e : LineEnd) (t : List Char) : List Char :=
  t.flatMap fun c => if c = '\n' then e.chars else [c]

theorem head?_write_ret (t : List Char) : (ret.write t).head? ≠ some '\n' := by
  cases t with
  | nil => nofun
  | cons c t =>
    rw [write, List.flatMap_cons]
    split
    · have hret : some '\r' ≠ some '\n' := by decide
      exact hret
    · rename_i h
      simpa using h

/-- A text without carriage returns is read from a file whichever of the line ends it has there. -/
theorem unifyBreaks_write (e : LineEnd) {t : List Char} (ht : '\r' ∉ t) :
    unifyBreaks (e.write t) = t := by
  induction t with
  | nil => rfl
  | cons c t ih =>
    obtain ⟨hc, ht⟩ := not_or.mp (mt List.mem_cons.mpr ht)
    have hwrite : e.write (c :: t) = (if c = '\n' then e.chars else [c]) ++ e.write t :=
      List.flatMap_cons
    rw [hwrite]
    split
    · rename_i hfeed
      rw [hfeed]
      cases e with
      | feed => exact (unifyBreaks_cons_of_ne (by decide) _).trans (congrArg ('\n' :: ·) (ih ht))
      | pair => exact congrArg ('\n' :: ·) (ih ht)
      | ret => exact (unifyBreaks_return (head?_write_ret t)).trans (congrArg ('\n' :: ·) (ih ht))
    · rw [List.singleton_append, unifyBreaks_cons_of_ne (Ne.symm hc), ih ht]

end LineEnd

end ClusterLaunch
