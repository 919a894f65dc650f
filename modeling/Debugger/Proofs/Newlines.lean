import Debugger.Proofs.Span
import Mathlib.Data.Nat.Count

/-!
# Counting newlines

A line index is made from the characters of a text and asked for bytes. The line of a byte is one more than the newlines
among the bytes before it (`LineIndex.lineAt_eq_count`), for a line starts just behind each byte that is a newline
(`LineIndex.succ_mem_startsAfter_iff`): no character but the newline has this byte in its encoded form.
-/

namespace Debugger

namespace Text

/-- The byte at an offset of a text is a newline. -/
def NewlineAt (source : String) (offset : Nat) : Prop := source.toUTF8.data[offset]? = some '\n'.toUInt8

instance (source : String) : DecidablePred (NewlineAt source) := fun _ => inferInstanceAs (Decidable (_ = _))

private theorem newline_mem_utf8EncodeChar {c : Char} : '\n'.toUInt8 ∈ String.utf8EncodeChar c ↔ c = '\n' := by
  constructor
  · intro h
    have hbyte : '\n'.toUInt8.toNat = 10 := rfl
    have hcode : c.toNat = 10 → c = '\n' := fun h => Char.toNat_inj.1 h
    unfold String.utf8EncodeChar at h
    simp only [Char.toNat_val] at h
    -- the bytes of a character that has more than one of them are from 128 on
    split_ifs at h <;>
      simp only [List.mem_cons, List.not_mem_nil, or_false, ← UInt8.toNat_inj, UInt8.toNat_ofNat', hbyte] at h
    · exact hcode (by omega)
    all_goals omega
  · rintro rfl
    decide

private theorem size_toUTF8 (source : String) : source.toUTF8.size = size source.toList := by
  rw [← size_utf8Encode, String.utf8Encode_toList]
  rfl

private theorem bytes_eq_flatMap (source : String) :
    source.toUTF8.data.toList = source.toList.flatMap String.utf8EncodeChar := by
  show source.toByteArray.data.toList = _
  rw [← String.utf8Encode_toList, List.utf8Encode, List.data_toByteArray, List.toList_toArray]

end Text

namespace LineIndex

open Text (size NewlineAt)

/-! ### Newlines among bytes -/

/-- A line starts just behind each byte that is a newline. -/
theorem succ_mem_startsAfter_iff (base offset : Nat) (s : List Char) :
    base + offset + 1 ∈ startsAfter base s ↔ (s.flatMap String.utf8EncodeChar)[offset]? = some '\n'.toUInt8 := by
  induction s generalizing base offset with
  | nil => simp [startsAfter]
  | cons c s ih =>
    have hlength : (String.utf8EncodeChar c).length = c.utf8Size := String.length_utf8EncodeChar c
    rw [List.flatMap_cons, startsAfter]
    by_cases hoffset : offset < c.utf8Size
    · have hrest : base + offset + 1 ∉ startsAfter (base + c.utf8Size) s := fun h => by
        have := (bounds_of_mem_startsAfter h).1
        omega
      rw [List.getElem?_append_left (by omega)]
      by_cases hc : c = '\n'
      · have hsize : c.utf8Size = 1 := by rw [hc]; rfl
        obtain rfl : offset = 0 := by omega
        rw [if_pos hc, hc]
        exact iff_of_true List.mem_cons_self rfl
      · have hbyte : (String.utf8EncodeChar c)[offset]? ≠ some '\n'.toUInt8 := fun h =>
          hc (Text.newline_mem_utf8EncodeChar.1 (List.mem_of_getElem? h))
        rw [if_neg hc]
        exact iff_of_false hrest hbyte
    · have hbase : base + offset + 1 = base + c.utf8Size + (offset - c.utf8Size) + 1 := by omega
      have hpos := c.utf8Size_pos
      rw [List.getElem?_append_right (by omega), hlength, ← ih (base + c.utf8Size), ← hbase]
      by_cases hc : c = '\n'
      · rw [if_pos hc, List.mem_cons, or_iff_right (by omega)]
      · rw [if_neg hc]

private theorem newlineAt_iff {source : String} {offset : Nat} :
    NewlineAt source offset ↔ offset + 1 ∈ startsAfter 0 source.toList := by
  have hstart := succ_mem_startsAfter_iff 0 offset source.toList
  rw [Nat.zero_add, ← Text.bytes_eq_flatMap, Array.getElem?_toList] at hstart
  exact hstart.symm

/-- The line of a byte is one more than the newlines among the bytes before it. -/
theorem lineAt_eq_count (source : String) (offset : Nat) :
    (ofSource source).lineAt offset = 1 + Nat.count (NewlineAt source) offset := by
  induction offset with
  | zero =>
    have hnone : (startsAfter 0 source.toList).countP (· ≤ 0) = 0 := by
      refine List.countP_eq_zero.2 fun start hin => ?_
      have := (bounds_of_mem_startsAfter hin).1
      simp only [decide_eq_true_eq]
      omega
    rw [lineAt_ofSource, hnone, Nat.count_zero]
  | succ offset ih =>
    rw [lineAt_succ, ih, Nat.count_succ, Nat.add_assoc]
    simp only [newlineAt_iff]

private theorem lineAt_le_lineCount (source : String) (offset : Nat) :
    (ofSource source).lineAt offset ≤ (ofSource source).lineCount := by
  have hlength := length_startsAfter 0 source.toList
  have hcount : (startsAfter 0 source.toList).countP (· ≤ offset) ≤ (startsAfter 0 source.toList).length :=
    List.countP_le_length
  rw [lineAt_ofSource, lineCount_ofSource]
  omega

/-- Past the last byte the line is the last one. -/
private theorem lineAt_of_size_le {source : String} {offset : Nat} (h : size source.toList ≤ offset) :
    (ofSource source).lineAt offset = (ofSource source).lineCount := by
  have hall : (startsAfter 0 source.toList).countP (· ≤ offset) = (startsAfter 0 source.toList).length := by
    refine List.countP_eq_length.2 fun start hin => ?_
    have := (bounds_of_mem_startsAfter hin).2
    simp only [decide_eq_true_eq]
    omega
  rw [lineAt_ofSource, lineCount_ofSource, hall, length_startsAfter]

private theorem lineAt_eq_of_not_newlineAt {source : String} {first offset : Nat} (h : first ≤ offset)
    (hnone : ∀ byte, first ≤ byte → byte < offset → ¬ NewlineAt source byte) :
    (ofSource source).lineAt first = (ofSource source).lineAt offset := by
  induction offset, h using Nat.le_induction with
  | base => rfl
  | succ offset h ih =>
    have hbyte := hnone offset h (Nat.lt_succ_self offset)
    rw [newlineAt_iff] at hbyte
    rw [lineAt_succ, if_neg hbyte, Nat.add_zero]
    exact ih fun byte hfirst hlast => hnone byte hfirst (Nat.lt_succ_of_lt hlast)

/-- The line of a byte is one more than the newlines among the bytes before it. So lines go up with offsets, from the
first line to the last, which is that of all offsets past the end, and a newline is on the line of the bytes before it
and the last one there. -/
theorem lineAt_counts_newlines (source : String) :
    (∀ offset, (ofSource source).lineAt offset = 1 + Nat.count (NewlineAt source) offset) ∧
      Monotone (ofSource source).lineAt ∧
      (∀ offset, 1 ≤ (ofSource source).lineAt offset ∧
        (ofSource source).lineAt offset ≤ (ofSource source).lineCount) ∧
      (∀ offset, source.toUTF8.size ≤ offset → (ofSource source).lineAt offset = (ofSource source).lineCount) ∧
      ∀ offset, NewlineAt source offset →
        (ofSource source).lineAt (offset + 1) = (ofSource source).lineAt offset + 1 ∧
          ∀ first ≤ offset, (∀ byte, first ≤ byte → byte < offset → ¬ NewlineAt source byte) →
            (ofSource source).lineAt first = (ofSource source).lineAt offset := by
  refine ⟨lineAt_eq_count source, fun first last h => lineAt_mono source h, fun offset => ⟨?_, ?_⟩,
    fun offset hend => ?_, fun offset hnewline => ⟨?_, fun first hfirst hnone => ?_⟩⟩
  · rw [lineAt_eq_count]
    exact Nat.le_add_right 1 _
  · exact lineAt_le_lineCount source offset
  · rw [Text.size_toUTF8] at hend
    exact lineAt_of_size_le hend
  · rw [lineAt_succ, if_pos (newlineAt_iff.1 hnewline)]
  · exact lineAt_eq_of_not_newlineAt hfirst hnone

/-- A line with a character of two bytes, an empty line and a last line without a newline. -/
theorem lineAt_around_empty_line :
    let source := "é\n\nx"
    let index := ofSource source
    (source.toUTF8.size ≤ 7 ∧ NewlineAt source 2 ∧ ∀ byte, 0 ≤ byte → byte < 2 → ¬ NewlineAt source byte) ∧
      index.lineAt 0 = index.lineAt 2 ∧ index.lineAt 3 = index.lineAt 2 + 1 ∧ index.lineAt 3 = 2 ∧
      index.lineAt 3 ≤ index.lineAt 7 ∧ index.lineAt 7 = index.lineCount ∧ index.lineCount = 3 := by
  intro source index
  have hsize : source.toUTF8.size ≤ 7 := by decide +kernel
  have hnewline : NewlineAt source 2 := by decide +kernel
  have hnone : ∀ byte, 0 ≤ byte → byte < 2 → ¬ NewlineAt source byte := by
    intro byte _ hlast
    have hfirst : byte = 0 ∨ byte = 1 := by omega
    rcases hfirst with rfl | rfl <;> decide +kernel
  have hcount : 1 + Nat.count (NewlineAt source) 3 = 2 := by decide +kernel
  have hlast : index.lineCount = 3 := by decide +kernel
  obtain ⟨hlines, hmono, -, hend, hline⟩ := lineAt_counts_newlines source
  obtain ⟨hnext, hsame⟩ := hline 2 hnewline
  exact ⟨⟨hsize, hnewline, hnone⟩, hsame 0 (Nat.zero_le 2) hnone, hnext, (hlines 3).trans hcount, hmono (by decide),
    hend 7 hsize, hlast⟩

end LineIndex

end Debugger
