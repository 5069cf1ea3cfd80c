import Mathlib.Data.String.Basic
import ScriptFront.Cursor.Run

/-!
# Cursors as places in a list of characters

Seen without byte offsets, a cursor splits its text into the characters before it and those from the
current one on, and once it is behind the end it counts how far (`Cursor.Stands`). Each operation of
the cursor has its equation on this view: a move takes one character over
(`Cursor.Stands.advance`), a run takes over all characters of its class
(`Cursor.Stands.skipWhile`), and a slice from an offset before which a character ends is the text
since then (`Cursor.Stands.sliceFrom_eq`). Where a character starts, a byte below 128 is all of it
(`Cursor.ofUInt8_head_utf8EncodeChar`), so the character read there is the same with and without
decoding (`Cursor.charAt?_utf8Len`).
-/

namespace ScriptFront.Cursor

open String (utf8Len)

/-- The cursor stands between the characters `before` and `after`, and `beyond` moves behind the
end. -/
structure Stands (cur : Cursor) (before after : List Char) (beyond : Nat) : Prop where
  source_eq : cur.source = String.ofList (before ++ after)
  position_eq : cur.position = utf8Len before + beyond
  nextPosition_eq : cur.nextPosition = cur.position + width cur.current
  current_eq : cur.current = after.head?
  beyond_eq : after ≠ [] → beyond = 0

/-! ### Bytes and characters -/

theorem size_utf8Encode (cs : List Char) : cs.utf8Encode.size = utf8Len cs := by
  rw [← String.toByteArray_ofList, String.size_toByteArray, String.utf8ByteSize_ofList]

/-- Where a character starts, the text has the first byte of its encoding. -/
theorem getUTF8Byte_utf8Len (before : List Char) (c : Char) (after : List Char)
    (h : (⟨utf8Len before⟩ : String.Pos.Raw) < (String.ofList (before ++ c :: after)).rawEndPos) :
    (String.ofList (before ++ c :: after)).getUTF8Byte ⟨utf8Len before⟩ h =
      (String.utf8EncodeChar c).head String.utf8EncodeChar_ne_nil := by
  have hc : 0 < [c].utf8Encode.size := by simp [size_utf8Encode, c.utf8Size_pos]
  rw [String.getUTF8Byte_eq_getElem]
  simp only [String.toByteArray_ofList, List.utf8Encode_append]
  rw [ByteArray.getElem_append_right (by simp [size_utf8Encode])]
  simp only [size_utf8Encode, Nat.sub_self, List.utf8Encode_cons (c := c) (l := after)]
  rw [ByteArray.getElem_append_left hc]
  simp only [List.utf8Encode_singleton, List.getElem_toByteArray, List.head_eq_getElem]

theorem toNat_ofUInt8 (byte : UInt8) : (Char.ofUInt8 byte).toNat = byte.toNat :=
  UInt8.toNat_toUInt32 byte

/-- An encoding that starts with a byte below 128 is that byte alone. -/
theorem ofUInt8_head_utf8EncodeChar {c : Char}
    (h : (String.utf8EncodeChar c).head String.utf8EncodeChar_ne_nil < 128) :
    Char.ofUInt8 ((String.utf8EncodeChar c).head String.utf8EncodeChar_ne_nil) = c := by
  have hlt : ((String.utf8EncodeChar c).head String.utf8EncodeChar_ne_nil).toNat < 128 :=
    UInt8.lt_iff_toNat_lt.1 h
  rw [← Char.toNat_inj, toNat_ofUInt8]
  revert hlt
  simp only [String.utf8EncodeChar, Char.toNat_val]
  -- The longer encodings start with 192 or more.
  split_ifs <;> simp only [List.head_cons, UInt8.toNat_ofNat'] <;>
    omega

theorem charAt?_utf8Len (before after : List Char) :
    charAt? (String.ofList (before ++ after)) (utf8Len before) = after.head? := by
  cases after with
  | nil => exact dif_neg (by simp [String.utf8ByteSize_ofList])
  | cons c r =>
    have hlt : utf8Len before < (String.ofList (before ++ c :: r)).utf8ByteSize := by
      have := c.utf8Size_pos
      simp only [String.utf8ByteSize_ofList, String.utf8Len_append, String.utf8Len_cons]
      omega
    simp only [charAt?, dif_pos hlt, getUTF8Byte_utf8Len]
    split_ifs with hb
    · rw [ofUInt8_head_utf8EncodeChar hb, List.head?_cons]
    · exact String.get?_of_valid before (c :: r)

theorem charAt?_of_le {source : String} {offset : Nat} (h : source.utf8ByteSize ≤ offset) :
    charAt? source offset = none :=
  dif_neg (Nat.not_lt.2 h)

theorem isValid_utf8Len (before after : List Char) :
    String.Pos.Raw.isValid (String.ofList (before ++ after)) ⟨utf8Len before⟩ = true := by
  rw [String.Pos.Raw.isValid_eq_true_iff, String.Pos.Raw.isValid_iff_exists_append]
  refine ⟨.ofList before, .ofList after, String.ofList_append, ?_⟩
  rw [String.Pos.Raw.ext_iff, String.byteIdx_rawEndPos, String.utf8ByteSize_ofList]

theorem piece?_utf8Len (before piece after : List Char) :
    piece? (String.ofList (before ++ piece ++ after)) (utf8Len before)
      (utf8Len before + utf8Len piece) = some (String.ofList piece) := by
  have hfirst := isValid_utf8Len before (piece ++ after)
  have hlast := isValid_utf8Len (before ++ piece) after
  rw [← List.append_assoc] at hfirst
  rw [String.utf8Len_append] at hlast
  rw [piece?, if_pos ⟨Nat.le_add_right .., hfirst, hlast⟩]
  exact congrArg some (String.extract_of_valid before piece after)

/-! ### The two sides of a cursor -/

theorem stands_ofString (source : String) : (ofString source).Stands [] source.toList 0 where
  source_eq := by simp [ofString, advance]
  position_eq := rfl
  nextPosition_eq := rfl
  current_eq := by simpa [ofString, advance] using charAt?_utf8Len [] source.toList
  beyond_eq _ := rfl

namespace Stands

variable {cur : Cursor} {before after : List Char} {beyond : Nat}

/-- The place determines the cursor. -/
theorem unique {cur' : Cursor} (h : cur.Stands before after beyond)
    (h' : cur'.Stands before after beyond) : cur = cur' := by
  have hs := h.source_eq.trans h'.source_eq.symm
  have hp := h.position_eq.trans h'.position_eq.symm
  have hc := h.current_eq.trans h'.current_eq.symm
  have hn : cur.nextPosition = cur'.nextPosition := by
    rw [h.nextPosition_eq, h'.nextPosition_eq, hp, hc]
  cases cur
  cases cur'
  congr

theorem source_of_split {source : String} (h : cur.Stands before after beyond)
    (hsplit : before ++ after = source.toList) : cur.source = source := by
  rw [h.source_eq, hsplit, String.ofList_toList]

theorem position_le (h : cur.Stands before after 0) :
    cur.position ≤ cur.source.utf8ByteSize := by
  rw [h.source_eq, h.position_eq, String.utf8ByteSize_ofList, String.utf8Len_append]
  exact Nat.le_add_right _ _

theorem isValid_position (h : cur.Stands before after 0) :
    String.Pos.Raw.IsValid cur.source ⟨cur.position⟩ := by
  rw [h.source_eq, h.position_eq]
  exact String.Pos.Raw.isValid_eq_true_iff.1 (isValid_utf8Len before after)

theorem nextPosition_le (h : cur.Stands before after beyond) :
    cur.nextPosition ≤ utf8Len (before ++ after) + beyond + 1 := by
  rw [h.nextPosition_eq, h.position_eq, h.current_eq, String.utf8Len_append]
  cases after with
  | nil => simp [width]
  | cons c after =>
    simp only [List.head?_cons, width, String.utf8Len_cons]
    omega

theorem peek_eq (h : cur.Stands before after beyond) : cur.peek = after.tail.head? := by
  obtain ⟨hs, ho, hn, hc, hb⟩ := h
  unfold Cursor.peek
  cases after with
  | nil =>
    refine charAt?_of_le ?_
    simp [hs, hn, ho, String.utf8ByteSize_ofList, Nat.add_assoc]
  | cons c r =>
    have := charAt?_utf8Len (before ++ [c]) r
    simpa [hs, hn, ho, hc, width, hb] using this

theorem advance {c : Char} (h : cur.Stands before (c :: after) beyond) :
    cur.advance.Stands (before ++ [c]) after 0 := by
  have hp := h.peek_eq
  obtain ⟨hs, ho, hn, hc, hb⟩ := h
  have hb := hb (List.cons_ne_nil _ _)
  refine ⟨?_, ?_, rfl, hp, fun _ => rfl⟩
  · simp [Cursor.advance, hs]
  · simp [Cursor.advance, hn, ho, hc, hb, width]

theorem advance_end (h : cur.Stands before [] beyond) :
    cur.advance.Stands before [] (beyond + 1) := by
  have hp := h.peek_eq
  obtain ⟨hs, ho, hn, hc, -⟩ := h
  refine ⟨?_, ?_, rfl, hp, fun h => absurd rfl h⟩
  · simp [Cursor.advance, hs]
  · simp [Cursor.advance, hn, ho, hc, width, Nat.add_assoc]

theorem skipWhile (p : Char → Bool) (h : cur.Stands before after beyond) :
    (cur.skipWhile p).Stands (before ++ after.takeWhile p) (after.dropWhile p) beyond := by
  induction after generalizing cur before beyond with
  | nil => simpa [skipWhile_of_eq_none h.current_eq] using h
  | cons c r ih =>
    cases hc : p c with
    | false => simpa [skipWhile_of_neg h.current_eq hc, hc] using h
    | true =>
      have hb := h.beyond_eq (List.cons_ne_nil _ _)
      simpa [skipWhile_of_pos h.current_eq hc, hc, hb] using ih h.advance

/-- A run that the next character does not lengthen is passed over as a whole. -/
theorem skipWhile_run {p : Char → Bool} {run : List Char}
    (h : cur.Stands before (run ++ after) beyond) (hrun : ∀ c ∈ run, p c = true)
    (hafter : ∀ c ∈ after.head?, p c = false) :
    (cur.skipWhile p).Stands (before ++ run) after beyond := by
  have hs := h.skipWhile p
  rw [List.takeWhile_append_of_pos hrun, List.dropWhile_append_of_pos hrun] at hs
  cases after with
  | nil => simpa using hs
  | cons c r => simpa [hafter c rfl] using hs

/-- The end of a slice is the end of the characters before the cursor. -/
theorem sliceFrom?_eq (h : cur.Stands before after beyond) (start : Nat) :
    cur.sliceFrom? start = piece? cur.source (min start (utf8Len before)) (utf8Len before) := by
  have hstop : min cur.position cur.source.utf8ByteSize = utf8Len before := by
    rw [h.source_eq, h.position_eq, String.utf8ByteSize_ofList]
    cases after with
    | nil => simp
    | cons c r => simp [h.beyond_eq]
  simp only [Cursor.sliceFrom?, hstop]

/-- A slice from an offset before a cursor that is not behind the end is cut as asked for. -/
theorem sliceFrom?_of_le_position {start : Nat} (h : cur.Stands before after 0)
    (hstart : start ≤ cur.position) :
    cur.sliceFrom? start = piece? cur.source start cur.position := by
  have hposition : cur.position = utf8Len before := h.position_eq
  rw [h.sliceFrom?_eq, ← hposition, Nat.min_eq_left hstart]

theorem sliceFrom?_utf8Len {read : List Char} (h : cur.Stands (before ++ read) after beyond) :
    cur.sliceFrom? (utf8Len before) = some (String.ofList read) := by
  rw [h.sliceFrom?_eq, h.source_eq, String.utf8Len_append, Nat.min_eq_left (Nat.le_add_right ..)]
  exact piece?_utf8Len before read after

theorem sliceFrom_eq {read : List Char} (h : cur.Stands (before ++ read) after beyond) :
    cur.sliceFrom (utf8Len before) = String.ofList read := by
  rw [Cursor.sliceFrom, h.sliceFrom?_utf8Len, Option.getD_some]

theorem takeWhile_run {p : Char → Bool} {run : List Char}
    (h : cur.Stands before (run ++ after) 0) (hrun : ∀ c ∈ run, p c = true)
    (hafter : ∀ c ∈ after.head?, p c = false) :
    cur.takeWhile p = (String.ofList run, cur.skipWhile p) := by
  have hp : cur.position = utf8Len before := h.position_eq
  rw [Cursor.takeWhile, hp, (h.skipWhile_run hrun hafter).sliceFrom_eq]

end Stands

end ScriptFront.Cursor
