import ScriptFront.Proofs.Cursor.View

/-!
# Loops of moves

A loop over a class of characters moves on as long as the current character is of the class
(`Cursor.Passes`). From every place in a text such a loop ends, where `Cursor.skipWhile` does, after
one move over each character of the run that it starts on (`Cursor.Stands.passes`). If it starts
inside the text, what it has passed over is a slice between two characters of the text
(`Cursor.Stands.cuts`).
-/

namespace ScriptFront.Cursor

open String (utf8Len)

/-- The loop over the class `p` leads from `cur` to `stop`, with one move over each of the
characters `passed`. -/
inductive Passes (p : Char → Bool) : (passed : List Char) → (cur stop : Cursor) → Prop where
  | stop {cur : Cursor} (outside : cur.current.any p = false) : Passes p [] cur cur
  | move {cur stop : Cursor} {c : Char} {passed : List Char} (current : cur.current = some c)
      (inside : p c = true) (rest : Passes p passed cur.advance stop) :
      Passes p (c :: passed) cur stop

/-- The loop over the class `p` leads from `opened` to `stop`, and a slice from the offset `start`
up to there is the text that the loop has passed over. -/
structure Cuts (source : String) (p : Char → Bool) (opened stop : Cursor) (start : Nat)
    (passed : List Char) : Prop where
  passes : Passes p passed opened stop
  start_eq : start = opened.position
  start_le : start ≤ stop.position
  stop_le : stop.position ≤ source.utf8ByteSize
  isValid_start : String.Pos.Raw.IsValid source ⟨start⟩
  isValid_stop : String.Pos.Raw.IsValid source ⟨stop.position⟩
  /-- Neither end of the slice is moved. -/
  sliceFrom?_eq_piece? : stop.sliceFrom? start = piece? source start stop.position
  sliceFrom?_eq : stop.sliceFrom? start = some (.ofList passed)

variable {cur : Cursor} {before after : List Char} {beyond : Nat} {source : String}

namespace Stands

theorem passes (h : cur.Stands before after beyond) (p : Char → Bool) :
    Passes p (after.takeWhile p) cur (cur.skipWhile p) := by
  induction after generalizing cur before beyond with
  | nil =>
    rw [skipWhile_of_eq_none h.current_eq]
    exact .stop (by simp [h.current_eq])
  | cons c after ih =>
    cases hc : p c with
    | false =>
      rw [skipWhile_of_neg h.current_eq hc, List.takeWhile_cons_of_neg (by simp [hc])]
      exact .stop (by simp [h.current_eq, hc])
    | true =>
      rw [skipWhile_of_pos h.current_eq hc, List.takeWhile_cons_of_pos hc]
      exact .move h.current_eq hc (ih h.advance)

/-- What a loop inside the text passes over is the slice from where it starts to where it ends. -/
theorem cuts (h : cur.Stands before after 0) (hsplit : before ++ after = source.toList)
    (p : Char → Bool) :
    Cuts source p cur (cur.skipWhile p) cur.position (after.takeWhile p) := by
  have hstop := h.skipWhile p
  have hsource : cur.source = source := h.source_of_split hsplit
  have hsource' : (cur.skipWhile p).source = source := by
    apply hstop.source_of_split
    rw [List.append_assoc, List.takeWhile_append_dropWhile, hsplit]
  have hstart : cur.position = utf8Len before := h.position_eq
  have hle : cur.position ≤ (cur.skipWhile p).position := by
    rw [hstart, hstop.position_eq, String.utf8Len_append]
    omega
  have hstopLe := hstop.position_le
  have hstopValid := hstop.isValid_position
  have hslice := hstop.sliceFrom?_of_le_position hle
  rw [hsource'] at hstopLe hstopValid hslice
  exact {
    passes := h.passes p
    start_eq := rfl
    start_le := hle
    stop_le := hstopLe
    isValid_start := hsource ▸ h.isValid_position
    isValid_stop := hstopValid
    sliceFrom?_eq_piece? := hslice
    sliceFrom?_eq := by
      rw [hstart]
      exact hstop.sliceFrom?_utf8Len }

end Stands

end ScriptFront.Cursor
