import ScriptFront.Proofs.Cursor.View

/-!
# Walking over a text

A cursor that has moved `k` times from the first character of a text stands behind the first `k`
characters, or behind the end if the text is shorter (`Cursor.stands_walk`). A slice from the
start of a character is what the cursor has passed since there (`Cursor.Stands.sliceFrom?_startingFrom`).
So all that can be observed of the cursor is a matter of the characters and their widths
(`Cursor.observe_walk`).
-/

namespace ScriptFront.Cursor

open String (utf8Len)

/-! ### Where characters start -/

/-- The characters of a text that start at the byte offset or behind it. -/
def startingFrom (start : Nat) (cs : List Char) : List Char :=
  (cs.zipIdx.filter fun (_, j) => start ≤ utf8Len (cs.take j)).map Prod.fst

theorem utf8Len_take_lt {cs : List Char} {j : Nat} (hj : j < cs.length) :
    utf8Len (cs.take j) < utf8Len cs := by
  have hc := cs[j].utf8Size_pos
  have hsplit : utf8Len cs = utf8Len (cs.take j) + utf8Len (cs.drop j) := by
    rw [← String.utf8Len_append, List.take_append_drop]
  rw [List.drop_eq_getElem_cons hj, String.utf8Len_cons] at hsplit
  omega

theorem startingFrom_utf8Len (before cs : List Char) :
    startingFrom (utf8Len before) (before ++ cs) = cs := by
  have hbefore : (before.zipIdx.filter fun (_, j) =>
      utf8Len before ≤ utf8Len ((before ++ cs).take j)) = [] := by
    rw [List.filter_eq_nil_iff]
    rintro ⟨c, j⟩ hmem
    have hj : j < before.length := (List.mem_zipIdx' hmem).1
    have hlt := utf8Len_take_lt hj
    simp only [List.take_append_of_le_length hj.le, decide_eq_true_eq]
    omega
  have hcs : ((cs.zipIdx before.length).filter fun (_, j) =>
      utf8Len before ≤ utf8Len ((before ++ cs).take j)) = cs.zipIdx before.length := by
    rw [List.filter_eq_self]
    rintro ⟨c, j⟩ hmem
    have hj : before.length ≤ j := List.le_snd_of_mem_zipIdx hmem
    simp [List.take_append, List.take_of_length_le hj]
  rw [startingFrom, List.zipIdx_append, List.filter_append, Nat.zero_add, hbefore, hcs,
    List.nil_append, List.zipIdx_map_fst]

theorem startingFrom_of_le {start : Nat} {cs : List Char} (h : utf8Len cs ≤ start) :
    startingFrom start cs = [] := by
  rw [startingFrom, List.map_eq_nil_iff, List.filter_eq_nil_iff]
  rintro ⟨c, j⟩ hmem
  have hlt := utf8Len_take_lt (List.mem_zipIdx' hmem).1
  simp only [decide_eq_true_eq]
  omega

/-! ### A slice from anywhere -/

namespace Stands

variable {cur : Cursor} {before after : List Char} {beyond start : Nat}

theorem sliceFrom?_of_le (h : cur.Stands before after beyond) (hstart : utf8Len before ≤ start) :
    cur.sliceFrom? start = some "" := by
  have hpiece := piece?_utf8Len before [] after
  rw [h.sliceFrom?_eq, h.source_eq, Nat.min_eq_right hstart]
  simpa using hpiece

/-- A slice from the start of a character, or from behind the end of the text. -/
theorem sliceFrom?_startingFrom (h : cur.Stands before after beyond)
    (hstart : String.Pos.Raw.IsValid cur.source ⟨start⟩ ∨ cur.source.utf8ByteSize ≤ start) :
    cur.sliceFrom? start = some (String.ofList (startingFrom start before)) := by
  rcases Nat.lt_or_ge start (utf8Len before) with hlt | hge
  · have hsize : start < cur.source.utf8ByteSize := by
      rw [h.source_eq, String.utf8ByteSize_ofList, String.utf8Len_append]
      omega
    obtain ⟨s, t, hst, hs⟩ :=
      String.Pos.Raw.isValid_iff_exists_append.1 (hstart.resolve_right (by omega))
    have hs : start = utf8Len s.toList := by
      rw [← String.utf8ByteSize_ofList, String.ofList_toList]
      exact congrArg String.Pos.Raw.byteIdx hs
    have hlists : before ++ after = s.toList ++ t.toList := by
      rw [← String.toList_append, ← hst, h.source_eq, String.toList_ofList]
    subst hs
    -- The offset is before the cursor, so it cuts the characters before the cursor in two.
    rcases List.append_eq_append_iff.1 hlists with ⟨read, hread, -⟩ | ⟨read, rfl, -⟩
    · rw [hread, String.utf8Len_append] at hlt
      omega
    · rw [h.sliceFrom?_utf8Len, startingFrom_utf8Len]
  · rw [h.sliceFrom?_of_le hge, startingFrom_of_le hge, String.ofList_nil]

end Stands

/-! ### Many moves -/

/-- The cursor after `k` moves from the first character of the text. -/
def walk (source : String) (k : Nat) : Cursor :=
  advance^[k] (ofString source)

theorem walk_zero (source : String) : walk source 0 = ofString source := rfl

theorem walk_succ (source : String) (k : Nat) : walk source (k + 1) = (walk source k).advance :=
  Function.iterate_succ_apply' advance k (ofString source)

theorem stands_walk (source : String) (k : Nat) :
    (walk source k).Stands (source.toList.take k) (source.toList.drop k)
      (k - source.toList.length) := by
  induction k with
  | zero => simpa [walk_zero] using stands_ofString source
  | succ k ih =>
    rw [walk_succ]
    rcases Nat.lt_or_ge k source.toList.length with hlt | hge
    · rw [List.drop_eq_getElem_cons hlt] at ih
      rw [List.take_add_one, List.getElem?_eq_getElem hlt, Nat.sub_eq_zero_of_le hlt]
      exact ih.advance
    · have hk : k + 1 - source.toList.length = k - source.toList.length + 1 := by omega
      rw [List.drop_eq_nil_of_le hge, List.take_of_length_le hge] at ih
      rw [List.drop_eq_nil_of_le (by omega), List.take_of_length_le (by omega), hk]
      exact ih.advance_end

theorem current_walk (source : String) (k : Nat) :
    (walk source k).current = source.toList[k]? := by
  rw [(stands_walk source k).current_eq, List.head?_drop]

theorem position_walk (source : String) (k : Nat) :
    (walk source k).position =
      if k ≤ source.toList.length then utf8Len (source.toList.take k)
      else source.utf8ByteSize + (k - source.toList.length) := by
  rw [(stands_walk source k).position_eq]
  split_ifs with hk
  · rw [Nat.sub_eq_zero_of_le hk, Nat.add_zero]
  · rw [List.take_of_length_le (by omega), String.utf8Len_toList]

/-- A place in the text is reached in one way only. -/
theorem Stands.eq_walk {cur : Cursor} {source : String} {before after : List Char} {beyond : Nat}
    (h : cur.Stands before after beyond) (hsource : before ++ after = source.toList) :
    cur = walk source (before.length + beyond) := by
  have hwalk : (walk source (before.length + beyond)).Stands before after beyond := by
    have hw := stands_walk source (before.length + beyond)
    rw [← hsource] at hw
    cases after with
    | nil => simpa [List.take_of_length_le, List.drop_of_length_le] using hw
    | cons c after =>
      obtain rfl := h.beyond_eq (List.cons_ne_nil c after)
      simpa using hw
  exact h.unique hwalk

theorem position_walk_succ (source : String) (k : Nat) :
    (walk source (k + 1)).position = (walk source k).nextPosition := by
  rw [walk_succ]
  rfl

/-- On the way to a place no offset is greater than the last one. -/
theorem nextPosition_walk_le (source : String) {k n : Nat} (h : k ≤ n) :
    (walk source k).nextPosition ≤ (walk source n).nextPosition := by
  have hmono : Monotone fun k => (walk source k).position := by
    apply monotone_nat_of_le_succ
    intro k
    rw [position_walk_succ, (stands_walk source k).nextPosition_eq]
    exact Nat.le_add_right _ _
  rw [← position_walk_succ, ← position_walk_succ]
  exact hmono (Nat.succ_le_succ h)

theorem sliceFrom?_walk (source : String) (k : Nat) {start : Nat}
    (hstart : String.Pos.Raw.IsValid source ⟨start⟩ ∨ source.utf8ByteSize ≤ start) :
    (walk source k).sliceFrom? start =
      some (String.ofList (startingFrom start (source.toList.take k))) := by
  have h := stands_walk source k
  have hsource : (walk source k).source = source := by
    rw [h.source_eq, List.take_append_drop, String.ofList_toList]
  apply h.sliceFrom?_startingFrom
  rwa [hsource]

/-- After `k` moves from the first character, a cursor is on the character number `k` or behind the
end, its position is the number of bytes that it has passed with one more for each move behind the
end, and a slice from the start of a character, or from behind the end of the text, is what the
cursor has passed since there. -/
theorem observe_walk (source : String) (k : Nat) :
    (walk source k).current = source.toList[k]? ∧
      ((walk source k).atEnd = true ↔ source.toList.length ≤ k) ∧
      (walk source k).peek = source.toList[k + 1]? ∧
      (walk source k).peek = (walk source (k + 1)).current ∧
      (walk source k).position =
        (if k ≤ source.toList.length then utf8Len (source.toList.take k)
          else source.utf8ByteSize + (k - source.toList.length)) ∧
      ∀ start, String.Pos.Raw.IsValid source ⟨start⟩ ∨ source.utf8ByteSize ≤ start →
        (walk source k).sliceFrom? start = some ((walk source k).sliceFrom start) ∧
          (walk source k).sliceFrom start =
            String.ofList (startingFrom start (source.toList.take k)) := by
  have hpeek : (walk source k).peek = source.toList[k + 1]? := by
    rw [(stands_walk source k).peek_eq, List.tail_drop, List.head?_drop]
  refine ⟨current_walk source k, ?_, hpeek, ?_, position_walk source k, ?_⟩
  · rw [atEnd, current_walk, Option.isNone_iff_eq_none, List.getElem?_eq_none_iff]
  · rw [hpeek, current_walk]
  · intro start hstart
    have hslice := sliceFrom?_walk source k hstart
    rw [sliceFrom, hslice, Option.getD_some]
    exact ⟨rfl, rfl⟩

theorem observe_walk_behind_end :
    String.Pos.Raw.IsValid "aé=𝄞" ⟨3⟩ ∧ (walk "aé=𝄞" 6).position = 10 ∧
      (walk "aé=𝄞" 6).sliceFrom? 3 = some ((walk "aé=𝄞" 6).sliceFrom 3) ∧
      (walk "aé=𝄞" 6).sliceFrom 3 = "=𝄞" := by
  have hvalid : String.Pos.Raw.IsValid "aé=𝄞" ⟨3⟩ :=
    String.Pos.Raw.isValid_eq_true_iff.1 (by decide +kernel)
  obtain ⟨-, -, -, -, hposition, hslice⟩ := observe_walk "aé=𝄞" 6
  obtain ⟨hsome, htext⟩ := hslice 3 (.inl hvalid)
  refine ⟨hvalid, hposition.trans ?_, hsome, htext.trans ?_⟩
  · decide +kernel
  · decide +kernel

end ScriptFront.Cursor
