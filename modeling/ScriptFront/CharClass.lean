import ScriptFront.CodeSet.WhiteSpace

/-!
# Character classes

Words are made of letters (`isLetter`), numbers of digits (`isDigit`), and blanks (`isBlank`)
separate tokens. Letters and digits are the ASCII ones, so `é` and `٣` are neither; blanks are those
of Unicode. No character is in two of the classes.
-/

namespace ScriptFront

/-- An ASCII letter or the underscore. Digits are not part of a word. -/
def isLetter (c : Char) : Bool :=
  c.isAlpha || c == '_'

/-- An ASCII decimal digit. -/
def isDigit (c : Char) : Bool :=
  c.isDigit

/-- A character with the property White_Space. -/
def isBlank (c : Char) : Bool :=
  CodeSet.whiteSpace.contains c

/-- The characters with a code point from `first` to `last`, in ascending order. Surrogates are no
characters, and none lies above U+10FFFF. -/
def charsBetween (first last : Nat) : List Char :=
  (List.range' first (min last 0x10FFFF + 1 - first)).filterMap fun n =>
    if n.isValidChar then some (Char.ofNat n) else none

/-! ### The classes by code point -/

theorem isLetter_iff {c : Char} : isLetter c = true ↔
    65 ≤ c.toNat ∧ c.toNat ≤ 90 ∨ 97 ≤ c.toNat ∧ c.toNat ≤ 122 ∨ c.toNat = 95 := by
  have h : c = '_' ↔ c.toNat = 95 := by
    rw [← Char.toNat_inj]
    rfl
  show (decide (c.val ≥ 'A'.val ∧ c.val ≤ 'Z'.val) ||
    (decide (c.val ≥ 'a'.val) && decide (c.val ≤ 'z'.val)) || c == '_') = true ↔ _
  simp only [Bool.or_eq_true, Bool.and_eq_true, decide_eq_true_eq, ge_iff_le,
    UInt32.le_iff_toNat_le, beq_iff_eq, h]
  simp only [Char.toNat, Char.reduceVal, UInt32.reduceToNat]
  omega

theorem isDigit_iff {c : Char} : isDigit c = true ↔ 48 ≤ c.toNat ∧ c.toNat ≤ 57 := by
  simp only [isDigit, Char.isDigit, Bool.and_eq_true, decide_eq_true_eq, ge_iff_le,
    UInt32.le_iff_toNat_le]
  rfl

/-- A blank is a control character from tab to carriage return, a next-line mark, or a space of one
of the Unicode widths. -/
theorem isBlank_iff {c : Char} : isBlank c = true ↔
    9 ≤ c.toNat ∧ c.toNat ≤ 13 ∨ c.toNat = 32 ∨ c.toNat = 133 ∨ c.toNat = 160 ∨
      c.toNat = 5760 ∨ 8192 ≤ c.toNat ∧ c.toNat ≤ 8202 ∨ 8232 ≤ c.toNat ∧ c.toNat ≤ 8233 ∨
      c.toNat = 8239 ∨ c.toNat = 8287 ∨ c.toNat = 12288 := by
  simp [isBlank, CodeSet.contains, CodeSet.whiteSpace]
  omega

/-! ### The classes are disjoint -/

theorem isDigit_eq_false_of_isLetter {c : Char} (h : isLetter c = true) : isDigit c = false := by
  rw [isLetter_iff] at h
  rw [Bool.eq_false_iff, ne_eq, isDigit_iff]
  omega

theorem isBlank_eq_false_of_isLetter {c : Char} (h : isLetter c = true) : isBlank c = false := by
  rw [isLetter_iff] at h
  rw [Bool.eq_false_iff, ne_eq, isBlank_iff]
  omega

theorem isBlank_eq_false_of_isDigit {c : Char} (h : isDigit c = true) : isBlank c = false := by
  rw [isDigit_iff] at h
  rw [Bool.eq_false_iff, ne_eq, isBlank_iff]
  omega

end ScriptFront
