import Mathlib.Algebra.Group.Nat.Defs
import ScriptFront.Text.Decimal

/-!
# Reading digits

A text of digits alone is read as the number that the digits stand for, if that number is in the
range of 64 bits (`Decimal.read?_of_digits`). It has no sign, so only the upper end matters.
-/

namespace ScriptFront.Decimal

variable {digits : List Char}

theorem unsigned?_of_digits (hne : digits ≠ []) (hd : ∀ c ∈ digits, isDigit c = true) :
    unsigned? digits = some (value digits) := by
  have hall : digits.all isDigit = true := List.all_eq_true.2 hd
  simp [unsigned?, hne, hall]

theorem signed?_of_digits (hne : digits ≠ []) (hd : ∀ c ∈ digits, isDigit c = true) :
    signed? digits = some (value digits : Int) := by
  unfold signed?
  split
  · exact absurd (hd '-' List.mem_cons_self) (by decide)
  · exact absurd (hd '+' List.mem_cons_self) (by decide)
  · simp [unsigned?_of_digits hne hd]

theorem read?_of_digits {text : String} (hne : text ≠ "")
    (hd : ∀ c ∈ text.toList, isDigit c = true) :
    read? text =
      if value text.toList ≤ 2 ^ 63 - 1 then some (.ofNat (value text.toList)) else none := by
  have hmin : Int64.minValue.toInt = -2 ^ 63 := rfl
  have hmax : Int64.maxValue.toInt = 2 ^ 63 - 1 := rfl
  have hne : text.toList ≠ [] := fun h => hne (String.toList_eq_nil_iff.1 h)
  simp only [read?, signed?_of_digits hne hd, hmin, hmax]
  by_cases h : value text.toList ≤ 2 ^ 63 - 1
  · rw [if_pos h, if_pos (by omega)]
    rfl
  · rw [if_neg h, if_neg (by omega)]

end ScriptFront.Decimal
