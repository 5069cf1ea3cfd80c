import Mathlib.Data.List.Induction
import Mathlib.Data.Nat.Digits.Defs
import ScriptFront.Proofs.Text.Decimal

/-!
# Numerals

`Decimal.Writes` says which texts write which numbers, without a word on how they are read: at most
one sign, and digits behind it that count by their places. A text is read as a number of 64 bits
exactly if it writes that number (`Decimal.read?_eq_some_iff`), and is refused exactly if it writes
no number of that range (`Decimal.read?_eq_none_iff`).

To read the digits one by one and to look for an overflow of 64 bits at each multiplication by ten
and each addition of a digit comes to the same (`Decimal.read?_eq_readByDigit?`): a number that has
left the range does not come back to it.
-/

namespace ScriptFront.Decimal

/-- The number of digits in the positional system: the last one counts once, and every other one
ten times as much as the one behind it. -/
def positional (digits : List Char) : Nat :=
  Nat.ofDigits 10 (digits.reverse.map fun d => d.toNat - '0'.toNat)

/-- The text is one or more digits. -/
def IsDigits (text : List Char) : Prop :=
  text ≠ [] ∧ ∀ c ∈ text, isDigit c = true

/-- The text is digits behind at most one sign, and they stand for the number. -/
inductive Writes : List Char → Int → Prop where
  | unsigned {digits : List Char} (h : IsDigits digits) : Writes digits (positional digits)
  | plus {digits : List Char} (h : IsDigits digits) :
      Writes ('+' :: digits) (positional digits)
  | minus {digits : List Char} (h : IsDigits digits) :
      Writes ('-' :: digits) (-(positional digits : Int))

variable {digits text : List Char} {n : Int}

/-! ### Digits -/

theorem positional_concat (digits : List Char) (d : Char) :
    positional (digits ++ [d]) = 10 * positional digits + (d.toNat - '0'.toNat) := by
  rw [positional, List.reverse_append, List.reverse_singleton, List.singleton_append,
    List.map_cons, Nat.ofDigits_cons, ← positional, Nat.add_comm]

theorem value_eq_positional (digits : List Char) : value digits = positional digits := by
  induction digits using List.reverseRecOn with
  | nil => rfl
  | append_singleton digits d ih =>
    rw [value, List.foldl_append, ← value, ih, positional_concat]
    rfl

theorem map_unsigned?_eq_some_iff {f : Nat → Int} :
    (unsigned? digits).map f = some n ↔ IsDigits digits ∧ f (positional digits) = n := by
  by_cases hd : IsDigits digits
  · rw [unsigned?_of_digits hd.1 hd.2, value_eq_positional]
    simp [hd]
  · have hnone : unsigned? digits = none := by
      rw [unsigned?, if_neg]
      simpa [IsDigits] using hd
    simp [hnone, hd]

/-! ### Signs and the range -/

theorem signed?_minus (digits : List Char) :
    signed? ('-' :: digits) = (unsigned? digits).map fun k : Nat => -(k : Int) := by
  cases h : unsigned? digits <;> simp [signed?, h]

theorem signed?_plus (digits : List Char) :
    signed? ('+' :: digits) = (unsigned? digits).map Int.ofNat := by
  cases h : unsigned? digits <;> simp [signed?, h]

theorem signed?_of_head (hminus : text.head? ≠ some '-') (hplus : text.head? ≠ some '+') :
    signed? text = (unsigned? text).map Int.ofNat := by
  unfold signed?
  split
  · exact absurd rfl hminus
  · exact absurd rfl hplus
  · cases unsigned? text <;> rfl

theorem signed?_eq_some_iff : signed? text = some n ↔ Writes text n := by
  constructor
  · intro h
    by_cases hminus : text.head? = some '-'
    · obtain ⟨digits, rfl⟩ := List.head?_eq_some_iff.1 hminus
      rw [signed?_minus, map_unsigned?_eq_some_iff] at h
      exact h.2 ▸ .minus h.1
    · by_cases hplus : text.head? = some '+'
      · obtain ⟨digits, rfl⟩ := List.head?_eq_some_iff.1 hplus
        rw [signed?_plus, map_unsigned?_eq_some_iff] at h
        exact h.2 ▸ .plus h.1
      · rw [signed?_of_head hminus hplus, map_unsigned?_eq_some_iff] at h
        exact h.2 ▸ .unsigned h.1
  · intro h
    cases h with
    | unsigned hd => rw [signed?_of_digits hd.1 hd.2, value_eq_positional]
    | plus hd => rw [signed?_plus, map_unsigned?_eq_some_iff]; exact ⟨hd, rfl⟩
    | minus hd => rw [signed?_minus, map_unsigned?_eq_some_iff]; exact ⟨hd, rfl⟩

/-- A text writes at most one number. -/
theorem Writes.unique {m : Int} (h : Writes text n) (h' : Writes text m) : n = m :=
  Option.some.inj ((signed?_eq_some_iff.2 h).symm.trans (signed?_eq_some_iff.2 h'))

/-- The number of 64 bits that is equal to `n`. -/
def ofInt? (n : Int) : Option Int64 :=
  if -2 ^ 63 ≤ n ∧ n ≤ 2 ^ 63 - 1 then some (.ofInt n) else none

theorem read?_eq_bind (s : String) : read? s = (signed? s.toList).bind ofInt? := by
  unfold read?
  cases signed? s.toList with
  | none => rfl
  | some n => rfl

theorem ofInt?_eq_some_iff {v : Int64} : ofInt? n = some v ↔ v.toInt = n := by
  unfold ofInt?
  constructor
  · intro h
    split at h
    · rename_i hn
      rw [← Option.some.inj h, Int64.toInt_ofInt_of_le hn.1 (by omega)]
    · cases h
  · rintro rfl
    have hmin := v.le_toInt
    have hmax := v.toInt_lt
    rw [if_pos ⟨hmin, by omega⟩, Int64.ofInt_toInt]

theorem ofInt?_eq_none_iff : ofInt? n = none ↔ ¬(-2 ^ 63 ≤ n ∧ n ≤ 2 ^ 63 - 1) := by
  unfold ofInt?
  split <;> simp_all

theorem read?_eq_some_iff {s : String} {v : Int64} :
    read? s = some v ↔ Writes s.toList v.toInt := by
  rw [read?_eq_bind, Option.bind_eq_some_iff, ← signed?_eq_some_iff]
  constructor
  · rintro ⟨n, hn, hv⟩
    rw [ofInt?_eq_some_iff.1 hv, hn]
  · intro h
    exact ⟨v.toInt, h, ofInt?_eq_some_iff.2 rfl⟩

theorem read?_eq_none_iff {s : String} :
    read? s = none ↔ ¬∃ n, Writes s.toList n ∧ -2 ^ 63 ≤ n ∧ n ≤ 2 ^ 63 - 1 := by
  rw [read?_eq_bind, Option.bind_eq_none_iff]
  constructor
  · rintro h ⟨n, hn, hrange⟩
    exact ofInt?_eq_none_iff.1 (h n (signed?_eq_some_iff.2 hn)) hrange
  · intro h n hn
    exact ofInt?_eq_none_iff.2 fun hrange => h ⟨n, signed?_eq_some_iff.1 hn, hrange⟩

/-! ### Written numbers -/

theorem isDigits_toDigits (k : Nat) : IsDigits (Nat.toDigits 10 k) :=
  ⟨Nat.toDigits_ne_nil, fun _ hc => Nat.isDigit_of_mem_toDigits (by decide) (by decide) hc⟩

theorem positional_toDigits (k : Nat) : positional (Nat.toDigits 10 k) = k := by
  rw [← value_eq_positional]
  exact Nat.ofDigitChars_ten_toDigits

/-- A number is written by its decimal text. -/
theorem writes_write (v : Int64) : Writes (write v).toList v.toInt := by
  have hd := isDigits_toDigits v.toInt.natAbs
  have hvalue := positional_toDigits v.toInt.natAbs
  rw [write, String.toList_ofList]
  split
  · have h := Writes.minus hd
    rwa [hvalue, show -(v.toInt.natAbs : Int) = v.toInt by omega] at h
  · have h := Writes.unsigned hd
    rwa [hvalue, show (v.toInt.natAbs : Int) = v.toInt by omega] at h

/-! ### Digit by digit -/

/-- A number of 64 bits with one digit more at its end, which counts upwards for the sign `1` and
downwards for the sign `-1`. There is none if the product or the sum is out of range. -/
def push? (sign : Int) (n : Int64) (d : Char) : Option Int64 :=
  if isDigit d then
    (ofInt? (10 * n.toInt)).bind fun tenfold =>
      ofInt? (tenfold.toInt + sign * ((d.toNat - '0'.toNat : Nat) : Int))
  else none

/-- The number of 64 bits that one or more digits write behind a sign, read digit by digit. -/
def pushAll? (sign : Int) (digits : List Char) : Option Int64 :=
  if digits.isEmpty then none else digits.foldlM (push? sign) 0

/-- The number of 64 bits that a text writes, read digit by digit. -/
def readByDigit? (s : String) : Option Int64 :=
  match s.toList with
  | '-' :: digits => pushAll? (-1) digits
  | '+' :: digits => pushAll? 1 digits
  | digits => pushAll? 1 digits

variable {sign : Int}

/-- The one check of the sum finds all that the two checks find: if the product is out of range,
the sum is further out. -/
theorem push?_eq (hsign : sign = 1 ∨ sign = -1) {v : Int64} {k : Nat} {d : Char}
    (hv : v.toInt = sign * (k : Int)) :
    push? sign v d =
      if isDigit d then ofInt? (sign * ((10 * k + (d.toNat - '0'.toNat) : Nat) : Int)) else none := by
  unfold push?
  split
  · cases hm : ofInt? (10 * v.toInt) with
    | none =>
      rw [ofInt?_eq_none_iff] at hm
      refine (ofInt?_eq_none_iff.2 ?_).symm
      rcases hsign with rfl | rfl <;> omega
    | some m =>
      rw [ofInt?_eq_some_iff] at hm
      show ofInt? _ = ofInt? _
      congr 1
      rcases hsign with rfl | rfl <;> omega
  · rfl

theorem foldlM_push? (hsign : sign = 1 ∨ sign = -1) (digits : List Char) :
    digits.foldlM (push? sign) 0 =
      if digits.all isDigit then ofInt? (sign * (positional digits : Int)) else none := by
  induction digits using List.reverseRecOn with
  | nil => rcases hsign with rfl | rfl <;> rfl
  | append_singleton digits d ih =>
    rw [List.foldlM_append, ih, positional_concat, List.all_append]
    cases hall : digits.all isDigit with
    | false => simp
    | true =>
      cases hv : ofInt? (sign * (positional digits : Int)) with
      | none =>
        rw [ofInt?_eq_none_iff] at hv
        have hnone :
            ofInt? (sign * ((10 * positional digits + (d.toNat - '0'.toNat) : Nat) : Int)) =
              none := by
          rw [ofInt?_eq_none_iff]
          rcases hsign with rfl | rfl <;> omega
        rw [hnone]
        simp
      | some v => simp [push?_eq hsign (ofInt?_eq_some_iff.1 hv)]

theorem pushAll?_eq (hsign : sign = 1 ∨ sign = -1) (digits : List Char) :
    pushAll? sign digits =
      ((unsigned? digits).map fun k : Nat => sign * (k : Int)).bind ofInt? := by
  rw [pushAll?, foldlM_push? hsign, unsigned?, value_eq_positional]
  cases digits.isEmpty <;> cases digits.all isDigit <;> simp

theorem read?_eq_readByDigit? (s : String) : read? s = readByDigit? s := by
  rw [read?_eq_bind]
  unfold readByDigit?
  split
  · rename_i digits heq
    rw [heq, signed?_minus, pushAll?_eq (.inr rfl)]
    simp only [neg_one_mul]
  · rename_i digits heq
    rw [heq, signed?_plus, pushAll?_eq (.inl rfl)]
    simp only [one_mul]
    rfl
  · rename_i hminus hplus
    rw [signed?_of_head, pushAll?_eq (.inl rfl)]
    · simp only [one_mul]
      rfl
    · rw [ne_eq, List.head?_eq_some_iff]
      exact fun ⟨digits, h⟩ => hminus digits h
    · rw [ne_eq, List.head?_eq_some_iff]
      exact fun ⟨digits, h⟩ => hplus digits h

end ScriptFront.Decimal
