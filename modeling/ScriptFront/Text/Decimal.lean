import ScriptFront.CharClass

/-!
# Decimal integers

A decimal integer is one or more ASCII digits behind at most one sign. Leading zeros count for
nothing. `Decimal.read?` takes the numbers of 64 bits with a sign and refuses all others;
`Decimal.write` writes a number in its shortest form.
-/

namespace ScriptFront.Decimal

/-- The number that digits stand for, most significant digit first. -/
def value (digits : List Char) : Nat :=
  digits.foldl (fun n d => 10 * n + (d.toNat - '0'.toNat)) 0

/-- The number written by one or more digits. -/
def unsigned? (text : List Char) : Option Nat :=
  if !text.isEmpty && text.all isDigit then some (value text) else none

/-- The number written by digits behind at most one sign. -/
def signed? : List Char → Option Int
  | '-' :: digits => (unsigned? digits).map fun n => -(n : Int)
  | '+' :: digits => (unsigned? digits).map fun n => (n : Int)
  | digits => (unsigned? digits).map fun n => (n : Int)

/-- The number of 64 bits that a text writes. -/
def read? (text : String) : Option Int64 :=
  match signed? text.toList with
  | some n =>
    if Int64.minValue.toInt ≤ n ∧ n ≤ Int64.maxValue.toInt then some (Int64.ofInt n) else none
  | none => none

/-- The shortest text of a number: a minus sign if it is negative, and no leading zero. -/
def write (n : Int64) : String :=
  let digits := Nat.toDigits 10 n.toInt.natAbs
  String.ofList (if n.toInt < 0 then '-' :: digits else digits)

end ScriptFront.Decimal
