/-!
# Sets of code points

A set of Unicode code points is kept as the closed ranges that make it up (`CodeSet`). A character
belongs to the set when its code point lies in one of the ranges (`CodeSet.contains_iff`). The
tables that the library needs are modules of their own, each named for its Unicode property; they
follow version 17.0 of the standard.
-/

namespace ScriptFront

/-- A set of code points, as closed ranges. -/
structure CodeSet where
  /-- First and last code point of each range. -/
  ranges : List (Nat × Nat)

namespace CodeSet

/-- Whether the code point of `c` lies in one of the ranges. -/
def contains (s : CodeSet) (c : Char) : Bool :=
  s.ranges.any fun r => r.1 ≤ c.toNat && c.toNat ≤ r.2

instance : Membership Char CodeSet :=
  ⟨fun s c => ∃ r ∈ s.ranges, r.1 ≤ c.toNat ∧ c.toNat ≤ r.2⟩

instance (s : CodeSet) (c : Char) : Decidable (c ∈ s) :=
  inferInstanceAs (Decidable (∃ r ∈ s.ranges, r.1 ≤ c.toNat ∧ c.toNat ≤ r.2))

theorem mem_iff {s : CodeSet} {c : Char} :
    c ∈ s ↔ ∃ r ∈ s.ranges, r.1 ≤ c.toNat ∧ c.toNat ≤ r.2 :=
  Iff.rfl

theorem contains_iff {s : CodeSet} {c : Char} : s.contains c = true ↔ c ∈ s := by
  simp [contains, mem_iff]

/-- For the code points below `n` the ranges that start below `n` are enough. -/
theorem mem_iff_of_lt (s : CodeSet) {c : Char} {n : Nat} (h : c.toNat < n) :
    c ∈ s ↔ c ∈ CodeSet.mk (s.ranges.filter fun r => r.1 < n) := by
  constructor
  · rintro ⟨r, hr, hfirst, hlast⟩
    exact ⟨r, List.mem_filter.2 ⟨hr, decide_eq_true (Nat.lt_of_le_of_lt hfirst h)⟩, hfirst, hlast⟩
  · rintro ⟨r, hr, hc⟩
    exact ⟨r, (List.mem_filter.1 hr).1, hc⟩

end CodeSet

end ScriptFront
