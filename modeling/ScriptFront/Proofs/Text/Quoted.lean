import Mathlib.Data.Nat.Digits.Defs
import ScriptFront.Text.Quoted

/-!
# The form of quoted text

`Quoted.shown` says how a character looks between quotes, without a word on how the text is put
together: six characters have a short form of a backslash and one letter, any other character that is
hidden is given by its code point in base sixteen, and the rest is shown as it is. Of the ASCII
characters only the control characters are hidden (`Quoted.isHidden_iff_of_ascii`). Quoted text has
this form (`Quoted.escape_eq_shown`), and it tells what was quoted: the first character and what is
behind it can be read back (`Quoted.readChar?_shown_append`), so no two texts are quoted alike
(`Quoted.between_inj`).
-/

namespace ScriptFront.Quoted

/-! ### Hidden characters -/

/-- The character is not shown as it is: it cannot be printed, is ignored in display, or joins the
character before it and is none of the two sound marks of halfwidth katakana. -/
def IsHidden (c : Char) : Prop :=
  c ∈ CodeSet.unprintable ∨ c ∈ CodeSet.defaultIgnorable ∨
    c ∈ CodeSet.graphemeExtend ∧ c ≠ '\uFF9E' ∧ c ≠ '\uFF9F'

instance : DecidablePred IsHidden := fun _ =>
  inferInstanceAs (Decidable (_ ∨ _))

theorem isHidden_iff {c : Char} : isHidden c = true ↔ IsHidden c := by
  simp [isHidden, isJoining, isHalfwidthSoundMark, IsHidden, CodeSet.contains_iff, or_assoc]

/-- Of the ASCII characters the control characters are hidden, and no others. -/
theorem isHidden_iff_of_ascii {c : Char} (h : c.toNat < 128) :
    IsHidden c ↔ c.toNat < 32 ∨ c.toNat = 127 := by
  have hunprintable :
      CodeSet.unprintable.ranges.filter (fun r => r.1 < 128) = [(0, 31), (127, 160)] := by
    decide +kernel
  have hignorable : CodeSet.defaultIgnorable.ranges.filter (fun r => r.1 < 128) = [] := by
    decide +kernel
  have hjoining : CodeSet.graphemeExtend.ranges.filter (fun r => r.1 < 128) = [] := by
    decide +kernel
  rw [IsHidden, CodeSet.mem_iff_of_lt .unprintable h, CodeSet.mem_iff_of_lt .defaultIgnorable h,
    CodeSet.mem_iff_of_lt .graphemeExtend h, hunprintable, hignorable, hjoining]
  simp only [CodeSet.mem_iff, List.mem_cons, List.not_mem_nil, exists_eq_or_imp, exists_eq_left,
    false_and, exists_false, or_false]
  omega

/-- The four fillers of Hangul are letters that show nothing, and logs have them escaped. The two
sound marks of halfwidth katakana join the letter before them and show, and logs have them as they
are. -/
example : (IsHidden '\u115F' ∧ IsHidden '\u1160' ∧ IsHidden '\u3164' ∧ IsHidden '\uFFA0') ∧
    ¬IsHidden '\uFF9E' ∧ ¬IsHidden '\uFF9F' := by
  decide +kernel

/-! ### Base sixteen -/

/-- The digits of base sixteen, in the order of their values. -/
def hexDigits : List Char :=
  "0123456789abcdef".toList

/-- The digits of a number in base sixteen, without zeros in front. -/
def hexadecimal (n : Nat) : List Char :=
  (Nat.digits 16 n).reverse.map fun d => hexDigits.getD d '0'

/-- The number that digits of base sixteen stand for. -/
def hexValue (digits : List Char) : Nat :=
  Nat.ofDigits 16 (digits.reverse.map hexDigits.idxOf)

theorem getD_hexDigits : ∀ d < 16, hexDigits.getD d '0' = Nat.digitChar d := by
  decide

theorem idxOf_getD_hexDigits : ∀ d < 16, hexDigits.idxOf (hexDigits.getD d '0') = d := by
  decide +kernel

theorem ne_brace_of_mem_hexadecimal {n : Nat} {d : Char} (hd : d ∈ hexadecimal n) : d ≠ '}' := by
  have hall : ∀ d < 16, hexDigits.getD d '0' ≠ '}' := by decide
  obtain ⟨k, hk, rfl⟩ := List.mem_map.1 hd
  exact hall k (Nat.digits_lt_base (by decide) (List.mem_reverse.1 hk))

theorem toDigits_eq_hexadecimal {n : Nat} (hn : n ≠ 0) : Nat.toDigits 16 n = hexadecimal n := by
  induction n using Nat.strongRecOn with
  | ind n ih =>
    have hlast : hexadecimal n = hexadecimal (n / 16) ++ [Nat.digitChar (n % 16)] := by
      rw [hexadecimal, Nat.digits_def' (by decide) (Nat.pos_of_ne_zero hn), List.reverse_cons,
        List.map_append, List.map_singleton, getD_hexDigits _ (Nat.mod_lt n (by decide))]
      rfl
    by_cases hlt : n < 16
    · rw [Nat.toDigits_of_lt_base hlt, hlast, Nat.div_eq_of_lt hlt, Nat.mod_eq_of_lt hlt]
      rfl
    · rw [Nat.toDigits_of_base_le (by decide) (Nat.le_of_not_lt hlt), hlast,
        ih (n / 16) (by omega) (by omega)]

theorem hexValue_hexadecimal (n : Nat) : hexValue (hexadecimal n) = n := by
  have hdigits : (Nat.digits 16 n).map (fun d => hexDigits.idxOf (hexDigits.getD d '0')) =
      Nat.digits 16 n := by
    conv_rhs => rw [← List.map_id (Nat.digits 16 n)]
    exact List.map_congr_left fun d hd => idxOf_getD_hexDigits d (Nat.digits_lt_base (by decide) hd)
  rw [hexValue, hexadecimal, ← List.map_reverse, List.reverse_reverse, List.map_map]
  exact (congrArg (Nat.ofDigits 16) hdigits).trans (Nat.ofDigits_digits 16 n)

/-! ### The form of a character -/

/-- The characters with a short form between two `quote` characters, each with the letter that
stands behind the backslash. -/
def shortForms (quote : Char) : List (Char × Char) :=
  [('\x00', '0'), ('\t', 't'), ('\n', 'n'), ('\r', 'r'), ('\\', '\\'), (quote, quote)]

/-- How a character looks between two `quote` characters. -/
def shown (quote c : Char) : List Char :=
  match (shortForms quote).find? fun p => p.1 == c with
  | some p => ['\\', p.2]
  | none => if IsHidden c then ['\\', 'u', '{'] ++ hexadecimal c.toNat ++ ['}'] else [c]

/-- Reads the character that stands first between two `quote` characters, and gives it with what is
behind it. -/
def readChar? (quote : Char) : List Char → Option (Char × List Char)
  | '\\' :: 'u' :: '{' :: rest =>
    some (.ofNat (hexValue (rest.takeWhile (· != '}'))), (rest.dropWhile (· != '}')).tail)
  | '\\' :: letter :: rest =>
    ((shortForms quote).find? fun p => p.2 == letter).map fun p => (p.1, rest)
  | c :: rest => some (c, rest)
  | [] => none

theorem readChar?_short {quote letter : Char} (rest : List Char) (h : letter ≠ 'u') :
    readChar? quote ('\\' :: letter :: rest) =
      ((shortForms quote).find? fun p => p.2 == letter).map fun p => (p.1, rest) := by
  rw [readChar?]
  exact fun _ hu _ => h hu

theorem readChar?_plain {quote c : Char} (rest : List Char) (h : c ≠ '\\') :
    readChar? quote (c :: rest) = some (c, rest) := by
  rw [readChar?]
  · exact fun _ hc _ => h hc
  · exact fun _ _ hc _ => h hc

section Quote

variable {quote : Char} (hq : quote = '\'' ∨ quote = '"')

include hq

theorem escape_eq_shown (c : Char) : escape quote c = shown quote c := by
  unfold shown
  cases hp : (shortForms quote).find? fun p => p.1 == c with
  | some p =>
    have hmem := List.mem_of_find?_eq_some hp
    obtain rfl : p.1 = c := by simpa using List.find?_some hp
    simp only [shortForms, List.mem_cons, List.not_mem_nil, or_false] at hmem
    rcases hmem with rfl | rfl | rfl | rfl | rfl | rfl
    all_goals rcases hq with rfl | rfl <;> rfl
  | none =>
    simp only [shortForms, List.find?_eq_none, List.forall_mem_cons, beq_iff_eq] at hp
    obtain ⟨hnull, htab, hnewline, hreturn, hbackslash, hquote, -⟩ := hp
    have hzero : c.toNat ≠ 0 := fun h => hnull (Char.toNat_inj.1 h).symm
    have hself : ¬(c = '\\' ∨ c = quote) := by
      rintro (rfl | rfl)
      · exact hbackslash rfl
      · exact hquote rfl
    rw [escape, if_neg (Ne.symm hnull), if_neg (Ne.symm htab), if_neg (Ne.symm hnewline),
      if_neg (Ne.symm hreturn), if_neg hself, toDigits_eq_hexadecimal hzero]
    simp only [isHidden_iff]

/-- The letters of the short forms are told from each other and from the start of a code point. -/
theorem find?_shortForms : ∀ p ∈ shortForms quote,
    p.2 ≠ 'u' ∧ (shortForms quote).find? (fun p' => p'.2 == p.2) = some p := by
  rcases hq with rfl | rfl <;> decide

theorem readChar?_shown_append (c : Char) (rest : List Char) :
    readChar? quote (shown quote c ++ rest) = some (c, rest) := by
  unfold shown
  cases hp : (shortForms quote).find? fun p => p.1 == c with
  | some p =>
    obtain ⟨hu, hfind⟩ := find?_shortForms hq p (List.mem_of_find?_eq_some hp)
    obtain rfl : p.1 = c := by simpa using List.find?_some hp
    show readChar? quote ('\\' :: p.2 :: rest) = _
    rw [readChar?_short rest hu, hfind, Option.map_some]
  | none =>
    by_cases hh : IsHidden c
    · have hd : ∀ d ∈ hexadecimal c.toNat, (d != '}') = true := fun d hd =>
        bne_iff_ne.2 (ne_brace_of_mem_hexadecimal hd)
      simp [hh, readChar?, List.takeWhile_append_of_pos hd, List.dropWhile_append_of_pos hd,
        hexValue_hexadecimal]
    · have hc : c ≠ '\\' := by
        rintro rfl
        cases hp
      simp only [if_neg hh]
      exact readChar?_plain rest hc

theorem flatMap_shown_inj {s t : List Char} :
    s.flatMap (shown quote) = t.flatMap (shown quote) ↔ s = t := by
  refine ⟨fun h => ?_, congrArg _⟩
  induction s generalizing t with
  | nil =>
    cases t with
    | nil => rfl
    | cons d t =>
      have hread := readChar?_shown_append hq d (t.flatMap (shown quote))
      rw [← List.flatMap_cons, ← h] at hread
      cases hread
  | cons c s ih =>
    have hread := readChar?_shown_append hq c (s.flatMap (shown quote))
    rw [← List.flatMap_cons, h] at hread
    cases t with
    | nil => cases hread
    | cons d t =>
      rw [List.flatMap_cons, readChar?_shown_append hq] at hread
      obtain ⟨rfl, hrest⟩ := Prod.mk.inj (Option.some.inj hread)
      rw [ih hrest.symm]

theorem between_eq (text : List Char) :
    between quote text = .ofList (quote :: text.flatMap (shown quote) ++ [quote]) := by
  have hescape : escape quote = shown quote := funext (escape_eq_shown hq)
  rw [between, hescape]
  rfl

/-- No two texts are quoted alike. -/
theorem between_inj {s t : List Char} : between quote s = between quote t ↔ s = t := by
  rw [between_eq hq, between_eq hq, String.ofList_inj, List.append_left_inj, List.cons_inj_right,
    flatMap_shown_inj hq]

end Quote

theorem ofString_inj {s t : String} : ofString s = ofString t ↔ s = t := by
  rw [ofString, ofString, between_inj (.inr rfl), String.toList_inj]

theorem ofChar_inj {c d : Char} : ofChar c = ofChar d ↔ c = d := by
  rw [ofChar, ofChar, between_inj (.inl rfl), List.singleton_inj]

theorem ofChar_eq (c : Char) : ofChar c = "'" ++ .ofList (shown '\'' c) ++ "'" := by
  rw [ofChar, between_eq (.inl rfl), ← String.toList_inj]
  simp

end ScriptFront.Quoted
