import ScriptFront.Token.Form

/-!
# Where tokens begin and end

The kind of a token says which characters its lexeme may start with (`Kind.OpensWith`) and which
characters, directly behind the lexeme, become a part of the token (`Kind.Absorbs`). A lexeme starts
with no blank, and neither a blank nor a quote is ever absorbed. Two well-formed tokens clash
exactly when the first absorbs the character that the second starts with (`Token.clash_iff`).
-/

namespace ScriptFront

/-! ### Characters of symbols -/

namespace Symbol

theorem ofChar?_eq_assign_iff {c : Char} : ofChar? c = some .assign ↔ c = '=' := by
  constructor
  · intro h
    unfold ofChar? at h
    split at h <;> first | rfl | cases h
  · rintro rfl
    rfl

theorem ofChar?_ne_equal (c : Char) : ofChar? c ≠ some .equal := by
  intro h
  unfold ofChar? at h
  split at h <;> cases h

/-- No symbol is a blank, a letter, a digit or a quote. -/
theorem class_of_ofChar? {c : Char} {s : Symbol} (h : ofChar? c = some s) :
    isBlank c = false ∧ isLetter c = false ∧ isDigit c = false ∧ c ≠ '"' := by
  unfold ofChar? at h
  split at h <;> cases h <;> decide

theorem ofChar?_eq_none_of_isLetter {c : Char} (h : isLetter c = true) : ofChar? c = none := by
  cases hs : ofChar? c with
  | none => rfl
  | some s => simp [(class_of_ofChar? hs).2.1] at h

theorem ofChar?_eq_none_of_isDigit {c : Char} (h : isDigit c = true) : ofChar? c = none := by
  cases hs : ofChar? c with
  | none => rfl
  | some s => simp [(class_of_ofChar? hs).2.2.1] at h

theorem withEquals?_isSome_iff {s : Symbol} :
    s.withEquals?.isSome ↔ s = .assign ∨ s = .bang := by
  cases s <;> simp [withEquals?]

/-- A symbol is a character of its own, or it is another symbol with an `=` behind it. -/
theorem exists_ofChar? (s : Symbol) :
    ∃ c s', ofChar? c = some s' ∧ (s' = s ∨ s'.withEquals? = some s) := by
  refine ⟨s.spelling.toList.headD '=', ?_⟩
  cases s <;> simp [spelling, ofChar?, withEquals?]

end Symbol

/-! ### First characters -/

namespace Kind

/-- Whether lexemes of the kind may start with the character. -/
def OpensWith (k : Kind) (c : Char) : Prop :=
  match k with
  | illegal => IsStray c
  | endOfInput => False
  | identifier => isLetter c = true
  | integer => isDigit c = true
  | string => c = '"'
  | symbol s => ∃ s', Symbol.ofChar? c = some s' ∧ (s' = s ∨ s'.withEquals? = some s)
  | keyword _ => isLetter c = true

/-- Whether the character, directly behind a token of the kind, becomes a part of the token. -/
def Absorbs (k : Kind) (c : Char) : Prop :=
  match k with
  | illegal => False
  | endOfInput => False
  | identifier => isLetter c = true
  | integer => isDigit c = true
  | string => False
  | symbol s => s.withEquals?.isSome ∧ c = '='
  | keyword _ => isLetter c = true

variable {k : Kind} {c : Char}

theorem isBlank_of_opensWith (h : k.OpensWith c) : isBlank c = false := by
  cases k with
  | illegal => exact h.1
  | endOfInput => cases h
  | identifier => exact isBlank_eq_false_of_isLetter h
  | integer => exact isBlank_eq_false_of_isDigit h
  | string => cases h; decide
  | symbol s =>
    obtain ⟨s', hs, -⟩ := h
    exact (Symbol.class_of_ofChar? hs).1
  | keyword _ => exact isBlank_eq_false_of_isLetter h

theorem isBlank_of_absorbs (h : k.Absorbs c) : isBlank c = false := by
  cases k with
  | illegal => cases h
  | endOfInput => cases h
  | identifier => exact isBlank_eq_false_of_isLetter h
  | integer => exact isBlank_eq_false_of_isDigit h
  | string => cases h
  | symbol s => cases h.2; decide
  | keyword _ => exact isBlank_eq_false_of_isLetter h

theorem not_absorbs_quote : ¬ k.Absorbs '"' := by
  cases k <;> simp [Absorbs] <;> decide

/-! The character that a lexeme starts with decides how the token is read, and so it decides the
kind as far as reading depends on it. -/

theorem isLetter_iff_of_opensWith (h : k.OpensWith c) :
    isLetter c = true ↔ k = identifier ∨ k.isKeyword = true := by
  cases k with
  | illegal => simp [h.2.1, isKeyword]
  | endOfInput => cases h
  | identifier => exact iff_of_true h (Or.inl rfl)
  | integer =>
    apply iff_of_false
    · intro hl
      simp [OpensWith, isDigit_eq_false_of_isLetter hl] at h
    · simp [isKeyword]
  | string => cases h; decide
  | symbol s =>
    obtain ⟨s', hs, -⟩ := h
    simp [(Symbol.class_of_ofChar? hs).2.1, isKeyword]
  | keyword _ => exact iff_of_true h (Or.inr rfl)

theorem isDigit_iff_of_opensWith (h : k.OpensWith c) : isDigit c = true ↔ k = integer := by
  cases k with
  | illegal => simp [h.2.2.1]
  | endOfInput => cases h
  | identifier => simp [isDigit_eq_false_of_isLetter h]
  | integer => exact iff_of_true h rfl
  | string => cases h; decide
  | symbol s =>
    obtain ⟨s', hs, -⟩ := h
    simp [(Symbol.class_of_ofChar? hs).2.2.1]
  | keyword _ => simp [isDigit_eq_false_of_isLetter h]

theorem eq_equals_iff_of_opensWith (h : k.OpensWith c) :
    c = '=' ↔ k = symbol .assign ∨ k = symbol .equal := by
  rw [← Symbol.ofChar?_eq_assign_iff]
  cases k with
  | illegal => simp [h.2.2.2.2]
  | endOfInput => cases h
  | identifier => simp [Symbol.ofChar?_eq_none_of_isLetter h]
  | integer => simp [Symbol.ofChar?_eq_none_of_isDigit h]
  | string => cases h; decide
  | symbol s =>
    obtain ⟨s', hs, hw⟩ := h
    rcases hw with rfl | hw
    · have : s' ≠ .equal := fun he => Symbol.ofChar?_ne_equal c (he ▸ hs)
      simp [hs, this]
    · rw [hs]
      cases s' <;> cases hw <;> simp
  | keyword _ => simp [Symbol.ofChar?_eq_none_of_isLetter h]

end Kind

/-! ### Lexemes -/

theorem Keyword.isLetter_of_mem_spelling {k : Keyword} {c : Char}
    (hc : c ∈ k.spelling.toList) : isLetter c = true := by
  have h : k.spelling.toList.all isLetter = true := by cases k <;> rfl
  exact List.all_eq_true.1 h c hc

theorem Kind.ofWord_spelling (k : Keyword) : Kind.ofWord k.spelling = .keyword k := by
  rw [ofWord, Keyword.ofWord?_eq_some_iff.2 rfl]

theorem Kind.ofWord_eq_identifier {word : String} (h : ∀ k : Keyword, word ≠ k.spelling) :
    Kind.ofWord word = .identifier := by
  have hw : Keyword.ofWord? word = none := by
    rw [Option.eq_none_iff_forall_ne_some]
    exact fun k hk => h k (Keyword.ofWord?_eq_some_iff.1 hk)
  rw [ofWord, hw]

namespace Token

variable {t u : Token}

theorem isWord_ofWord (word : String) : (ofWord word).isWord = true := by
  cases hk : Keyword.ofWord? word <;> simp [ofWord, isWord, Kind.ofWord, Kind.isKeyword, hk]

theorem lexeme_of_isWord (hw : t.isWord = true) : t.lexeme = t.literal := by
  refine if_neg fun hk => ?_
  simp [isWord, hk, Kind.isKeyword] at hw

theorem toList_lexeme_string (text : String) :
    (Token.mk .string text).lexeme.toList = '"' :: (text.toList ++ ['"']) := by
  simp [lexeme]

theorem WellFormed.kind_ne_endOfInput (ht : t.WellFormed) : t.kind ≠ .endOfInput := fun hk => by
  simp [WellFormed, hk] at ht

/-- The words are the texts of one or more letters. -/
theorem wellFormed_ofWord_iff {word : String} :
    (ofWord word).WellFormed ↔ word ≠ "" ∧ ∀ c ∈ word.toList, isLetter c = true := by
  cases hk : Keyword.ofWord? word with
  | none =>
    have hn : ∀ k : Keyword, word ≠ k.spelling := by
      intro k h
      simp [Keyword.ofWord?_eq_some_iff.2 h] at hk
    simp [WellFormed, ofWord, Kind.ofWord, hk, hn]
  | some k =>
    obtain rfl := Keyword.ofWord?_eq_some_iff.1 hk
    have hne : k.spelling ≠ "" := by cases k <;> decide
    simp only [WellFormed, ofWord, Kind.ofWord_spelling, true_iff]
    exact ⟨hne, fun c hc => Keyword.isLetter_of_mem_spelling hc⟩

theorem WellFormed.eq_ofWord (ht : t.WellFormed) (hw : t.isWord = true) :
    t = ofWord t.literal := by
  rcases t with ⟨k, literal⟩
  cases k <;> simp [isWord, Kind.isKeyword] at hw
  case identifier => rw [ofWord, Kind.ofWord_eq_identifier ht.2.2]
  case keyword k =>
    obtain rfl : literal = k.spelling := ht
    rw [ofWord, Kind.ofWord_spelling]

theorem WellFormed.isLetter (ht : t.WellFormed) (hw : t.isWord = true) :
    t.literal ≠ "" ∧ ∀ c ∈ t.literal.toList, ScriptFront.isLetter c = true := by
  rw [ht.eq_ofWord hw] at ht
  exact wellFormed_ofWord_iff.1 ht

theorem absorbs_iff_of_isWord (hw : t.isWord = true) {c : Char} :
    t.kind.Absorbs c ↔ isLetter c = true := by
  rcases t with ⟨k, literal⟩
  cases k <;> simp [isWord, Kind.isKeyword] at hw <;> rfl

/-- A well-formed token starts with a character, and its kind allows that one. -/
theorem WellFormed.exists_opensWith (ht : t.WellFormed) :
    ∃ c r, t.lexeme.toList = c :: r ∧ t.kind.OpensWith c := by
  rcases t with ⟨k, literal⟩
  have nonempty : literal ≠ "" → ∃ c r, literal.toList = c :: r := fun h =>
    List.exists_cons_of_ne_nil (by simpa using h)
  cases k with
  | illegal =>
    obtain ⟨c, hc, hs⟩ := ht
    exact ⟨c, [], by simp [lexeme, show literal = _ from hc], hs⟩
  | endOfInput => cases ht
  | identifier =>
    obtain ⟨c, r, hc⟩ := nonempty ht.1
    exact ⟨c, r, hc, ht.2.1 c (by simp [hc])⟩
  | integer =>
    obtain ⟨c, r, hc⟩ := nonempty ht.1
    exact ⟨c, r, hc, ht.2 c (by simp [hc])⟩
  | string => exact ⟨'"', _, toList_lexeme_string literal, rfl⟩
  | symbol s =>
    obtain ⟨c, s', hc, hs⟩ := s.exists_ofChar?
    obtain rfl : literal = s.spelling := ht
    refine ⟨c, (s.spelling.toList).tail, ?_, s', hc, hs⟩
    rcases hs with rfl | hs
    · simp [lexeme, Symbol.spelling_eq_singleton hc]
    · simp [lexeme, Symbol.spelling_withEquals hs, Symbol.spelling_eq_singleton hc]
  | keyword k =>
    obtain rfl : literal = k.spelling := ht
    obtain ⟨c, r, hc⟩ := nonempty (by cases k <;> decide)
    have hk : c ∈ k.spelling.toList := by simp [hc]
    exact ⟨c, r, hc, Keyword.isLetter_of_mem_spelling hk⟩

/-- Quotes stand around strings only. -/
theorem WellFormed.count_quote_lexeme (ht : t.WellFormed) :
    t.lexeme.toList.count '"' = if t.kind = .string then 2 else 0 := by
  rcases t with ⟨k, literal⟩
  have word : (Token.mk k literal).isWord = true → literal.toList.count '"' = 0 := by
    intro hw
    rw [List.count_eq_zero]
    intro hq
    exact absurd ((ht.isLetter hw).2 _ hq) (by decide)
  cases k with
  | illegal =>
    obtain ⟨c, hc, hs⟩ := ht
    obtain rfl : literal = String.singleton c := hc
    simp [lexeme, List.count_eq_zero, Ne.symm hs.2.2.2.1]
  | endOfInput => cases ht
  | identifier => exact word rfl
  | integer => exact List.count_eq_zero.2 fun hq => absurd (ht.2 _ hq) (by decide)
  | string => simp [toList_lexeme_string, List.count_eq_zero.2 ht]
  | symbol s =>
    obtain rfl : literal = s.spelling := ht
    cases s <;> simp [lexeme, Symbol.spelling]
  | keyword _ => exact word rfl

/-- What can be lengthened holds no blank. -/
theorem WellFormed.isBlank_of_mem_lexeme (ht : t.WellFormed) {c d : Char} (hc : t.kind.Absorbs c)
    (hd : d ∈ t.lexeme.toList) : isBlank d = false := by
  rcases t with ⟨k, literal⟩
  have word : (Token.mk k literal).isWord = true → isBlank d = false := by
    intro hw
    rw [lexeme_of_isWord hw] at hd
    exact isBlank_eq_false_of_isLetter ((ht.isLetter hw).2 d hd)
  cases k with
  | illegal => cases hc
  | endOfInput => cases hc
  | identifier => exact word rfl
  | integer => exact isBlank_eq_false_of_isDigit (ht.2 d hd)
  | string => cases hc
  | symbol s =>
    obtain rfl : literal = s.spelling := ht
    rcases Symbol.withEquals?_isSome_iff.1 hc.1 with rfl | rfl
    · obtain rfl : d = '=' := by simpa [lexeme, Symbol.spelling] using hd
      decide
    · obtain rfl : d = '!' := by simpa [lexeme, Symbol.spelling] using hd
      decide
  | keyword _ => exact word rfl

/-- A lexeme ends in a letter if it is a word and in a digit if it is an integer, and else in
neither. -/
theorem WellFormed.class_of_getLast (ht : t.WellFormed) {d : Char}
    (hd : d ∈ t.lexeme.toList.getLast?) :
    ScriptFront.isLetter d = t.isWord ∧ ScriptFront.isDigit d = (t.kind == .integer) := by
  rcases t with ⟨k, literal⟩
  have word : (Token.mk k literal).isWord = true → k ≠ .integer →
      ScriptFront.isLetter d = (Token.mk k literal).isWord ∧
        ScriptFront.isDigit d = (k == .integer) := by
    intro hw hk
    rw [lexeme_of_isWord hw] at hd
    have hl := (ht.isLetter hw).2 d (List.mem_of_getLast? hd)
    rw [hl, hw, isDigit_eq_false_of_isLetter hl]
    simpa using hk
  cases k with
  | illegal =>
    obtain ⟨c, hc, hs⟩ := ht
    obtain rfl : literal = String.singleton c := hc
    obtain rfl : c = d := by simpa [lexeme] using hd
    exact ⟨hs.2.1, hs.2.2.1⟩
  | endOfInput => cases ht
  | identifier => exact word rfl nofun
  | integer =>
    have hdigit := ht.2 d (List.mem_of_getLast? hd)
    have hl : ScriptFront.isLetter d = false := by
      rw [Bool.eq_false_iff]
      exact fun hl => by simp [isDigit_eq_false_of_isLetter hl] at hdigit
    exact ⟨hl, hdigit⟩
  | string =>
    rw [toList_lexeme_string, ← List.cons_append, List.getLast?_concat] at hd
    obtain rfl : '"' = d := Option.some.inj hd
    exact ⟨(by decide : ScriptFront.isLetter '"' = false),
      (by decide : ScriptFront.isDigit '"' = false)⟩
  | symbol s =>
    obtain rfl : literal = s.spelling := ht
    cases s <;> cases hd <;> decide
  | keyword _ => exact word rfl nofun

/-- Words absorb letters, integers absorb digits, and `=` and `!` absorb a `=`. -/
theorem absorbs_iff {c : Char} : t.kind.Absorbs c ↔
    (t.isWord = true ∧ ScriptFront.isLetter c = true) ∨
      (t.kind = .integer ∧ ScriptFront.isDigit c = true) ∨
      ((t.kind = .symbol .assign ∨ t.kind = .symbol .bang) ∧ c = '=') := by
  rcases t with ⟨k, literal⟩
  cases k <;> simp [Kind.Absorbs, isWord, Kind.isKeyword, Symbol.withEquals?_isSome_iff]

/-- Two tokens clash when the first absorbs what the second starts with. -/
theorem clash_iff {c : Char} (hc : u.kind.OpensWith c) : t.Clash u ↔ t.kind.Absorbs c := by
  have hl := Kind.isLetter_iff_of_opensWith hc
  have hd := Kind.isDigit_iff_of_opensWith hc
  have he := Kind.eq_equals_iff_of_opensWith hc
  rcases t with ⟨k, literal⟩
  cases k <;> simp [Clash, Kind.Absorbs, isWord, Kind.isKeyword, hl, hd, he,
    Symbol.withEquals?_isSome_iff]

end Token

end ScriptFront
