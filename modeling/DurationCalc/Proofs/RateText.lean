import DurationCalc.Rate
import Mathlib.Data.UInt

/-!
# The texts that are rates

A rate may be written with blanks around it, with one plus sign in front and with
any number of leading zeros. Which texts these are is said here without trimming or
reading anything, and every other text is refused and quoted as it was written.
Numbers of any length are read exactly. A reader whose words have 32 bits and that
gives up at the first overflow accepts the same texts, because what overflows is far
beyond the highest rate and no later digit brings it back.
-/

namespace DurationCalc

namespace Text

/-- The number is written in digits, perhaps after a plus sign, with only blanks around it. -/
inductive SpellsNumber : List Char → Nat → Prop where
  | plain {before numeral after : List Char} :
      before.all isBlank = true →
      isNumeral numeral = true →
      after.all isBlank = true →
      SpellsNumber (before ++ numeral ++ after) (numeralValue numeral)
  | plus {before numeral after : List Char} :
      before.all isBlank = true →
      isNumeral numeral = true →
      after.all isBlank = true →
      SpellsNumber (before ++ '+' :: numeral ++ after) (numeralValue numeral)

theorem isBlank_of_mem_numeral {numeral : List Char} (isNumeral : isNumeral numeral = true) :
    ∀ character ∈ numeral, isBlank character = false := by
  rw [isNumeral_iff] at isNumeral
  exact fun character isThere => isBlank_of_isDigit (isNumeral.2 character isThere)

theorem plusNumeral?_of_isNumeral {numeral : List Char} (isNumeral : isNumeral numeral = true) :
    plusNumeral? numeral = some (numeralValue numeral) := by
  have noPlus : plusNumeral? numeral = numeral? numeral := by
    rw [plusNumeral?]
    rintro rest rfl
    rw [isNumeral_iff] at isNumeral
    have plusIsDigit := isNumeral.2 '+' List.mem_cons_self
    cases plusIsDigit
  rw [noPlus, numeral?, if_pos isNumeral]

/-- Trimming and reading find the number exactly where it is spelled. -/
theorem spellsNumber_iff (characters : List Char) (number : Nat) :
    SpellsNumber characters number ↔ plusNumeral? (trim characters) = some number := by
  constructor
  · intro spells
    cases spells with
    | plain blankBefore isNumeral blankAfter =>
        rw [trim_append_append blankBefore (isBlank_of_mem_numeral isNumeral) blankAfter,
          plusNumeral?_of_isNumeral isNumeral]
    | @plus before numeral after blankBefore isNumeral blankAfter =>
        have noBlank : ∀ character ∈ '+' :: numeral, isBlank character = false :=
          List.forall_mem_cons.mpr ⟨rfl, isBlank_of_mem_numeral isNumeral⟩
        rw [trim_append_append blankBefore noBlank blankAfter, plusNumeral?, numeral?,
          if_pos isNumeral]
  · intro isRead
    obtain ⟨before, after, blankBefore, blankAfter, whole⟩ := exists_append_trim_append characters
    rw [whole]
    generalize trim characters = core at isRead
    unfold plusNumeral? at isRead
    split at isRead
    · obtain ⟨isNumeral, rfl⟩ := (numeral?_eq_some_iff _ _).mp isRead
      exact .plus blankBefore isNumeral blankAfter
    · obtain ⟨isNumeral, rfl⟩ := (numeral?_eq_some_iff _ _).mp isRead
      exact .plain blankBefore isNumeral blankAfter

/-- Put one more digit behind the number in a word of 32 bits, unless a step overflows. -/
def appendDigit? (word : UInt32) (digit : Char) : Option UInt32 :=
  let units := UInt32.ofNat (digit.toNat - '0'.toNat)
  if word.toNat * 10 < UInt32.size then
    if (word * 10).toNat + units.toNat < UInt32.size then some (word * 10 + units) else none
  else none

/-- Read a numeral that one plus sign may precede into a word of 32 bits. -/
def plusWord? : List Char → Option UInt32
  | '+' :: rest => if isNumeral rest then rest.foldlM appendDigit? 0 else none
  | characters => if isNumeral characters then characters.foldlM appendDigit? 0 else none

theorem appendDigit?_eq_some_iff (word next : UInt32) {digit : Char}
    (isDigit : digit.isDigit = true) :
    appendDigit? word digit = some next ↔
      10 * word.toNat + (digit.toNat - '0'.toNat) = next.toNat := by
  have small : digit.toNat - '0'.toNat < UInt32.size := by
    have upTo := ((Char.isDigit_iff_toNat).mp isDigit).2
    exact Nat.lt_of_le_of_lt (Nat.sub_le _ _) (Nat.lt_of_le_of_lt upTo (by decide))
  have units : (UInt32.ofNat (digit.toNat - '0'.toNat)).toNat = digit.toNat - '0'.toNat :=
    UInt32.toNat_ofNat_of_lt small
  have bounded : next.toNat < UInt32.size := next.toNat_lt
  unfold appendDigit?
  dsimp only
  split
  · rename_i tensFit
    have tens : (word * 10).toNat = word.toNat * 10 := by
      rw [UInt32.toNat_mul]
      exact Nat.mod_eq_of_lt tensFit
    rw [units, tens]
    split
    · rename_i fits
      have sum : (word * 10 + UInt32.ofNat (digit.toNat - '0'.toNat)).toNat =
          word.toNat * 10 + (digit.toNat - '0'.toNat) := by
        rw [UInt32.toNat_add, units, tens]
        exact Nat.mod_eq_of_lt fits
      rw [Option.some.injEq, ← UInt32.toNat_inj, sum, Nat.mul_comm]
    · rename_i overflows
      constructor
      · rintro ⟨⟩
      · intro isNext
        omega
  · rename_i overflows
    constructor
    · rintro ⟨⟩
    · intro isNext
      omega

theorem le_ofDigitChars (digits : List Char) (number : Nat) :
    number ≤ Nat.ofDigitChars 10 digits number := by
  induction digits generalizing number with
  | nil => exact Nat.le_refl number
  | cons digit later ih =>
      rw [Nat.ofDigitChars_cons]
      exact Nat.le_trans (by omega) (ih _)

/-- The word holds the exact number, and once a number does not fit no later digit helps. -/
theorem foldlM_appendDigit?_eq_some_iff {digits : List Char}
    (allDigits : ∀ digit ∈ digits, digit.isDigit = true) (word final : UInt32) :
    digits.foldlM appendDigit? word = some final ↔
      Nat.ofDigitChars 10 digits word.toNat = final.toNat := by
  induction digits generalizing word with
  | nil =>
      rw [List.foldlM_nil, Nat.ofDigitChars_nil, UInt32.toNat_inj]
      exact Option.some_inj
  | cons digit later ih =>
      rw [List.forall_mem_cons] at allDigits
      rw [List.foldlM_cons, Nat.ofDigitChars_cons]
      constructor
      · intro isRead
        obtain ⟨next, first, rest⟩ := Option.bind_eq_some_iff.mp isRead
        rw [(appendDigit?_eq_some_iff word next allDigits.1).mp first]
        exact (ih allDigits.2 next).mp rest
      · intro isFinal
        have fits : 10 * word.toNat + (digit.toNat - '0'.toNat) < UInt32.size := by
          have grows := le_ofDigitChars later (10 * word.toNat + (digit.toNat - '0'.toNat))
          have bounded : final.toNat < UInt32.size := final.toNat_lt
          omega
        have isNext := (UInt32.toNat_ofNat_of_lt fits).symm
        apply Option.bind_eq_some_iff.mpr
        refine ⟨_, (appendDigit?_eq_some_iff word _ allDigits.1).mpr isNext, ?_⟩
        rw [ih allDigits.2, ← isNext, isFinal]

theorem plusWord?_eq_some_iff (characters : List Char) (word : UInt32) :
    plusWord? characters = some word ↔ plusNumeral? characters = some word.toNat := by
  have ofDigits (numeral : List Char) :
      (if isNumeral numeral then numeral.foldlM appendDigit? 0 else none) = some word ↔
        numeral? numeral = some word.toNat := by
    rw [numeral?]
    split
    · rename_i isNumeral
      rw [isNumeral_iff] at isNumeral
      rw [foldlM_appendDigit?_eq_some_iff isNumeral.2, Option.some_inj]
      rfl
    · simp
  by_cases startsPlus : ∃ rest, characters = '+' :: rest
  · obtain ⟨rest, rfl⟩ := startsPlus
    exact ofDigits rest
  · rw [not_exists] at startsPlus
    rw [plusWord?, plusNumeral?]
    · exact ofDigits characters
    · exact startsPlus
    · exact startsPlus

end Text

namespace Rate

/-- Read a rate through a word of 32 bits, whose range is looked at only when all digits are read. -/
def ofTextByWord (text : String) : Except RateError Rate :=
  match (Text.plusWord? (Text.trim text.toList)).bind fun word => ofNat? word.toNat with
  | some rate => .ok rate
  | none => .error ⟨text⟩

theorem ofText_eq_ok_iff (text : String) (rate : Rate) :
    ofText text = .ok rate ↔ Text.SpellsNumber text.toList rate.perSecond := by
  rw [Text.spellsNumber_iff, ofText]
  cases isRead : Text.plusNumeral? (Text.trim text.toList) with
  | none => simp
  | some number =>
      rw [Option.bind_some, Option.some_inj, eq_comm (a := number), ← ofNat?_eq_some_iff]
      cases ofNat? number <;> simp

/-- A text of which no rate comes is quoted with its blanks. -/
theorem ofText_eq_error_iff (text : String) (error : RateError) :
    ofText text = .error error ↔
      error = ⟨text⟩ ∧
        ¬∃ number, Text.SpellsNumber text.toList number ∧ 1 ≤ number ∧ number ≤ 1000 := by
  have spellsNone : (¬∃ number, Text.SpellsNumber text.toList number ∧ 1 ≤ number ∧ number ≤ 1000) ↔
      ∀ rate, ofText text ≠ .ok rate := by
    simp only [ne_eq, ofText_eq_ok_iff]
    constructor
    · intro noNumber rate spells
      exact noNumber ⟨rate.perSecond, spells, rate.one_le_perSecond, rate.perSecond_le⟩
    · rintro noRate ⟨number, spells, atLeast, atMost⟩
      exact noRate ⟨number, atLeast, atMost⟩ spells
  have quotes : (∃ rate, ofText text = .ok rate) ∨ ofText text = .error ⟨text⟩ := by
    rw [ofText]
    split
    · exact .inl ⟨_, rfl⟩
    · exact .inr rfl
  rw [spellsNone]
  rcases quotes with ⟨rate, isRate⟩ | refused
  · simp [isRate]
  · simp [refused, eq_comm]

/-- Rates are so small that what does not fit in a word is none of them. -/
theorem plusWord?_bind_ofNat? (characters : List Char) :
    ((Text.plusWord? characters).bind fun word => ofNat? word.toNat) =
      (Text.plusNumeral? characters).bind ofNat? := by
  cases isWord : Text.plusWord? characters with
  | some word =>
      rw [(Text.plusWord?_eq_some_iff characters word).mp isWord]
      rfl
  | none =>
      symm
      rw [Option.bind_none, Option.bind_eq_none_iff]
      intro number isNumber
      rw [Option.eq_none_iff_forall_ne_some]
      intro rate isRate
      have fits : number < UInt32.size := by
        have small := rate.perSecond_le
        rw [(ofNat?_eq_some_iff number rate).mp isRate] at small
        exact Nat.lt_of_le_of_lt small (by decide)
      have asWord : (UInt32.ofNat number).toNat = number := UInt32.toNat_ofNat_of_lt fits
      rw [← asWord, ← Text.plusWord?_eq_some_iff, isWord] at isNumber
      cases isNumber

theorem ofTextByWord_eq_ofText (text : String) : ofTextByWord text = ofText text := by
  cases isRate : (Text.plusNumeral? (Text.trim text.toList)).bind ofNat? with
  | none => rw [ofTextByWord, plusWord?_bind_ofNat?, isRate, ofText, isRate]
  | some rate => rw [ofTextByWord, plusWord?_bind_ofNat?, isRate, ofText, isRate]

/--
A text is a rate exactly when it spells a number from 1 to 1000, and any other text
is refused and quoted in full. A number beyond 32 bits is refused, however it is
written, and reading into a word of 32 bits makes no difference. The text of a rate
reads back as that rate.
-/
theorem ofText_accepts_spelled (text : String) :
    (∀ rate, ofText text = .ok rate ↔ Text.SpellsNumber text.toList rate.perSecond) ∧
      (∀ error, ofText text = .error error ↔
        error = ⟨text⟩ ∧
          ¬∃ number, Text.SpellsNumber text.toList number ∧ 1 ≤ number ∧ number ≤ 1000) ∧
      (∀ number, Text.SpellsNumber text.toList number → 2 ^ 32 ≤ number →
        ofText text = .error ⟨text⟩) ∧
      ofTextByWord text = ofText text ∧
      ∀ rate, ofText rate.text = .ok rate := by
  refine ⟨ofText_eq_ok_iff text, ofText_eq_error_iff text, ?_, ofTextByWord_eq_ofText text,
    ofText_text⟩
  intro number spells beyond
  rw [ofText_eq_error_iff]
  refine ⟨rfl, ?_⟩
  rintro ⟨other, spellsOther, -, atMost⟩
  rw [Text.spellsNumber_iff] at spells spellsOther
  rw [spells, Option.some_inj] at spellsOther
  omega

/-- Thirty more than fills a word of 32 bits is refused, with blanks, a plus sign and zeros as well. -/
theorem ofText_accepts_spelled_beyond_word :
    Text.SpellsNumber "\u3000+0004294967326 ".toList 4294967326 ∧ 2 ^ 32 ≤ 4294967326 ∧
      ofText "\u3000+0004294967326 " = .error ⟨"\u3000+0004294967326 "⟩ ∧
      ofText "\u3000+00030 " = .ok thirtyFrames := by
  have spells : Text.SpellsNumber "\u3000+0004294967326 ".toList 4294967326 :=
    (Text.spellsNumber_iff _ _).mpr (by decide +kernel)
  have spellsThirty : Text.SpellsNumber "\u3000+00030 ".toList thirtyFrames.perSecond :=
    (Text.spellsNumber_iff _ _).mpr (by decide +kernel)
  have beyond : 2 ^ 32 ≤ 4294967326 := by decide
  exact ⟨spells, beyond,
    (ofText_accepts_spelled "\u3000+0004294967326 ").2.2.1 4294967326 spells beyond,
    ((ofText_accepts_spelled "\u3000+00030 ").1 thirtyFrames).mpr spellsThirty⟩

end Rate

end DurationCalc
