import DurationCalc.Text.Numeral
import DurationCalc.TimeUnit

/-!
# Tokens

What a lexeme stands for in an expression. The classes exclude each other: a
comma, a sign, a unit letter, a numeral, and whatever is left over.
-/

namespace DurationCalc.Expression

inductive Sign where
  | plus
  | minus
deriving DecidableEq, Repr

namespace Sign

def ofLexeme? : String → Option Sign
  | "+" => some .plus
  | "-" => some .minus
  | _ => none

/-- An amount with its sign; without a sign it counts as positive. -/
def apply (sign : Option Sign) (amount : Nat) : Int :=
  if sign = some .minus then -(amount : Int) else (amount : Int)

@[simp] theorem apply_none (amount : Nat) : apply none amount = amount := rfl

@[simp] theorem apply_minus (amount : Nat) : apply (some .minus) amount = -(amount : Int) := rfl

@[simp] theorem apply_zero (sign : Option Sign) : apply sign 0 = 0 := by
  unfold apply
  split <;> rfl

theorem eq_of_ofLexeme? {lexeme : String} {sign : Sign}
    (isSign : ofLexeme? lexeme = some sign) : lexeme = "+" ∨ lexeme = "-" := by
  unfold ofLexeme? at isSign
  split at isSign
  · exact .inl rfl
  · exact .inr rfl
  · cases isSign

end Sign

inductive Token where
  | comma
  | sign (sign : Sign)
  | unit (unit : TimeUnit)
  | number (value : Nat)
  | stray
deriving DecidableEq, Repr

namespace Token

def ofLexeme (lexeme : String) : Token :=
  if lexeme = "," then .comma
  else match Sign.ofLexeme? lexeme with
  | some found => .sign found
  | none => match TimeUnit.ofToken? lexeme with
    | some found => .unit found
    | none => match Text.numeral? lexeme.toList with
      | some value => .number value
      | none => .stray

theorem ofLexeme_eq_comma_iff (lexeme : String) :
    ofLexeme lexeme = .comma ↔ lexeme = "," := by
  constructor
  · intro isComma
    unfold ofLexeme at isComma
    split at isComma
    · assumption
    · split at isComma
      · cases isComma
      · split at isComma
        · cases isComma
        · split at isComma <;> cases isComma
  · rintro rfl
    rfl

theorem ofLexeme_eq_sign_iff (lexeme : String) (sign : Sign) :
    ofLexeme lexeme = .sign sign ↔ Sign.ofLexeme? lexeme = some sign := by
  unfold ofLexeme
  split
  · rename_i isComma
    subst isComma
    simp [Sign.ofLexeme?]
  · cases Sign.ofLexeme? lexeme with
    | some found => simp
    | none => grind

theorem ofLexeme_eq_unit_iff (lexeme : String) (unit : TimeUnit) :
    ofLexeme lexeme = .unit unit ↔ TimeUnit.ofToken? lexeme = some unit := by
  unfold ofLexeme
  split
  · rename_i isComma
    subst isComma
    simp [TimeUnit.ofToken?]
  · cases found : Sign.ofLexeme? lexeme with
    | some sign =>
        rcases Sign.eq_of_ofLexeme? found with rfl | rfl <;> simp [TimeUnit.ofToken?]
    | none => grind

theorem numeral?_of_ofToken? {lexeme : String} {unit : TimeUnit}
    (isUnit : TimeUnit.ofToken? lexeme = some unit) :
    Text.numeral? lexeme.toList = none := by
  unfold TimeUnit.ofToken? at isUnit
  split at isUnit
  case h_9 => cases isUnit
  all_goals rfl

theorem ofToken?_of_sign {lexeme : String} {sign : Sign}
    (isSign : Sign.ofLexeme? lexeme = some sign) : TimeUnit.ofToken? lexeme = none := by
  rcases Sign.eq_of_ofLexeme? isSign with rfl | rfl <;> rfl

theorem numeral?_of_sign {lexeme : String} {sign : Sign}
    (isSign : Sign.ofLexeme? lexeme = some sign) : Text.numeral? lexeme.toList = none := by
  rcases Sign.eq_of_ofLexeme? isSign with rfl | rfl <;> rfl

theorem sign?_of_unit {lexeme : String} {unit : TimeUnit}
    (isUnit : TimeUnit.ofToken? lexeme = some unit) : Sign.ofLexeme? lexeme = none := by
  cases isSign : Sign.ofLexeme? lexeme with
  | none => rfl
  | some sign =>
      rw [ofToken?_of_sign isSign] at isUnit
      cases isUnit

theorem sign?_of_numeral {lexeme : String} {value : Nat}
    (isNumber : Text.numeral? lexeme.toList = some value) : Sign.ofLexeme? lexeme = none := by
  cases isSign : Sign.ofLexeme? lexeme with
  | none => rfl
  | some sign =>
      rw [numeral?_of_sign isSign] at isNumber
      cases isNumber

/-- What is no comma, sign or unit is a number if it is a numeral, and stray otherwise. -/
theorem ofLexeme_of_remaining {lexeme : String} (notComma : lexeme ≠ ",")
    (noSign : Sign.ofLexeme? lexeme = none) (noUnit : TimeUnit.ofToken? lexeme = none) :
    ofLexeme lexeme = (Text.numeral? lexeme.toList).elim .stray .number := by
  rw [ofLexeme, if_neg notComma, noSign, noUnit]
  cases Text.numeral? lexeme.toList <;> rfl

theorem ofLexeme_eq_number_iff (lexeme : String) (value : Nat) :
    ofLexeme lexeme = .number value ↔ Text.numeral? lexeme.toList = some value := by
  unfold ofLexeme
  split
  · rename_i isComma
    subst isComma
    simp [Text.numeral?, Text.isNumeral, Char.isDigit]
  · cases found : Sign.ofLexeme? lexeme with
    | some sign =>
        rcases Sign.eq_of_ofLexeme? found with rfl | rfl <;>
          simp [Text.numeral?, Text.isNumeral, Char.isDigit]
    | none =>
        cases isUnit : TimeUnit.ofToken? lexeme with
        | some unit => simp [numeral?_of_ofToken? isUnit]
        | none => grind

end Token

end DurationCalc.Expression
