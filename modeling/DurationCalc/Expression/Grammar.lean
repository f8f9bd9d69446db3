import DurationCalc.Expression.Token

/-!
# The grammar of expressions and what they mean

An expression is a list of lexemes without a comma:

    term        :=  number  |  number unit  |  number unit term
    expression  :=  sign? term (sign term)*

A term amounts to the sum of its numbers, each counted in its unit and the last
one in milliseconds when it has none. An expression means the list of its terms,
each with the sign in front of it. The relations say this without any reading
procedure.
-/

namespace DurationCalc.Expression

/-- The lexemes spell a term that amounts to so many milliseconds. -/
inductive SpellsTerm : List String → Nat → Prop where
  | bare {numeral : String} {value : Nat} :
      Text.numeral? numeral.toList = some value →
      SpellsTerm [numeral] value
  | measured {numeral letter : String} {value : Nat} {unit : TimeUnit} :
      Text.numeral? numeral.toList = some value →
      TimeUnit.ofToken? letter = some unit →
      SpellsTerm [numeral, letter] (value * unit.millis)
  | more {numeral letter : String} {value rest : Nat} {unit : TimeUnit} {later : List String} :
      Text.numeral? numeral.toList = some value →
      TimeUnit.ofToken? letter = some unit →
      SpellsTerm later rest →
      SpellsTerm (numeral :: letter :: later) (value * unit.millis + rest)

/-- The lexemes spell terms that each carry a sign, or nothing at all. -/
inductive SpellsSigned : List String → List Int → Prop where
  | done : SpellsSigned [] []
  | next {operator : String} {sign : Sign} {term later : List String} {amount : Nat}
      {values : List Int} :
      Sign.ofLexeme? operator = some sign →
      SpellsTerm term amount →
      SpellsSigned later values →
      SpellsSigned (operator :: term ++ later) (Sign.apply (some sign) amount :: values)

/-- The lexemes spell an expression whose terms have these values in milliseconds. -/
inductive Spells : List String → List Int → Prop where
  | unsigned {term later : List String} {amount : Nat} {values : List Int} :
      SpellsTerm term amount →
      SpellsSigned later values →
      Spells (term ++ later) (Sign.apply none amount :: values)
  | signed {lexemes : List String} {values : List Int} :
      SpellsSigned lexemes values →
      lexemes ≠ [] →
      Spells lexemes values

/--
The lexemes spell an expression at the end of the text, where the last sign may
still lack its term: that term counts nothing.
-/
inductive SpellsAtEnd : List String → List Int → Prop where
  | complete {lexemes : List String} {values : List Int} :
      Spells lexemes values →
      SpellsAtEnd lexemes values
  | trailingSign {lexemes : List String} {values : List Int} {operator : String} {sign : Sign} :
      Spells lexemes values →
      Sign.ofLexeme? operator = some sign →
      SpellsAtEnd (lexemes ++ [operator]) (values ++ [0])
  | loneSign {operator : String} {sign : Sign} :
      Sign.ofLexeme? operator = some sign →
      SpellsAtEnd [operator] [0]

/--
The lexemes spell one expression that nothing but a comma may follow. With the comma
it is not at the end any more, so no sign may be left without its term.
-/
inductive SpellsAlone : List String → List Int → Prop where
  | atEnd {lexemes : List String} {values : List Int} :
      SpellsAtEnd lexemes values →
      SpellsAlone lexemes values
  | beforeComma {lexemes : List String} {values : List Int} :
      Spells lexemes values →
      SpellsAlone (lexemes ++ [","]) values

/-- The lexemes can be continued to an expression. -/
def Begins (lexemes : List String) : Prop :=
  ∃ later values, Spells (lexemes ++ later) values

end DurationCalc.Expression
