import Keypad.Grammar
import Keypad.Lexeme
import Keypad.Tree

/-!
Writing an expression tree down.

A tree can be written in many ways: parentheses are needed around a left branch
that binds weaker than its operator and around a right branch that does not
bind tighter, and they are allowed around everything.  Blanks may stand
anywhere, and glyphs in place of their characters.

Owns:
- the lexemes that a tree can be written with;
- the texts that spell a list of lexemes.

Main statement: `Renders.isExpression` (what is written obeys the grammar).
-/

namespace Keypad

/-- How tight a group or a numeral holds together: tighter than any operator. -/
def atomTightness : Nat :=
  3

/-- The lexemes are a way to write the tree, and `tightness` is the precedence
of its outermost operator, or more when nothing outside can reach into it. -/
inductive Renders : Tree Numeral → Nat → List Lexeme → Prop where
  | leaf {numeral : Numeral} (wellFormed : numeral.WellFormed) :
      Renders (.leaf numeral) atomTightness [.numeral numeral]
  | group {tree : Tree Numeral} {tightness : Nat} {lexemes : List Lexeme}
      (renders : Renders tree tightness lexemes) :
      Renders tree atomTightness (.opening :: lexemes ++ [.closing])
  | node {op : Operator} {left right : Tree Numeral}
      {leftTightness rightTightness : Nat}
      {leftLexemes rightLexemes : List Lexeme}
      (leftRenders : Renders left leftTightness leftLexemes)
      (leftHolds : op.precedence ≤ leftTightness)
      (rightRenders : Renders right rightTightness rightLexemes)
      (rightHolds : op.precedence < rightTightness) :
      Renders (.node op left right) op.precedence
        (leftLexemes ++ .operator op :: rightLexemes)

namespace Lexeme

def spelling (lexemes : List Lexeme) : Text :=
  lexemes.flatMap text

/-- A text spells lexemes when it is their spelling up to blanks and glyphs. -/
def Spells (source : Text) (lexemes : List Lexeme) : Prop :=
  Text.squeeze (Text.plain source) = spelling lexemes

instance (source : Text) (lexemes : List Lexeme) :
    Decidable (Spells source lexemes) := by
  unfold Spells
  infer_instance

@[simp] theorem spelling_append (front back : List Lexeme) :
    spelling (front ++ back) = spelling front ++ spelling back := by
  simp [spelling]

end Lexeme

namespace Renders

theorem precedence_cases (op : Operator) :
    op.precedence = 1 ∨ op.precedence = 2 := by
  cases op <;> decide

/-- What is written is an expression, a term where nothing weaker than a product
stands outside parentheses, and a factor where no operator does. -/
theorem classes
    {tree : Tree Numeral}
    {tightness : Nat}
    {lexemes : List Lexeme}
    (renders : Renders tree tightness lexemes) :
    Grammar.IsExpression (lexemes.map Lexeme.token) ∧
      (2 ≤ tightness → Grammar.IsTerm (lexemes.map Lexeme.token)) ∧
      (3 ≤ tightness → Grammar.IsFactor (lexemes.map Lexeme.token)) := by
  induction renders with
  | leaf =>
      have isFactor := Grammar.IsFactor.number
      exact ⟨(isFactor _).isExpression, fun _ => .factor (isFactor _),
        fun _ => isFactor _⟩
  | group _ inner =>
      have isFactor := Grammar.IsFactor.group inner.1
      simp only [List.map_append, List.map_cons, List.map_nil, Lexeme.token]
      exact ⟨isFactor.isExpression, fun _ => .factor isFactor, fun _ => isFactor⟩
  | @node op _ _ _ _ _ _ _ leftHolds _ rightHolds leftClasses rightClasses =>
      simp only [List.map_append, List.map_cons, Lexeme.token]
      rcases precedence_cases op with additive | multiplicative
      · refine ⟨.sum leftClasses.1 additive (rightClasses.2.1 (by omega)), ?_, ?_⟩
        · omega
        · omega
      · have isTerm := Grammar.IsTerm.product (leftClasses.2.1 (by omega))
          multiplicative (rightClasses.2.2 (by omega))
        exact ⟨.term isTerm, fun _ => isTerm, by omega⟩

/-- What is written obeys the grammar. -/
theorem isExpression
    {tree : Tree Numeral}
    {tightness : Nat}
    {lexemes : List Lexeme}
    (renders : Renders tree tightness lexemes) :
    Grammar.IsExpression (lexemes.map Lexeme.token) :=
  renders.classes.1

end Renders

end Keypad
