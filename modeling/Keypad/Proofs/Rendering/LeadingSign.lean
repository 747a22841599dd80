import Keypad.Proofs.Binary64.Negation
import Keypad.Proofs.Composition
import Keypad.Proofs.Rendering

/-!
A sign at the start of an expression, read as a subtraction from zero.

The sign of a literal belongs to the literal, and a minus behind a zero takes the
whole product that follows away from it.  Both come to the same: a product
passes the sign of its first factor on, and a sum that starts with a number
starts with its negation subtracted from zero.

Owns:
- numerals without their sign;
- trees whose results are each other's negation, and trees with one result;
- the tree that is written when a leading sign becomes a subtraction.

Main statement: `Renders.zero_sub`.
-/

namespace Keypad

namespace Numeral

def unsigned (written : Numeral) : Numeral :=
  { written with negative := false }

private theorem WellFormed.unsigned
    {written : Numeral}
    (wellFormed : written.WellFormed) :
    written.unsigned.WellFormed :=
  ⟨wellFormed.wholeDigits, wellFormed.decimalDigits, wellFormed.hasDigit⟩

theorem text_of_negative
    {written : Numeral}
    (negative : written.negative = true) :
    written.text = '-' :: written.unsigned.text := by
  simp [text, unsigned, negative, body, fractionText]

private theorem number_unsigned
    {written : Numeral}
    (negative : written.negative = true) :
    written.unsigned.number = written.number.neg := by
  rw [number, number, Binary64.neg_ofDecimal]
  simp [decimal, unsigned, negative, decimals]

end Numeral

namespace Tree

/-- The second tree stops where the first one does, and its value has the other
sign. -/
structure Negated (tree other : Tree Binary64) : Prop where
  divides : other.dividesByZero = tree.dividesByZero
  value : other.plainValue = tree.plainValue.neg

/-- The second tree stops where the first one does, and its value is the same
but for the sign of a zero. -/
structure Alike (tree other : Tree Binary64) : Prop where
  divides : other.dividesByZero = tree.dividesByZero
  value : other.plainValue.unsignZero = tree.plainValue.unsignZero

private theorem Negated.leaf (number : Binary64) : Negated (.leaf number) (.leaf number.neg) where
  divides := rfl
  value := rfl

private theorem Negated.product
    {op : Operator}
    {left other : Tree Binary64}
    (negated : Negated left other)
    (multiplicative : op.precedence = 2)
    (right : Tree Binary64) :
    Negated (.node op left right) (.node op other right) where
  divides := by rw [dividesByZero, dividesByZero, negated.divides]
  value := by
    rw [plainValue, plainValue, negated.value,
      Operator.result_neg_left multiplicative]

theorem Negated.zero_sub
    {tree other : Tree Binary64}
    (negated : Negated tree other) :
    Alike tree (.node .sub (.leaf Binary64.zero) other) where
  divides := by simp [dividesByZero, negated.divides]
  value := by
    rw [plainValue, negated.value]
    exact Binary64.unsignZero_zero_sub_neg tree.plainValue

private theorem Alike.node
    {op : Operator}
    {left other : Tree Binary64}
    (alike : Alike left other)
    (notDivision : op ≠ .div)
    (right : Tree Binary64) :
    Alike (.node op left right) (.node op other right) where
  divides := by simp [dividesByZero, alike.divides, notDivision]
  value := by
    have divides : ¬ (op = .div ∧ right.plainValue.isZero = true) :=
      fun division => notDivision division.1
    rw [plainValue, plainValue, ← Operator.unsignZero_result divides, alike.value,
      Operator.unsignZero_result divides]

theorem Alike.result
    {tree other : Tree Binary64}
    (alike : Alike tree other) :
    other.result = tree.result := by
  have value : reportValue other.plainValue = reportValue tree.plainValue := by
    rw [← reportValue_unsignZero, alike.value, reportValue_unsignZero]
  rw [Tree.result, Tree.result, value_eq, value_eq, alike.divides]
  cases tree.dividesByZero with
  | true => rfl
  | false => exact value

end Tree

namespace Renders

variable {tree : Tree Numeral} {tightness : Nat}
variable {written : Numeral} {later : List Lexeme}

/-- What starts with a number grows from there to the right, by one operator and
its right branch after the other. -/
@[elab_as_elim]
theorem leading_induction
    {motive : Tree Numeral → Nat → List Lexeme → Prop}
    (renders : Renders tree tightness (.numeral written :: later))
    (leaf : written.WellFormed → motive (.leaf written) atomTightness [])
    (node : ∀ (op : Operator) {left right : Tree Numeral} {leftTightness rightTightness : Nat}
      {rest rightLexemes : List Lexeme},
      Renders left leftTightness (.numeral written :: rest) →
        op.precedence ≤ leftTightness →
          Renders right rightTightness rightLexemes →
            op.precedence < rightTightness →
              motive left leftTightness rest →
                motive (.node op left right) op.precedence
                  (rest ++ .operator op :: rightLexemes)) :
    motive tree tightness later := by
  generalize starts : Lexeme.numeral written :: later = lexemes at renders
  induction renders generalizing later with
  | leaf wellFormed =>
      cases starts
      exact leaf wellFormed
  | group => cases starts
  | @node op _ _ _ _ leftLexemes _ leftRenders leftHolds rightRenders rightHolds
      leftHypothesis _ =>
      cases leftLexemes with
      | nil => cases starts
      | cons first rest =>
          cases starts
          exact node op leftRenders leftHolds rightRenders rightHolds (leftHypothesis rfl)

/-- At the start of a product the sign of a number can be left out. -/
theorem unsigned
    (renders : Renders tree tightness (.numeral written :: later))
    (negative : written.negative = true)
    (isProduct : 2 ≤ tightness) :
    ∃ other, Renders other tightness (.numeral written.unsigned :: later) ∧
      Tree.Negated (tree.map Numeral.number) (other.map Numeral.number) := by
  revert isProduct
  refine leading_induction renders ?leaf ?node
  case leaf =>
    intro wellFormed _
    refine ⟨.leaf written.unsigned, .leaf wellFormed.unsigned, ?_⟩
    rw [Tree.map, Tree.map, Numeral.number_unsigned negative]
    exact .leaf written.number
  case node =>
    intro op left right _ _ _ _ _ leftHolds rightRenders rightHolds leftUnsigned isProduct
    obtain ⟨other, otherRenders, negated⟩ := leftUnsigned (Nat.le_trans isProduct leftHolds)
    have multiplicative : op.precedence = 2 := by
      rcases precedence_cases op with additive | multiplicative
      · omega
      · exact multiplicative
    exact ⟨.node op other right, .node otherRenders leftHolds rightRenders rightHolds,
      negated.product multiplicative _⟩

/-- A product that starts with a sign is a product subtracted from zero. -/
theorem zero_sub_product
    (renders : Renders tree tightness (.numeral written :: later))
    (negative : written.negative = true)
    (isProduct : 2 ≤ tightness) :
    ∃ other, Renders other Operator.sub.precedence
        (.numeral .zero :: .operator .sub :: .numeral written.unsigned :: later) ∧
      Tree.Alike (tree.map Numeral.number) (other.map Numeral.number) := by
  obtain ⟨other, otherRenders, negated⟩ := renders.unsigned negative isProduct
  have alike := negated.zero_sub
  rw [← Numeral.number_zero] at alike
  exact ⟨.node .sub (.leaf .zero) other,
    .node (.leaf Numeral.wellFormed_zero) (by decide) otherRenders isProduct, alike⟩

/-- A sign at the start of what is written can be read as a subtraction from
zero. -/
theorem zero_sub
    (renders : Renders tree tightness (.numeral written :: later))
    (negative : written.negative = true) :
    ∃ other, Renders other Operator.sub.precedence
        (.numeral .zero :: .operator .sub :: .numeral written.unsigned :: later) ∧
      Tree.Alike (tree.map Numeral.number) (other.map Numeral.number) := by
  -- A product is subtracted as a whole; of a sum, which leans to the left, the
  -- first summand is.
  refine leading_induction renders ?leaf ?node
  case leaf =>
    exact fun wellFormed => zero_sub_product (.leaf wellFormed) negative (by decide)
  case node =>
    intro op left right _ _ _ _ leftRenders leftHolds rightRenders rightHolds
    rintro ⟨other, otherRenders, alike⟩
    rcases precedence_cases op with additive | multiplicative
    · have notDivision : op ≠ .div := by
        rintro rfl
        contradiction
      have renders := Renders.node otherRenders (Nat.le_of_eq additive) rightRenders rightHolds
      rw [additive] at renders
      exact ⟨.node op other right, renders, alike.node notDivision _⟩
    · have product := Renders.node leftRenders leftHolds rightRenders rightHolds
      exact product.zero_sub_product negative (Nat.le_of_eq multiplicative.symm)

end Renders

end Keypad
