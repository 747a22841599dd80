import Keypad.Grammar
import Keypad.Proofs.Postorder.Conservation

/-!
Expressions recognised by their neighbours.

A list of tokens is an expression exactly when its parentheses are balanced and
operands take turns with operators.  Taking turns follows from a count: without
two operands side by side there are at least as many operators as gaps between
numbers, so a list with one operator less than numbers has no other place for
one.

Owns:
- operands that stand side by side, and lists in which turns are taken;
- the step from a count to turns, and from turns to the grammar.

Main statement: `isExpression_iff_not_juxtaposed`.
-/

namespace Keypad

namespace Token

def startsOperand : Token → Bool
  | .number _ => true
  | .opening => true
  | _ => false

def endsOperand : Token → Bool
  | .number _ => true
  | .closing => true
  | _ => false

end Token

namespace Grammar

/-- Two operands stand side by side, with no operator between them. -/
def Juxtaposed (tokens : List Token) : Prop :=
  ∃ front left right back,
    tokens = front ++ left :: right :: back ∧
      left.endsOperand = true ∧ right.startsOperand = true

/-- Operands and operators take turns, from a place where an operand is awaited
or from one behind an operand, and the list ends in an operand. -/
def Alternates : Bool → List Token → Prop
  | true, .number _ :: later => Alternates false later
  | true, .opening :: later => Alternates true later
  | false, .operator _ :: later => Alternates true later
  | false, .closing :: later => Alternates false later
  | false, [] => True
  | _, _ => False

/-! ## From a count to turns -/

private theorem not_juxtaposed_tail
    {token : Token}
    {later : List Token}
    (apart : ¬ Juxtaposed (token :: later)) :
    ¬ Juxtaposed later ∧
      (token.endsOperand = true →
        ∀ next, later.head? = some next → next.startsOperand = false) := by
  constructor
  · rintro ⟨front, left, right, back, rfl, ends, starts⟩
    exact apart ⟨token :: front, left, right, back, rfl, ends, starts⟩
  · intro ends next head
    cases later with
    | nil => contradiction
    | cons first back =>
        cases head
        rw [← Bool.not_eq_true]
        intro starts
        exact apart ⟨[], token, next, back, rfl, ends, starts⟩

/-- Without operands side by side there are operators enough to keep all numbers
apart, and if there are no more than that, turns are taken. -/
private theorem alternates_of_count
    {tokens : List Token}
    {awaitsOperand : Bool}
    (known : ∀ token ∈ tokens, token.isKnown = true)
    (apart : ¬ Juxtaposed tokens)
    (headApart : awaitsOperand = false →
      ∀ next, tokens.head? = some next → next.startsOperand = false) :
    tokens.countP Token.isNumber + (if awaitsOperand then 0 else 1) ≤
        tokens.countP Token.isOperator + 1 ∧
      (tokens.countP Token.isNumber + (if awaitsOperand then 0 else 1) =
          tokens.countP Token.isOperator + 1 →
        Alternates awaitsOperand tokens) := by
  induction tokens generalizing awaitsOperand with
  | nil => cases awaitsOperand <;> simp [Alternates]
  | cons token later inductionHypothesis =>
      obtain ⟨laterApart, behind⟩ := not_juxtaposed_tail apart
      have laterKnown : ∀ each ∈ later, each.isKnown = true :=
        fun each member => known each (List.mem_cons_of_mem token member)
      have tokenKnown := known token (by simp)
      have counted := @inductionHypothesis (!token.endsOperand) laterKnown
        laterApart (by simpa using behind)
      rw [List.countP_cons, List.countP_cons]
      -- An operator where an operand is awaited, or the end of a group there,
      -- leaves the count short for good.
      cases token with
      | number value =>
          cases awaitsOperand with
          | true =>
              simp only [Token.isNumber, Token.isOperator, Token.endsOperand] at *
              exact ⟨counted.1, counted.2⟩
          | false => simpa [Token.startsOperand] using headApart rfl _ rfl
      | opening =>
          cases awaitsOperand with
          | true =>
              simp only [Token.isNumber, Token.isOperator, Token.endsOperand] at *
              exact ⟨counted.1, counted.2⟩
          | false => simpa [Token.startsOperand] using headApart rfl _ rfl
      | operator op =>
          simp only [Token.isNumber, Token.isOperator, Token.endsOperand] at *
          cases awaitsOperand with
          | true =>
              have short := counted.1
              simp at short ⊢
              omega
          | false =>
              refine ⟨by simpa using counted.1, fun equal => counted.2 ?_⟩
              simpa using equal
      | closing =>
          simp only [Token.isNumber, Token.isOperator, Token.endsOperand] at *
          cases awaitsOperand with
          | true =>
              have short := counted.1
              simp at short ⊢
              omega
          | false => exact ⟨counted.1, counted.2⟩
      | strangeOperator symbol => contradiction
      | strangeParenthesis symbol => contradiction

/-! ## From turns to the grammar -/

/-- The tokens of a group, or of the whole list, up to a place where an operand
is awaited. -/
inductive Dangling : List Token → Prop where
  | nil : Dangling []
  | sum {left : List Token} {op : Operator}
      (isExpression : IsExpression left)
      (additive : op.precedence = 1) :
      Dangling (left ++ [.operator op])
  | product {left : List Token} {op : Operator}
      (isTerm : IsTerm left)
      (multiplicative : op.precedence = 2) :
      Dangling (left ++ [.operator op])
  | sumProduct {left middle : List Token} {first second : Operator}
      (isExpression : IsExpression left)
      (additive : first.precedence = 1)
      (isTerm : IsTerm middle)
      (multiplicative : second.precedence = 2) :
      Dangling (left ++ .operator first :: middle ++ [.operator second])

/-- The awaited operand completes an expression. -/
theorem Dangling.append_factor
    {front operand : List Token}
    (dangling : Dangling front)
    (isFactor : IsFactor operand) :
    IsExpression (front ++ operand) := by
  cases dangling with
  | nil => exact isFactor.isExpression
  | sum isExpression additive =>
      rw [List.append_assoc]
      exact .sum isExpression additive (.factor isFactor)
  | product isTerm multiplicative =>
      rw [List.append_assoc]
      exact .term (.product isTerm multiplicative isFactor)
  | sumProduct isExpression additive isTerm multiplicative =>
      rw [List.append_assoc, List.append_assoc]
      exact .sum isExpression additive (.product isTerm multiplicative isFactor)

/-- Behind an expression an operator awaits its right operand. -/
theorem IsExpression.append_operator
    {tokens : List Token}
    (isExpression : IsExpression tokens)
    (op : Operator) :
    Dangling (tokens ++ [.operator op]) := by
  have additive_or : op.precedence = 1 ∨ op.precedence = 2 := by
    cases op <;> decide
  rcases additive_or with additive | multiplicative
  · exact .sum isExpression additive
  · cases isExpression with
    | term isTerm => exact .product isTerm multiplicative
    | sum isExpression additive isTerm =>
        exact .sumProduct isExpression additive isTerm multiplicative

/-- The tokens read so far: those of the open groups, the innermost first, each
up to the parenthesis that opens the next, and those of the current group. -/
def readSoFar : List (List Token) → List Token → List Token
  | [], current => current
  | level :: outer, current => readSoFar outer (level ++ .opening :: current)

private theorem readSoFar_append
    (outer : List (List Token))
    (current more : List Token) :
    readSoFar outer (current ++ more) = readSoFar outer current ++ more := by
  induction outer generalizing current with
  | nil => rfl
  | cons level outer inductionHypothesis =>
      rw [readSoFar, readSoFar, ← inductionHypothesis, List.append_assoc,
        List.cons_append]

/-- Turns in the rest of a list complete what was read so far to an expression,
if the rest closes the groups that are open. -/
theorem isExpression_of_alternates
    {tokens current : List Token}
    {outer : List (List Token)}
    {awaitsOperand : Bool}
    (alternates : Alternates awaitsOperand tokens)
    (outerDangling : ∀ level ∈ outer, Dangling level)
    (awaits : awaitsOperand = true → Dangling current)
    (complete : awaitsOperand = false → IsExpression current)
    (neverUnderflows : ∀ front back, tokens = front ++ back →
      Nesting.closings front ≤ Nesting.openings front + outer.length)
    (settled :
      Nesting.closings tokens = Nesting.openings tokens + outer.length) :
    IsExpression (readSoFar outer current ++ tokens) := by
  induction tokens generalizing current outer awaitsOperand with
  | nil =>
      cases awaitsOperand with
      | true => contradiction
      | false =>
          have noOuter : outer = [] := by
            rw [← List.length_eq_zero_iff]
            simpa [Nesting.closings, Nesting.openings] using settled.symm
          rw [noOuter, List.append_nil]
          exact complete rfl
  | cons token later inductionHypothesis =>
      have laterUnderflows (front back : List Token) (split : later = front ++ back) :
          Nesting.closings (token :: front) ≤
            Nesting.openings (token :: front) + outer.length :=
        neverUnderflows (token :: front) back (by rw [split, List.cons_append])
      simp only [Nesting.closings, Nesting.openings, List.countP_cons]
        at settled laterUnderflows inductionHypothesis
      have moved (levels : List (List Token)) (front : List Token) :
          readSoFar levels front ++ token :: later =
            readSoFar levels (front ++ [token]) ++ later := by
        rw [readSoFar_append, List.append_assoc, List.singleton_append]
      cases token with
      | number value =>
          cases awaitsOperand with
          | false => contradiction
          | true =>
              have operand := (awaits rfl).append_factor (.number value)
              rw [moved]
              exact inductionHypothesis alternates outerDangling (by simp)
                (fun _ => operand) laterUnderflows settled
      | opening =>
          cases awaitsOperand with
          | false => contradiction
          | true =>
              have levelsDangling : ∀ level ∈ current :: outer, Dangling level := by
                intro level member
                rcases List.mem_cons.mp member with rfl | inOuter
                · exact awaits rfl
                · exact outerDangling level inOuter
              rw [moved]
              show IsExpression (readSoFar (current :: outer) [] ++ later)
              refine inductionHypothesis alternates levelsDangling
                (fun _ => .nil) (by simp) ?_ ?_
              · intro front back split
                have bound := laterUnderflows front back split
                simp [Nesting.closes, Nesting.opens, Token.isParenthesis] at bound ⊢
                omega
              · simp [Nesting.closes, Nesting.opens, Token.isParenthesis]
                  at settled ⊢
                omega
      | operator op =>
          cases awaitsOperand with
          | true => contradiction
          | false =>
              have dangling := (complete rfl).append_operator op
              rw [moved]
              exact inductionHypothesis alternates outerDangling
                (fun _ => dangling) (by simp) laterUnderflows settled
      | closing =>
          cases awaitsOperand with
          | true => contradiction
          | false =>
              cases outer with
              | nil =>
                  have bound := laterUnderflows [] later rfl
                  simp [Nesting.closes, Nesting.opens, Token.isParenthesis] at bound
              | cons level outer =>
                  have group := (outerDangling level (by simp)).append_factor
                    (.group (complete rfl))
                  rw [readSoFar, moved, List.append_assoc]
                  refine inductionHypothesis alternates
                    (fun each member => outerDangling each (by simp [member]))
                    (by simp) (fun _ => group) ?_ ?_
                  · intro front back split
                    have bound := laterUnderflows front back split
                    simp [Nesting.closes, Nesting.opens, Token.isParenthesis]
                      at bound ⊢
                    omega
                  · simp [Nesting.closes, Nesting.opens, Token.isParenthesis]
                      at settled ⊢
                    omega
      | strangeOperator symbol => cases awaitsOperand <;> contradiction
      | strangeParenthesis symbol => cases awaitsOperand <;> contradiction

/-! ## From the grammar to turns -/

private theorem Alternates.append
    {front back : List Token}
    {awaitsOperand : Bool}
    (first : Alternates awaitsOperand front)
    (second : Alternates false back) :
    Alternates awaitsOperand (front ++ back) := by
  induction front generalizing awaitsOperand with
  | nil =>
      cases awaitsOperand with
      | true => contradiction
      | false => exact second
  | cons token later inductionHypothesis =>
      cases awaitsOperand <;> cases token <;>
        first
        | exact inductionHypothesis first
        | contradiction

mutual

theorem IsExpression.alternates {tokens : List Token} :
    IsExpression tokens → Alternates true tokens
  | .term isTerm => isTerm.alternates
  | .sum isExpression _ isTerm => isExpression.alternates.append isTerm.alternates

theorem IsTerm.alternates {tokens : List Token} :
    IsTerm tokens → Alternates true tokens
  | .factor isFactor => isFactor.alternates
  | .product isTerm _ isFactor => isTerm.alternates.append isFactor.alternates

theorem IsFactor.alternates {tokens : List Token} :
    IsFactor tokens → Alternates true tokens
  | .number _ => trivial
  | .group isExpression => isExpression.alternates.append trivial

end

private theorem Alternates.not_juxtaposed
    {tokens : List Token}
    {awaitsOperand : Bool}
    (alternates : Alternates awaitsOperand tokens) :
    ¬ Juxtaposed tokens := by
  rintro ⟨front, left, right, back, rfl, ends, starts⟩
  induction front generalizing awaitsOperand with
  | nil =>
      cases awaitsOperand <;> cases left <;> cases right <;>
        contradiction
  | cons token later inductionHypothesis =>
      cases awaitsOperand <;> cases token <;>
        first
        | exact inductionHypothesis alternates
        | contradiction

/-- A balanced list with one operator less than numbers is an expression unless
two operands stand side by side. -/
theorem isExpression_iff_not_juxtaposed
    {tokens : List Token}
    (known : ∀ token ∈ tokens, token.isKnown = true)
    (balanced : Nesting.Balanced tokens)
    (counted :
      tokens.countP Token.isNumber = tokens.countP Token.isOperator + 1) :
    IsExpression tokens ↔ ¬ Juxtaposed tokens := by
  constructor
  · intro isExpression
    exact isExpression.alternates.not_juxtaposed
  · intro apart
    have alternates : Alternates true tokens :=
      (alternates_of_count known apart (by simp)).2 (by simpa using counted)
    have expression : IsExpression (readSoFar [] [] ++ tokens) :=
      isExpression_of_alternates alternates (by simp) (fun _ => .nil) (by simp)
        balanced.neverUnderflows balanced.settled
    exact expression

end Grammar

end Keypad
