import Keypad.Proofs.CommandLine.Check
import Keypad.Proofs.Entry.LeadingZeros
import Keypad.Proofs.Grammar.Rendered
import Keypad.Proofs.Rendering.LeadingSign

/-!
Typing an expression and evaluating it.

What is typed differs from its text at the start only: leading zeros vanish, and
a zero comes in front of a leading minus, which turns the sign of a literal into
a subtraction.  Neither changes the result.  Only a point that follows nothing
but zeros is left alone, and then nothing is computed.

Owns:
- what an expression that can be typed starts with;
- the result of the entry that it leads to.

Main statement: `CommandLine.compute_typed`.
-/

namespace Keypad

private theorem computeTokens_of_renders
    {tree : Tree Numeral}
    {tightness : Nat}
    {lexemes : List Lexeme}
    (renders : Renders tree tightness lexemes) :
    computeTokens (lexemes.map Lexeme.token) = (tree.map Numeral.number).result := by
  rw [computeTokens, Yard.reorder_of_renders renders]
  exact Machine.evaluate_postorder _

namespace Entry

open Lexeme

/-- An expression with a result that can be typed starts with a number: no
operator follows the zero of an empty keypad but the minus, which is a sign at
the start, and no parenthesis opens behind a number. -/
theorem exists_numeral_of_typeable
    {lexemes : List Lexeme}
    {value : Binary64}
    (typeable : Typeable (spelling lexemes))
    (admissible : Admissible lexemes)
    (computed : computeTokens (lexemes.map token) = .ok value) :
    ∃ written later, lexemes = .numeral written :: later := by
  cases lexemes with
  | nil => contradiction
  | cons lexeme later =>
      cases lexeme with
      | numeral written => exact ⟨written, later, rfl⟩
      | operator op =>
          have notNumber : isNumberKey op.symbol = false := by
            cases op <;> rfl
          have entry := normalForm_cons_of_not_number (spelling later) notNumber
          have minus := typeable.keepsInitial op.symbol (spelling later) entry
            (Operator.isSymbol_symbol op)
          have isSub : op.symbol = '-' ↔ op = .sub := by
            cases op <;> decide
          exact absurd signMayFollow_none (admissible.1 (isSub.mp minus))
      | opening =>
          have notNumber : isNumberKey '(' = false := by decide
          have entry := normalForm_cons_of_not_number (spelling later) notNumber
          have clashes := typeable.clashFree [] '0' '(' (spelling later) entry
          contradiction
      | closing => contradiction

section Start

variable {written : Numeral} {later : List Lexeme}

private theorem compute_normalForm_of_unsigned
    (admissible : Admissible (.numeral written :: later))
    (positive : written.negative = false)
    (noBarePoint : ¬ BarePoint (normalForm (spelling (.numeral written :: later)))) :
    compute (normalForm (spelling (.numeral written :: later))) =
      computeTokens ((Lexeme.numeral written :: later).map token) := by
  have ends := admissible.2.endsAt
  have entry : normalForm (spelling (.numeral written :: later)) =
      written.withoutZeros.text ++ spelling later :=
    normalForm_numeral admissible.1.1 positive ends
  rw [entry] at noBarePoint ⊢
  by_cases hasDigit : written.withoutZeros.HasDigit
  · have computed := compute_spelling (admissible.withoutZeros hasDigit)
    rw [List.map_cons, token, Numeral.number_withoutZeros] at computed
    exact computed
  · rw [Numeral.text_of_not_hasDigit positive hasDigit] at noBarePoint
    exact absurd ⟨spelling later, rfl, fun next head => (ends next head).1⟩ noBarePoint

private theorem compute_normalForm_of_signed
    (admissible : Admissible (.numeral written :: later))
    (negative : written.negative = true)
    (isExpression : Grammar.IsExpression ((Lexeme.numeral written :: later).map token)) :
    compute (normalForm (spelling (.numeral written :: later))) =
      computeTokens ((Lexeme.numeral written :: later).map token) := by
  obtain ⟨tree, tightness, _, renders⟩ :=
    isExpression.rendered rfl admissible.numeralsFormed
  obtain ⟨other, otherRenders, alike⟩ := renders.zero_sub negative
  have entry : normalForm (spelling (.numeral written :: later)) =
      spelling (.numeral .zero :: .operator .sub :: .numeral written.unsigned :: later) := by
    rw [spelling_cons, Lexeme.text, Numeral.text_of_negative negative]
    exact normalForm_cons_of_not_number _ rfl
  rw [entry, compute_spelling otherRenders.admissible,
    computeTokens_of_renders otherRenders, computeTokens_of_renders renders, alike.result]

end Start

end Entry

namespace CommandLine

open Calculator Entry

/-- At a usable precision everything that can be typed is accepted. -/
private theorem exists_accepted
    {precision : Int}
    (text entry : Text)
    (usable : Usable precision)
    (typing : type? Entry.initial (Text.squeeze text) = some entry) :
    ∃ calculator, typeVisible 0 (new precision none) text = .accepted calculator ∧
      calculator.entry = entry := by
  obtain ⟨typeable, isEntry⟩ := type?_eq_some_iff.mp typing
  rcases typeVisible_of_typeable precision typeable with
    ⟨calculator, accepted, isNormal, _⟩ | ⟨unusable, _⟩
  · exact ⟨calculator, accepted, isNormal.trans isEntry.symm⟩
  · contradiction

/-- An expression that a check accepts and that has a result has the same result
once it is typed, provided that it obeys the grammar if it starts with a sign.
Only an entry that starts with a point and no digit behind it has none, because
of that point. -/
theorem compute_typed
    {expression : Text}
    {precision : Int}
    {calculator : Calculator}
    {value : Binary64}
    (accepted : typeVisible 0 (new precision none) (Text.plain expression) =
      .accepted calculator)
    (computed : compute expression = .ok value) :
    (BarePoint calculator.entry →
        compute calculator.entry = .error (.invalidNumber ['.'] 0)) ∧
      (¬ BarePoint calculator.entry →
        ((Text.squeeze (Text.plain expression)).head? = some '-' →
          ∀ tokens, Token.ofText expression = .ok tokens → Grammar.IsExpression tokens) →
        compute calculator.entry = .ok value) := by
  obtain ⟨typeable, entry⟩ := typeVisible_eq_accepted accepted
  refine ⟨?_, ?_⟩
  · rw [entry]
    exact compute_of_barePoint typeable.wellKept
  · intro noBarePoint grammar
    obtain ⟨tokens, _, read, _, _⟩ := compute_eq_ok computed
    obtain ⟨lexemes, spells, admissible, rfl⟩ := Token.ofText_eq_ok_iff_spells.mp read
    rw [compute_of_ofText read] at computed
    rw [Lexeme.Spells] at spells
    rw [spells] at typeable entry grammar
    rw [entry] at noBarePoint ⊢
    obtain ⟨written, later, rfl⟩ := exists_numeral_of_typeable typeable admissible computed
    rw [← computed]
    cases sign : written.negative with
    | false => exact compute_normalForm_of_unsigned admissible sign noBarePoint
    | true =>
        have signed : (Lexeme.spelling (.numeral written :: later)).head? = some '-' := by
          rw [Lexeme.spelling_cons, Lexeme.text, Numeral.text_of_negative sign]
          rfl
        exact compute_normalForm_of_signed admissible sign (grammar signed _ read)

theorem compute_typed_signed :
    let expression : Text := "−007.50 × 2 % 4 − 1".toList
    let result : Binary64 := Numeral.number ⟨true, ['4'], none⟩
    ∃ calculator,
      typeVisible 0 (new 12 none) (Text.plain expression) = .accepted calculator ∧
        calculator.entry = "0-007.50*2%4-1".toList ∧
        compute expression = .ok result ∧
        compute calculator.entry = .ok result := by
  intro expression result
  let seven : Binary64 := Numeral.number ⟨true, "007".toList, some "50".toList⟩
  let two : Binary64 := Numeral.number ⟨false, ['2'], none⟩
  let four : Binary64 := Numeral.number ⟨false, ['4'], none⟩
  let one : Binary64 := Numeral.number ⟨false, ['1'], none⟩
  have usable : Usable 12 := ⟨by decide, by decide⟩
  obtain ⟨calculator, accepted, entry⟩ := exists_accepted (Text.plain expression)
    "0-007.50*2%4-1".toList usable (by decide +kernel)
  have computed : compute expression = .ok result := eq_ok_of_toOption (by decide +kernel)
  have noBarePoint : ¬ BarePoint calculator.entry := by
    rw [entry]
    rintro ⟨rest, starts, _⟩
    have first := congrArg List.head? starts
    rw [List.head?_cons] at first
    exact absurd first (by decide)
  have grammar : ∀ tokens, Token.ofText expression = .ok tokens →
      Grammar.IsExpression tokens := by
    intro tokens read
    have known : Token.ofText expression =
        .ok ([.number seven, .operator .mul, .number two, .operator .rem, .number four] ++
          .operator .sub :: [.number one]) :=
      eq_ok_of_toOption (by decide +kernel)
    obtain rfl := Except.ok.inj (known.symm.trans read)
    have product : Grammar.IsTerm ([.number seven] ++ .operator .mul :: [.number two]) :=
      .product (.factor (.number seven)) rfl (.number two)
    exact .sum (.term (.product product rfl (.number four))) rfl (.factor (.number one))
  exact ⟨calculator, accepted, entry, computed,
    (compute_typed accepted computed).2 noBarePoint fun _ => grammar⟩

/-- A point takes the place of the zero in front of it; and behind a leading sign,
operands that stand side by side can be taken by other operators. -/
theorem typing_changes_result :
    (∃ calculator,
      typeVisible 0 (new 12 none) "0.".toList = .accepted calculator ∧
        compute "0.".toList = .ok .zero ∧
        compute calculator.entry = .error (.invalidNumber ['.'] 0)) ∧
      ∃ calculator,
        typeVisible 0 (new 12 none) "-1*(2)3-".toList = .accepted calculator ∧
          compute "-1*(2)3-".toList = .ok (Numeral.number ⟨true, ['7'], none⟩) ∧
          compute calculator.entry = .ok (Numeral.number ⟨false, ['5'], none⟩) := by
  have usable : Usable 12 := ⟨by decide, by decide⟩
  obtain ⟨bare, bareAccepted, bareEntry⟩ := exists_accepted "0.".toList ".".toList
    usable (by decide +kernel)
  obtain ⟨signed, signedAccepted, signedEntry⟩ := exists_accepted "-1*(2)3-".toList
    "0-1*(2)3-".toList usable (by decide +kernel)
  refine ⟨⟨bare, bareAccepted, eq_ok_of_toOption (by decide +kernel), ?_⟩,
    signed, signedAccepted, eq_ok_of_toOption (by decide +kernel), ?_⟩
  · rw [bareEntry]
    exact compute_of_barePoint (WellKept.of_numberKey rfl) ⟨[], rfl, by simp⟩
  · rw [signedEntry]
    exact eq_ok_of_toOption (by decide +kernel)

end CommandLine

end Keypad
