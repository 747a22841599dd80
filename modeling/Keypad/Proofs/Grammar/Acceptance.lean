import Keypad.Calculator.Lemmas
import Keypad.Calculator.Session
import Keypad.Proofs.Computation
import Keypad.Proofs.Grammar.Alternation
import Keypad.Proofs.Lexeme.Scan

/-!
Which texts with a result are expressions.

A computation looks at the turns of operands and operators only through the
depth of the machine's stack, after the tokens have been reordered.  So an
operator that is left over at one end can make up for two operands side by side
elsewhere, and nothing else goes unnoticed.

Owns: the exact condition under which a text with a result is an expression, and
the same for the entries of a calculator that shows one.

Main statement: `isExpression_iff_of_compute`.
-/

namespace Keypad

private theorem Token.isParenthesis_of_isNumber (token : Token)
    (number : token.isNumber = true) : token.isParenthesis = false := by
  cases token with
  | number value => rfl
  | _ => contradiction

private theorem Token.isParenthesis_of_isOperator (token : Token)
    (operator : token.isOperator = true) : token.isParenthesis = false := by
  cases token with
  | operator op => rfl
  | _ => contradiction

private theorem countP_reorder
    {tokens output : List Token}
    {counts : Token → Bool}
    (noParenthesis : ∀ token, counts token = true → token.isParenthesis = false)
    (reordered : Yard.reorder tokens = .ok output) :
    output.countP counts = tokens.countP counts := by
  rw [(Yard.reorder_perm reordered).countP_eq, List.countP_filter]
  apply List.countP_congr
  intro token _
  cases counted : counts token with
  | false => simp
  | true => simp [noParenthesis token counted]

namespace Calculator

def ShowsNumber (effect : Effect Display) : Prop :=
  (∃ display, effect.outcome = .ok display) ∧
    ∃ number, effect.calculator.readout = .number number

private theorem compute_of_preview
    {calculator : Calculator}
    (shows : ShowsNumber calculator.preview) :
    ∃ value, compute calculator.entry = .ok value := by
  obtain ⟨⟨display, answered⟩, number, readout⟩ := shows
  unfold preview at answered readout
  split at readout
  · rename_i balanced
    rw [if_pos balanced] at answered
    cases computed : compute calculator.entry with
    | ok value => exact ⟨value, rfl⟩
    | error fault =>
        rw [computed] at readout
        contradiction
  · contradiction

private theorem compute_of_finalize
    {calculator : Calculator}
    (shows : ShowsNumber calculator.finalize) :
    ∃ value, compute calculator.entry = .ok value := by
  obtain ⟨_, number, readout⟩ := shows
  cases computed : compute calculator.entry with
  | ok value => exact ⟨value, rfl⟩
  | error fault =>
      rw [finalize_of_error computed] at readout
      contradiction

end Calculator

/-- A text with a result is an expression exactly when no two operands stand
side by side in it.  The same holds of every entry for which a calculator shows a
number, as a preview or as a final result. -/
theorem isExpression_iff_of_compute
    {text : Text}
    (accepted :
      (∃ value, compute text = .ok value) ∨
        ∃ calculator : Calculator, calculator.entry = text ∧
          (Calculator.ShowsNumber calculator.preview ∨
            Calculator.ShowsNumber calculator.finalize)) :
    ∃ tokens, Token.ofText text = .ok tokens ∧
      (Grammar.IsExpression tokens ↔ ¬ Grammar.Juxtaposed tokens) := by
  have computes : ∃ value, compute text = .ok value := by
    rcases accepted with computes | ⟨calculator, rfl, previewed | finalized⟩
    · exact computes
    · exact Calculator.compute_of_preview previewed
    · exact Calculator.compute_of_finalize finalized
  obtain ⟨value, computed⟩ := computes
  obtain ⟨tokens, postfixed, scanned, reordered, evaluated⟩ :=
    compute_eq_ok computed
  have known := Token.isKnown_of_ofText scanned
  have counted := Machine.count_of_evaluate evaluated
  rw [countP_reorder Token.isParenthesis_of_isNumber reordered,
    countP_reorder Token.isParenthesis_of_isOperator reordered] at counted
  exact ⟨tokens, scanned, Grammar.isExpression_iff_not_juxtaposed known
    (Yard.reorder_balanced reordered) counted⟩

theorem isExpression_iff_of_compute_group :
    (∃ value, compute "8-(3)".toList = .ok value) ∧
      ∃ tokens, Token.ofText "8-(3)".toList = .ok tokens ∧
        (Grammar.IsExpression tokens ↔ ¬ Grammar.Juxtaposed tokens) := by
  have computed : compute "8-(3)".toList =
      .ok (Numeral.number ⟨false, ['5'], none⟩) :=
    eq_ok_of_toOption (by decide +kernel)
  exact ⟨⟨_, computed⟩, isExpression_iff_of_compute (.inl ⟨_, computed⟩)⟩

/-- The operator at the end goes between the two numbers in front of it, and a
calculator shows a result for an entry of that kind. -/
theorem compute_juxtaposed :
    let typed : Calculator :=
      (Calculator.new 12 none).afterAll
        [.parentheses, .submit ['1'], .submit [')'], .submit ['2'], .submit ['+']]
    typed.entry = "0*(1)2+".toList ∧
      typed.readout = .number ['2'] ∧
      typed.finalize.calculator.readout = .number ['2'] ∧
      compute typed.entry = .ok (Numeral.number ⟨false, ['2'], none⟩) ∧
      compute "(1)2+".toList = .ok (Numeral.number ⟨false, ['3'], none⟩) ∧
      ∀ text, text = typed.entry ∨ text = "(1)2+".toList →
        ∃ tokens, Token.ofText text = .ok tokens ∧
          ¬ Grammar.IsExpression tokens := by
  intro typed
  have entry : typed.entry = "0*(1)2+".toList := by decide +kernel
  refine ⟨entry, by decide +kernel, by decide +kernel,
    eq_ok_of_toOption (by decide +kernel), eq_ok_of_toOption (by decide +kernel), ?_⟩
  rintro text (rfl | rfl)
  · rw [entry]
    refine ⟨[.number (Numeral.number ⟨false, ['0'], none⟩), .operator .mul, .opening,
      .number (Numeral.number ⟨false, ['1'], none⟩), .closing,
      .number (Numeral.number ⟨false, ['2'], none⟩), .operator .add],
      eq_ok_of_toOption (by decide +kernel), ?_⟩
    intro isExpression
    exact isExpression.alternates
  · refine ⟨[.opening, .number (Numeral.number ⟨false, ['1'], none⟩), .closing,
      .number (Numeral.number ⟨false, ['2'], none⟩), .operator .add],
      eq_ok_of_toOption (by decide +kernel), ?_⟩
    intro isExpression
    exact isExpression.alternates

end Keypad
