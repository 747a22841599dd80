import Keypad.Computation
import Keypad.Proofs.Lexeme.Spelling
import Keypad.Proofs.Postorder.Conservation

/-!
The stages of a computation that succeeds.

Owns:
- the tokens, the post-order and the evaluation behind a result;
- what is true of every result;
- the result of a numeral.
-/

namespace Keypad

theorem compute_of_ofText
    {text : Text}
    {tokens : List Token}
    (read : Token.ofText text = .ok tokens) :
    compute text = computeTokens tokens := by
  rw [compute, read]
  rfl

/-- The stages of a computation that succeeds. -/
theorem compute_eq_ok
    {text : Text}
    {value : Binary64}
    (computed : compute text = .ok value) :
    ∃ tokens postfixed, Token.ofText text = .ok tokens ∧
      Yard.reorder tokens = .ok postfixed ∧
      Machine.evaluate postfixed = .ok value := by
  obtain ⟨tokens, scanned, processed⟩ := ok_of_bind computed
  obtain ⟨postfixed, reordered, evaluated⟩ := ok_of_bind processed
  exact ⟨tokens, postfixed, scanned, reordered, evaluated⟩

theorem isFinite_of_compute
    {text : Text}
    {value : Binary64}
    (computed : compute text = .ok value) :
    value.isFinite = true := by
  obtain ⟨_, _, _, _, evaluated⟩ := compute_eq_ok computed
  obtain ⟨last, _, finite, rfl⟩ := Machine.evaluate_eq_ok evaluated
  rw [Binary64.isFinite_unsignZero]
  exact finite

/-- An admissible list of lexemes, written side by side, is computed as its tokens
are. -/
theorem compute_spelling
    {lexemes : List Lexeme}
    (admissible : Lexeme.Admissible lexemes) :
    compute (Lexeme.spelling lexemes) = computeTokens (lexemes.map Lexeme.token) :=
  compute_of_ofText (Token.ofText_eq_ok_iff_spells.mpr
    ⟨lexemes, Lexeme.spells_spelling admissible, admissible, rfl⟩)

private theorem computeTokens_number (value : Binary64) :
    computeTokens [.number value] = reportValue value :=
  rfl

namespace Numeral

def zero : Numeral :=
  ⟨false, ['0'], none⟩

theorem wellFormed_zero : zero.WellFormed :=
  ⟨List.all_eq_true.mp rfl, List.all_eq_true.mp rfl, by decide⟩

theorem number_zero : zero.number = Binary64.zero :=
  Binary64.ofDecimal_zero false 0

end Numeral

theorem compute_numeral
    {written : Numeral}
    (wellFormed : written.WellFormed) :
    compute written.text = reportValue written.number := by
  have admissible : Lexeme.Admissible [.numeral written] :=
    ⟨⟨wellFormed, fun _ => rfl, trivial⟩, trivial⟩
  have computed := compute_spelling admissible
  rw [Lexeme.spelling_cons, Lexeme.spelling_nil, List.append_nil] at computed
  exact computed.trans (computeTokens_number written.number)

end Keypad
