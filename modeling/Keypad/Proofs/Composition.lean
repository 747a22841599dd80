import Keypad.Proofs.Binary64.SignOfZero
import Keypad.Proofs.Computation
import Keypad.Proofs.Lexeme.Scan
import Keypad.Proofs.Postorder.Group
import Keypad.Proofs.Tree.Outcome

/-!
Computing texts that are put together from others.

A text with a result keeps it in parentheses, and two such groups with an
operator in between have the result of the operator on theirs.  Nothing is asked
of the texts but that they have results.

Owns:
- the lexemes of a group, and of two groups joined by an operator;
- their results.

Main statement: `compute_joined_groups`.
-/

namespace Keypad

namespace Lexeme

/-! ## Lexemes of groups -/

private theorem Spells.append
    {front back : Text}
    {frontLexemes backLexemes : List Lexeme}
    (frontSpells : Spells front frontLexemes)
    (backSpells : Spells back backLexemes) :
    Spells (front ++ back) (frontLexemes ++ backLexemes) := by
  unfold Spells at *
  rw [Text.plain_append, Text.squeeze_append, frontSpells, backSpells,
    spelling_append]

/-- What may start a list may follow whatever a sign may follow. -/
theorem AdmissibleAfter.of_signed
    {previous : Option Lexeme}
    {lexemes : List Lexeme}
    (admissible : Admissible lexemes)
    (signed : signMayFollow previous = true) :
    AdmissibleAfter previous lexemes := by
  cases lexemes with
  | nil => trivial
  | cons lexeme later =>
      refine ⟨?_, admissible.2⟩
      have starts := admissible.1
      cases lexeme with
      | numeral written =>
          refine ⟨starts.1, fun _ => signed, ?_⟩
          unfold splitsAfter
          split
          · contradiction
          · trivial
      | operator op => exact fun isSub => absurd rfl (starts isSub)
      | opening => trivial
      | closing => trivial

private theorem AdmissibleAfter.append_closing
    {previous : Option Lexeme}
    {front later : List Lexeme}
    (admissible : AdmissibleAfter previous front)
    (laterAdmissible : AdmissibleAfter (some .closing) later) :
    AdmissibleAfter previous (front ++ .closing :: later) := by
  induction front generalizing previous with
  | nil => exact ⟨trivial, laterAdmissible⟩
  | cons lexeme front inductionHypothesis =>
      exact ⟨admissible.1, inductionHypothesis admissible.2⟩

private theorem admissibleAfter_group
    {previous : Option Lexeme}
    {lexemes later : List Lexeme}
    (admissible : Admissible lexemes)
    (laterAdmissible : AdmissibleAfter (some .closing) later) :
    AdmissibleAfter previous (.opening :: lexemes ++ .closing :: later) :=
  ⟨trivial, (AdmissibleAfter.of_signed admissible rfl).append_closing laterAdmissible⟩

private theorem spells_group
    {source : Text}
    {lexemes : List Lexeme}
    (spells : Spells source lexemes) :
    Spells ('(' :: source ++ [')']) (.opening :: lexemes ++ [.closing]) := by
  have opening : Spells ['('] [.opening] := by decide
  have closing : Spells [')'] [.closing] := by decide
  exact (opening.append spells).append closing

end Lexeme

namespace Token

private theorem ofText_group
    {source : Text}
    {tokens : List Token}
    (read : ofText source = .ok tokens) :
    ofText ('(' :: source ++ [')']) = .ok (.opening :: tokens ++ [.closing]) := by
  obtain ⟨lexemes, spells, admissible, rfl⟩ := ofText_eq_ok_iff_spells.mp read
  refine ofText_eq_ok_iff_spells.mpr
    ⟨.opening :: lexemes ++ [.closing], Lexeme.spells_group spells, ?_,
      by simp [Lexeme.token]⟩
  exact Lexeme.admissibleAfter_group admissible trivial

private theorem ofText_joined_groups
    {left right : Text}
    {leftTokens rightTokens : List Token}
    (leftRead : ofText left = .ok leftTokens)
    (rightRead : ofText right = .ok rightTokens)
    (op : Operator) :
    ofText (('(' :: left ++ [')']) ++ op.symbol :: ('(' :: right ++ [')'])) =
      .ok ((.opening :: leftTokens ++ [.closing]) ++
        .operator op :: (.opening :: rightTokens ++ [.closing])) := by
  obtain ⟨leftLexemes, leftSpells, leftAdmissible, rfl⟩ :=
    ofText_eq_ok_iff_spells.mp leftRead
  obtain ⟨rightLexemes, rightSpells, rightAdmissible, rfl⟩ :=
    ofText_eq_ok_iff_spells.mp rightRead
  refine ofText_eq_ok_iff_spells.mpr
    ⟨(.opening :: leftLexemes ++ [.closing]) ++
      .operator op :: (.opening :: rightLexemes ++ [.closing]), ?_, ?_,
      by simp [Lexeme.token]⟩
  · have symbol : Lexeme.Spells [op.symbol] [.operator op] := by
      cases op <;> decide
    apply (Lexeme.spells_group leftSpells).append
    exact symbol.append (Lexeme.spells_group rightSpells)
  · have rightGroup : Lexeme.AdmissibleAfter (some (.operator op))
        (.opening :: rightLexemes ++ [.closing]) :=
      Lexeme.admissibleAfter_group rightAdmissible trivial
    rw [List.append_assoc]
    apply Lexeme.admissibleAfter_group leftAdmissible
    -- Behind a parenthesis a hyphen is no sign.
    exact ⟨fun _ => Bool.false_ne_true, rightGroup⟩

end Token

/-! ## Results of groups -/

theorem reportValue_unsignZero (value : Binary64) :
    reportValue value.unsignZero = reportValue value := by
  cases isZero : value.isZero with
  | false => rw [Binary64.unsignZero_of_not_isZero isZero]
  | true =>
      obtain ⟨negative, rfl⟩ := Binary64.eq_signedZero_of_isZero isZero
      rw [Binary64.unsignZero_signedZero]
      exact congrArg Except.ok (Binary64.unsignZero_signedZero negative).symm

/-- What is reported for an operation does not depend on the signs of zeros. -/
theorem reportValue_applyOperator (op : Operator) (left right : Binary64) :
    (applyOperator op left right >>= reportValue) =
      if op = .div ∧ right.unsignZero.isZero = true then .error .divisionByZero
      else reportValue (op.result left.unsignZero right.unsignZero) := by
  rw [Tree.applyOperator_eq, Binary64.isZero_unsignZero]
  by_cases divides : op = .div ∧ right.isZero = true
  · rw [if_pos divides, if_pos divides]
    rfl
  · rw [if_neg divides, if_neg divides, ← reportValue_unsignZero (op.result _ _),
      Operator.unsignZero_result divides]
    exact (reportValue_unsignZero _).symm

/-- The stages behind a result, down to the number that the machine leaves
before the sign of a zero is dropped. -/
theorem compute_eq_ok_unreported
    {text : Text}
    {value : Binary64}
    (computed : compute text = .ok value) :
    ∃ tokens postfixed last, Token.ofText text = .ok tokens ∧
      Yard.reorder tokens = .ok postfixed ∧
      Machine.run [] postfixed = .ok [last] ∧
      last.isFinite = true ∧ value = last.unsignZero := by
  obtain ⟨tokens, postfixed, read, reordered, evaluated⟩ := compute_eq_ok computed
  obtain ⟨last, ran, finite, isValue⟩ := Machine.evaluate_eq_ok evaluated
  exact ⟨tokens, postfixed, last, read, reordered, ran, finite, isValue⟩

private theorem compute_group
    {text : Text}
    {value : Binary64}
    (computed : compute text = .ok value) :
    compute ('(' :: text ++ [')']) = .ok value := by
  obtain ⟨tokens, postfixed, read, reordered, evaluated⟩ := compute_eq_ok computed
  rw [compute_of_ofText (Token.ofText_group read), computeTokens,
    Yard.reorder_group reordered]
  exact evaluated

/-- The result of a text in parentheses is its own, and the result of two texts
in parentheses with an operator in between is the operator's on their results:
no result where a zero is divided by or where the value is not finite, and zero
without its sign. -/
theorem compute_joined_groups
    {left right : Text}
    {leftValue rightValue : Binary64}
    (leftComputed : compute left = .ok leftValue)
    (rightComputed : compute right = .ok rightValue)
    (op : Operator) :
    compute ('(' :: left ++ [')']) = .ok leftValue ∧
      compute (('(' :: left ++ [')']) ++ op.symbol :: ('(' :: right ++ [')'])) =
        if op = .div ∧ rightValue.isZero = true then .error .divisionByZero
        else if (op.result leftValue rightValue).isFinite then
          .ok (op.result leftValue rightValue).unsignZero
        else .error (.invalidResult (op.result leftValue rightValue)) := by
  refine ⟨compute_group leftComputed, ?_⟩
  obtain ⟨leftTokens, leftOutput, leftLast, leftRead, leftReordered, leftRan, _, rfl⟩ :=
    compute_eq_ok_unreported leftComputed
  obtain ⟨rightTokens, rightOutput, rightLast, rightRead, rightReordered, rightRan, _,
    rfl⟩ := compute_eq_ok_unreported rightComputed
  rw [compute_of_ofText (Token.ofText_joined_groups leftRead rightRead op),
    computeTokens, Yard.reorder_joined_groups leftReordered rightReordered op]
  show Machine.run [] _ >>= Machine.conclude = _
  rw [Machine.run_joined leftRan rightRan op]
  refine Eq.trans ?_ (reportValue_applyOperator op leftLast rightLast)
  cases applyOperator op leftLast rightLast <;> rfl

/-- The left text has a result although it is no expression, and the right one
starts with a sign. -/
theorem compute_joined_groups_quotient :
    let three : Binary64 := Numeral.number ⟨false, ['3'], none⟩
    let minusFour : Binary64 := Numeral.number ⟨true, ['4'], none⟩
    compute "(1)2+".toList = .ok three ∧
      compute "−4".toList = .ok minusFour ∧
      compute "((1)2+)".toList = .ok three ∧
      compute "((1)2+)/(−4)".toList =
        .ok (Numeral.number ⟨true, ['0'], some ['7', '5']⟩) := by
  intro three minusFour
  have left : compute "(1)2+".toList = .ok three :=
    eq_ok_of_toOption (by decide +kernel)
  have right : compute "−4".toList = .ok minusFour :=
    eq_ok_of_toOption (by decide +kernel)
  have joined := compute_joined_groups left right .div
  have divides : ¬ (Operator.div = .div ∧ minusFour.isZero = true) := by
    decide +kernel
  have finite : (Operator.div.result three minusFour).isFinite = true := by
    decide +kernel
  have value : (Operator.div.result three minusFour).unsignZero =
      Numeral.number ⟨true, ['0'], some ['7', '5']⟩ := by
    decide +kernel
  rw [if_neg divides, if_pos finite, value] at joined
  exact ⟨left, right, joined.1, joined.2⟩

end Keypad
